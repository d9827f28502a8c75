/-!
# LIKE patterns

`%` stands for any text, `_` for any one character, and a backslash makes the
next character stand for itself; a backslash at the end stands for itself. A
pattern matches whole texts, character by character.
-/

set_option autoImplicit false

namespace ColumnarSql.Like

inductive Token where
  | anyText
  | anyChar
  | exact (c : Char)
deriving DecidableEq

/-- The tokens of a written pattern. -/
def tokens : List Char → List Token
  | [] => []
  | '%' :: r => .anyText :: tokens r
  | '_' :: r => .anyChar :: tokens r
  | '\\' :: c :: r => .exact c :: tokens r
  | c :: r => .exact c :: tokens r

/-- Any text twice in a row is any text once. -/
def collapse : List Token → List Token
  | [] => []
  | t :: ts => if t = .anyText ∧ ts.head? = some .anyText then collapse ts else t :: collapse ts

/-- Whether a token may stand for a text that the character is in. -/
def Token.takes (c : Char) : Token → Bool
  | anyText | anyChar => true
  | exact d => d = c

/-! ## Reached places

A row has a flag for each place before, between and after the tokens: whether a
text read so far can lead there. Any text is entered and left again at once, and
its place is kept while characters are read.
-/

/-- The places reached without a further character. `entered` says whether the
first place is reached from the one before it. -/
def pass (entered : Bool) : List Token → List Bool → List Bool
  | t :: ts, here :: row =>
    let here := here || entered
    here :: pass (here && t = .anyText) ts row
  | [], here :: row => (here || entered) :: row
  | _, [] => []

/-- The places reached by a character. `entered` says whether the first place is
reached from the one before it. -/
def read (c : Char) (entered : Bool) : List Token → List Bool → List Bool
  | t :: ts, here :: row =>
    (entered || here && t = .anyText) :: read c (here && t.takes c) ts row
  | _, _ => [entered]

/-- The places reached by the empty text. -/
def startRow (ts : List Token) : List Bool := pass true ts (List.replicate (ts.length + 1) false)

/-- The places reached by a text. -/
def reached (ts : List Token) (s : List Char) : List Bool :=
  s.foldl (fun row c => pass false ts (read c false ts row)) (startRow ts)

/-- Whether tokens match a text: the text leads past the last of them. -/
def accepts (ts : List Token) (s : List Char) : Bool := (reached ts s).getLastD false

/-- Whether a text matches a pattern. -/
def isMatch (pattern text : String) : Bool :=
  accepts (collapse (tokens pattern.toList)) text.toList

end ColumnarSql.Like
