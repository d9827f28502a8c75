import ColumnarSql.Number.Reading
import ColumnarSql.Pattern.Property
import ColumnarSql.Pattern.Regex.Basic

/-!
# Reading pieces of a pattern

The flags in force, the blanks and comments a verbose pattern skips, numbers,
and what a backslash begins.
-/

set_option autoImplicit false

namespace ColumnarSql.Regex

/-- What a pattern means by its characters at some place. -/
structure Flags where
  ignoreCase : Bool
  multiLine : Bool
  dotNewline : Bool
  crlf : Bool
  verbose : Bool
  /-- Sets and case have their ASCII meaning, and brackets list only ASCII characters. -/
  ascii : Bool
  /-- A repetition prefers few copies unless a question mark follows. -/
  swapGreed : Bool

namespace Flags

/-- The flags a pattern begins with. -/
def initial : Flags := ⟨false, false, false, false, false, false, false⟩

/-- The flag of a letter switched on or off. -/
def set? (fl : Flags) (letter : Char) (on : Bool) : Option Flags :=
  match letter with
  | 'i' => some { fl with ignoreCase := on }
  | 'm' => some { fl with multiLine := on }
  | 's' => some { fl with dotNewline := on }
  | 'R' => some { fl with crlf := on }
  | 'x' => some { fl with verbose := on }
  | 'u' => some { fl with ascii := !on }
  | 'U' => some { fl with swapGreed := on }
  | _ => none

end Flags

/-! ## Blanks and numbers -/

/-- Drops blanks and comments; a comment goes from `#` to the end of its line. -/
def dropSkipped (inComment : Bool) : List Char → List Char
  | [] => []
  | c :: r =>
    if inComment then dropSkipped (c ≠ '\n') r
    else if Text.isBlank c then dropSkipped false r
    else if c = '#' then dropSkipped true r
    else c :: r

/-- What is left after what a verbose pattern skips. -/
def skip (fl : Flags) (s : List Char) : List Char := if fl.verbose then dropSkipped false s else s

/-- The characters of one kind at the front, with what is skipped between them. -/
def collect (fl : Flags) (p : Char → Bool) : Bool → List Char → List Char × List Char
  | _, [] => ([], [])
  | inComment, c :: r =>
    if inComment then collect fl p (c ≠ '\n') r
    else if p c then
      let (cs, rest) := collect fl p false r
      (c :: cs, rest)
    else if fl.verbose && Text.isBlank c then collect fl p false r
    else if fl.verbose && c = '#' then collect fl p true r
    else ([], c :: r)

/-- A number in decimal digits below `2 ^ 32`, with blanks around it. -/
def decimal? (fl : Flags) (s : List Char) : Option (Nat × List Char) :=
  let (ds, rest) := collect fl Char.isDigit false (Text.trimLeft s)
  let n := Reading.natOfDigits ds
  if ds = [] ∨ 0x100000000 ≤ n then none else some (n, skip fl (Text.trimLeft rest))

def hexValue? (c : Char) : Option Nat :=
  if c.isDigit then some (c.toNat - '0'.toNat)
  else if 'a' ≤ c ∧ c ≤ 'f' then some (c.toNat - 'a'.toNat + 10)
  else if 'A' ≤ c ∧ c ≤ 'F' then some (c.toNat - 'A'.toNat + 10)
  else none

/-- The character of a code point in hexadecimal digits. -/
def charOfHex? (ds : List Char) : Option Char := do
  let vs ← ds.mapM hexValue?
  let n := vs.foldl (fun n v => n * 16 + v) 0
  if ds ≠ [] ∧ n.isValidChar then some (Char.ofNat n) else none

/-- A fixed number of hexadecimal digits. -/
def hexDigits? (fl : Flags) : Nat → List Char → Option (List Char × List Char)
  | 0, s => some ([], s)
  | k + 1, s =>
    match skip fl s with
    | c :: r => (hexDigits? fl k r).map fun p => (c :: p.1, p.2)
    | [] => none

/-! ## Escapes -/

/-- What a backslash and the characters after it stand for. -/
inductive Escape where
  | char (c : Char)
  | set (s : CharSet)
  | look (l : Look)

/-- Characters with a meaning of their own in patterns. -/
def isMeta (c : Char) : Bool := "\\.+*?()|[]\x7b\x7d^$#&-~".toList.contains c

/-- A character that may follow a backslash without a change of meaning. -/
def isEscapable (c : Char) : Bool :=
  isMeta c || (c.toNat < 0x80 && !c.isAlphanum && c ≠ '<' && c ≠ '>')

/-- A code point after `x`, `u` or `U`, in braces or with a fixed number of digits.
Two digits stand for a byte where only ASCII has a meaning. -/
def hexEscape? (fl : Flags) (digits : Nat) (s : List Char) : Option (Escape × List Char) := do
  match skip fl s with
  | '\x7b' :: r =>
    match collect fl (fun c => (hexValue? c).isSome) false r with
    | (ds, '\x7d' :: rest) => return (.char (← charOfHex? ds), skip fl rest)
    | _ => none
  | r =>
    let (ds, rest) ← hexDigits? fl digits r
    let c ← charOfHex? ds
    if fl.ascii && digits = 2 && 0x80 ≤ c.toNat then none else return (.char c, skip fl rest)

/-- Text before and after the first occurrence of a mark. -/
def splitAt? (mark : List Char) : List Char → Option (List Char × List Char)
  | [] => none
  | c :: r =>
    if mark.isPrefixOf (c :: r) then some ([], (c :: r).drop mark.length)
    else (splitAt? mark r).map fun p => (c :: p.1, p.2)

/-- What stands between the braces of a property: its set, and whether the sign
between its name and its value says that the value is another one. -/
def propertySet? (text : List Char) : Option (CharSet × Bool) :=
  match splitAt? ['!', '='] text with
  | some (p, v) => (Property.setOfValue? p v).map (·, true)
  | none =>
    match (splitAt? [':'] text).or (splitAt? ['='] text) with
    | some (p, v) => (Property.setOfValue? p v).map (·, false)
    | none => (Property.set? text).map (·, false)

/-- A property: one letter, or a text in braces. The set is closed under case before
its complement is taken. -/
def propertyEscape? (fl : Flags) (negated : Bool) (s : List Char) :
    Option (Escape × List Char) := do
  let isInside := fun c => c ≠ '\x7d' && !(fl.verbose && (Text.isBlank c || c = '#'))
  let (text, rest) ←
    match skip fl s with
    | '\x7b' :: r =>
      match collect fl isInside false r with
      | (text, '\x7d' :: rest) => some (text, rest)
      | _ => none
    | '\\' :: _ | [] => none
    | c :: r => some ([c], skip fl r)
  if fl.ascii then none
  let (set, isOther) ← propertySet? text
  return (.set ((set.foldedIf fl.ignoreCase false).negatedIf (negated != isOther)), rest)

/-- Digits, blanks or word characters; their complements are not ASCII. -/
def classEscape? (fl : Flags) (c : Char) : Option CharSet := do
  let set ← match c.toLower with
    | 'd' => some (if fl.ascii then .asciiDigits else .digits)
    | 's' => some (if fl.ascii then .asciiBlanks else .blanks)
    | 'w' => some (if fl.ascii then .asciiWords else .words)
    | _ => none
  if c.isUpper then (if fl.ascii then none else some (.compl set)) else some set

/-- The word conditions written `\b` and a name in braces. -/
def namedEdge? (name : List Char) : Option WordEdge :=
  ([("start", .start), ("end", .finish), ("start-half", .startHalf),
    ("end-half", .finishHalf)] : List (String × WordEdge)).lookup (String.ofList name)

/-- A name in braces after `\b`; braces that begin otherwise are left alone. -/
def edgeEscape? (fl : Flags) (s : List Char) : Option (Escape × List Char) := do
  let isNameChar := fun c : Char => c.isAlpha || c = '-'
  let plain : Escape × List Char := (.look (.word .edge fl.ascii), s)
  match s with
  | '\x7b' :: r =>
    match skip fl r with
    | [] => none
    | c :: r =>
      if !isNameChar c then return plain
      match collect fl isNameChar false (c :: r) with
      | (name, '\x7d' :: rest) => return (.look (.word (← namedEdge? name) fl.ascii), rest)
      | _ => none
  | _ => return plain

/-- What a single letter after a backslash stands for. -/
def letterEscape? (fl : Flags) : Char → Option Escape
  | 'a' => some (.char '\x07')
  | 'f' => some (.char '\x0c')
  | 't' => some (.char '\t')
  | 'n' => some (.char '\n')
  | 'r' => some (.char '\r')
  | 'v' => some (.char '\x0b')
  | 'A' => some (.look .textStart)
  | 'z' => some (.look .textEnd)
  | 'B' => some (.look (.word .noEdge fl.ascii))
  | '<' => some (.look (.word .start fl.ascii))
  | '>' => some (.look (.word .finish fl.ascii))
  | _ => none

/-- What follows a backslash. -/
def escape? (fl : Flags) : List Char → Option (Escape × List Char)
  | [] => none
  | 'x' :: r => hexEscape? fl 2 r
  | 'u' :: r => hexEscape? fl 4 r
  | 'U' :: r => hexEscape? fl 8 r
  | 'p' :: r => propertyEscape? fl false r
  | 'P' :: r => propertyEscape? fl true r
  | 'b' :: r => edgeEscape? fl r
  | c :: r =>
    if isEscapable c then some (.char c, r)
    else
      match classEscape? fl c with
      | some set => some (.set set, r)
      | none =>
        if "dswDSW".toList.contains c then none
        else (letterEscape? fl c).map fun e => (e, r)

end ColumnarSql.Regex
