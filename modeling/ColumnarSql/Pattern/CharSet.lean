import ColumnarSql.Text.Blank
import ColumnarSql.Text.Category
import ColumnarSql.Text.Fold

/-!
# Sets of characters

A set is a list of spans of code points in ascending order. The surrogates are no
characters: a span may run across them, and the character before them and the one
after them are neighbours.
-/

set_option autoImplicit false

namespace ColumnarSql

/-- The code points from `first` to `last`. -/
structure Span where
  first : Nat
  last : Nat
deriving DecidableEq

namespace Span

def single (n : Nat) : Span := ⟨n, n⟩

/-- The span between two code points given in any order. -/
def between (a b : Nat) : Span := ⟨min a b, max a b⟩

def contains (s : Span) (n : Nat) : Bool := s.first ≤ n && n ≤ s.last

/-- Ascending by the first code point, then by the last. -/
def le (a b : Span) : Bool := a.first < b.first || (a.first = b.first && a.last ≤ b.last)

/-- Ascending spans with those joined that overlap or touch. -/
def join : List Span → List Span
  | a :: b :: r =>
    if b.first ≤ a.last + 1 then join (⟨a.first, max a.last b.last⟩ :: r) else a :: join (b :: r)
  | l => l
termination_by l => l.length

/-- Any spans, sorted and joined. -/
def normalize (l : List Span) : List Span := join (l.mergeSort le)

/-! ## Neighbours -/

def maxCode : Nat := 0x10ffff

/-- The character after a character. -/
def next (n : Nat) : Nat := if n = 0xd7ff then 0xe000 else n + 1

/-- The character before a character. -/
def prev (n : Nat) : Nat := if n = 0xe000 then 0xd7ff else n - 1

/-- What lies between and after spans. Between spans that only the surrogates
separate lie the two characters next to the surrogates. -/
def gaps : List Span → List Span
  | [] => []
  | [a] => if a.last < maxCode then [⟨next a.last, maxCode⟩] else []
  | a :: b :: r => between (next a.last) (prev b.first) :: gaps (b :: r)

/-! ## Two lists of spans -/

/-- The common code points. -/
def inter : List Span → List Span → List Span
  | [], _ | _, [] => []
  | a :: as, b :: bs =>
    let rest := if a.last < b.last then inter as (b :: bs) else inter (a :: as) bs
    let first := max a.first b.first
    let last := min a.last b.last
    if first ≤ last then ⟨first, last⟩ :: rest else rest
termination_by l m => l.length + m.length

/-- The code points of the first list that are not in the second. -/
def diff : List Span → List Span → List Span
  | [], _ => []
  | l, [] => l
  | a :: as, b :: bs =>
    if b.last < a.first then diff (a :: as) bs
    else if a.last < b.first then a :: diff as (b :: bs)
    else
      let rest :=
        if b.last < a.last then diff (⟨next b.last, a.last⟩ :: as) bs else diff as (b :: bs)
      if a.first < b.first then ⟨a.first, prev b.first⟩ :: rest else rest
termination_by l m => l.length + m.length

end Span

/-- The spans of a run. -/
def Text.CodeRun.spans (r : Text.CodeRun) : List Span :=
  if r.step = 1 then [⟨r.first, r.last⟩]
  else (List.range ((r.last - r.first) / r.step + 1)).map fun i => .single (r.first + i * r.step)

/-- Whether two spans have code points in common. -/
def Span.meets (a b : Span) : Bool := a.first ≤ b.last && b.first ≤ a.last

/-- Where a case mapping sends the part of a span that lies in its run. -/
def Text.CaseRun.image (r : Text.CaseRun) (s : Span) : List Span :=
  let shift := fun n : Nat => ((n : Int) + r.offset).toNat
  let first := max r.first s.first
  let first := first + (r.last - first) % r.step
  let last := min r.last s.last
  if last < first then []
  else if r.step = 1 then [⟨shift first, shift last⟩]
  else (List.range ((last - first) / r.step + 1)).map fun i => .single (shift (first + i * r.step))

structure CharSet where
  spans : List Span
deriving DecidableEq

namespace CharSet

def none : CharSet := ⟨[]⟩

def all : CharSet := ⟨[⟨0, Span.maxCode⟩]⟩

def range (first last : Char) : CharSet := ⟨[⟨first.toNat, last.toNat⟩]⟩

def single (c : Char) : CharSet := range c c

def ofRuns (runs : List Text.CodeRun) : CharSet := ⟨Span.normalize (runs.flatMap (·.spans))⟩

def ofCategories (ks : List Text.Category) : CharSet := ofRuns (ks.flatMap (·.runs))

/-! ## Operations -/

def isEmpty (a : CharSet) : Bool := a.spans.isEmpty

def contains (a : CharSet) (c : Char) : Bool := a.spans.any (·.contains c.toNat)

def union (a b : CharSet) : CharSet :=
  if b.isEmpty || a = b then a else ⟨Span.normalize (a.spans ++ b.spans)⟩

def ofList (sets : List CharSet) : CharSet := sets.foldl union none

def inter (a b : CharSet) : CharSet := ⟨Span.inter a.spans b.spans⟩

def diff (a b : CharSet) : CharSet := ⟨Span.diff a.spans b.spans⟩

def symmDiff (a b : CharSet) : CharSet := (a.union b).diff (a.inter b)

def compl (a : CharSet) : CharSet :=
  match a.spans with
  | [] => all
  | s :: _ => ⟨(if 0 < s.first then [⟨0, Span.prev s.first⟩] else []) ++ Span.gaps a.spans⟩

/-- The set or its complement. -/
def negatedIf (negated : Bool) (a : CharSet) : CharSet := if negated then compl a else a

/-- The only member of a set with one member. -/
def single? (a : CharSet) : Option Char :=
  match a.spans with
  | [s] => if s.first = s.last then some (Char.ofNat s.first) else Option.none
  | _ => Option.none

/-- Whether all members are ASCII. -/
def isAscii (a : CharSet) : Bool := a.spans.getLast?.all (·.last ≤ 0x7f)

/-! ## Case -/

/-- The set with all characters one step away. -/
def addSteps (steps : List Text.CaseRun) (a : CharSet) : CharSet :=
  let images := fun r : Text.CaseRun =>
    (a.spans.filter (Span.meets ⟨r.first, r.last⟩)).flatMap r.image
  a.union ⟨Span.normalize (steps.flatMap images)⟩

/-- The set with all characters up to a number of steps away. -/
def closure (steps : List Text.CaseRun) : Nat → CharSet → CharSet
  | 0, a => a
  | k + 1, a =>
    let b := a.addSteps steps
    if b = a then a else closure steps k b

/-- Steps between the ASCII letters that differ only in case. -/
def asciiSteps : List Text.CaseRun := [⟨0x41, 0x5a, 1, 32⟩, ⟨0x61, 0x7a, 1, -32⟩]

/-- All characters that differ from a member at most in case. -/
def folded (ascii : Bool) (a : CharSet) : CharSet :=
  if ascii then a.addSteps asciiSteps else closure Text.caseSteps Text.maxCaseSteps a

/-- The set, closed under case if case is ignored. -/
def foldedIf (ignoreCase ascii : Bool) (a : CharSet) : CharSet :=
  if ignoreCase then a.folded ascii else a

/-! ## Digits, blanks and words -/

def digits : CharSet := ofCategories [.decimalDigit]

def blanks : CharSet := ofRuns Text.blankRuns

def alphabetic : CharSet :=
  (ofCategories (.letterNumber :: Text.Category.letters)).union (ofRuns Text.otherAlphabetic)

def joiners : CharSet := range '\u200c' '\u200d'

/-- Alphabetic characters, marks, digits, connectors and the two joiners. -/
def words : CharSet :=
  ofList [alphabetic, ofCategories (.decimalDigit :: .connector :: Text.Category.marks), joiners]

/-! ## ASCII sets -/

def asciiDigits : CharSet := range '0' '9'

def asciiLower : CharSet := range 'a' 'z'

def asciiUpper : CharSet := range 'A' 'Z'

def asciiAlpha : CharSet := asciiLower.union asciiUpper

def asciiAlnum : CharSet := asciiAlpha.union asciiDigits

def asciiWords : CharSet := asciiAlnum.union (single '_')

def asciiBlanks : CharSet := (range '\t' '\r').union (single ' ')

def asciiHexDigits : CharSet := ofList [asciiDigits, range 'A' 'F', range 'a' 'f']

/-- The sets that brackets write as `[:name:]`. -/
def named : List (String × CharSet) := [
  ("alnum", asciiAlnum), ("alpha", asciiAlpha), ("ascii", range '\x00' '\x7f'),
  ("blank", (single '\t').union (single ' ')),
  ("cntrl", (range '\x00' '\x1f').union (single '\x7f')), ("digit", asciiDigits),
  ("graph", range '!' '~'), ("lower", asciiLower), ("print", range ' ' '~'),
  ("punct", (range '!' '~').diff asciiAlnum), ("space", asciiBlanks), ("upper", asciiUpper),
  ("word", asciiWords), ("xdigit", asciiHexDigits)]

end CharSet

end ColumnarSql
