import ColumnarSql.Text.CaseTable

/-!
# Letter case

Whole texts are mapped with the full mappings of every script: one character
may become several (`ß` to `SS`), and a capital sigma that ends a word becomes
the final sigma. `asciiUpper` changes the letters `a` to `z` only.
-/

set_option autoImplicit false

namespace ColumnarSql.Text

/-- Where a run sends a code point it contains. -/
def CaseRun.map? (r : CaseRun) (n : Nat) : Option Char :=
  if r.first ≤ n ∧ n ≤ r.last ∧ (n - r.first) % r.step = 0 then
    some (Char.ofNat ((n : Int) + r.offset).toNat)
  else none

/-- Expansion if there is one, else the simple mapping, else the character. -/
def mapCase (expansions : List (Nat × List Nat)) (runs : List CaseRun) (c : Char) : List Char :=
  match expansions.lookup c.toNat with
  | some cs => cs.map Char.ofNat
  | none => [(runs.findSome? (·.map? c.toNat)).getD c]

def lowerChar (c : Char) : List Char := mapCase lowerExpansions lowerRuns c

def upperChar (c : Char) : List Char := mapCase upperExpansions upperRuns c

def isLower (c : Char) : Bool := Category.lowerLetter.contains c || inRuns otherLower c

def isUpper (c : Char) : Bool := Category.upperLetter.contains c || inRuns otherUpper c

def isCased (c : Char) : Bool := isLower c || isUpper c || Category.titleLetter.contains c

def isCaseIgnorable (c : Char) : Bool :=
  Category.anyContains
      [.nonspacingMark, .enclosingMark, .format, .modifierLetter, .modifierSymbol] c ||
    inRuns otherIgnorable c

/-- Whether the first character that is not case ignorable is cased. -/
def casedAhead (cs : List Char) : Bool :=
  ((cs.dropWhile isCaseIgnorable).head?.map isCased).getD false

/-- Lower case of a text whose characters before it are `before`, last first. A
sigma with a cased character before it and none after it is final. -/
def lowerFrom (before : List Char) : List Char → List Char
  | [] => []
  | c :: r =>
    let mapped :=
      if c = 'Σ' then [if casedAhead before && !casedAhead r then 'ς' else 'σ'] else lowerChar c
    mapped ++ lowerFrom (c :: before) r

def lower (s : String) : String := String.ofList (lowerFrom [] s.toList)

def upper (s : String) : String := String.ofList (s.toList.flatMap upperChar)

/-- Upper case of the ASCII letters; every other character stays. -/
def asciiUpper (s : String) : String := String.ofList (s.toList.map Char.toUpper)

/-- Lower case of the ASCII letters; every other character stays. -/
def asciiLower (s : String) : String := String.ofList (s.toList.map Char.toLower)

end ColumnarSql.Text
