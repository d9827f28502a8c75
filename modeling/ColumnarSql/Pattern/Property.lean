import ColumnarSql.Pattern.Property.Break
import ColumnarSql.Text.AgeTable
import ColumnarSql.Text.ScriptTable

/-!
# Properties by name

The sets that a pattern names: a binary property, a general category or a script by
its name alone, and a property with one of its values. In a name, case, blanks,
hyphens, underscores and a leading `is` do not matter.
-/

set_option autoImplicit false

namespace ColumnarSql.Property

open Text (Category)
open CharSet (ofRuns ofCategories)

/-- A name in the form the tables list. The name `isc` keeps its beginning, since
`c` names something else. -/
def normalize (name : List Char) : String :=
  let (isMarked, body) := match name with
    | a :: b :: r => if a.toLower = 'i' && b.toLower = 's' then (true, r) else (false, name)
    | _ => (false, name)
  let kept := body.filter fun c => c.toNat < 0x80 && c ≠ ' ' && c ≠ '_' && c ≠ '-'
  let kept := kept.map Char.toLower
  if isMarked && kept = ['c'] then "isc" else String.ofList kept

/-- The value of the first entry with a name. -/
def named? {α : Type} (table : List (List String × α)) (name : String) : Option α :=
  (table.find? fun e => e.1.contains name).map (·.2)

/-! ## General categories -/

/-- Short and long names of the categories and their groups. -/
def categoryNames : List (List String × List Category) := [
  (["l", "letter"], Category.letters),
  (["lu", "uppercaseletter"], [.upperLetter]),
  (["ll", "lowercaseletter"], [.lowerLetter]),
  (["lt", "titlecaseletter"], [.titleLetter]),
  (["lc", "casedletter"], [.upperLetter, .lowerLetter, .titleLetter]),
  (["lm", "modifierletter"], [.modifierLetter]),
  (["lo", "otherletter"], [.otherLetter]),
  (["m", "mark", "combiningmark"], Category.marks),
  (["mn", "nonspacingmark"], [.nonspacingMark]),
  (["mc", "spacingmark"], [.spacingMark]),
  (["me", "enclosingmark"], [.enclosingMark]),
  (["n", "number"], Category.numbers),
  (["nd", "decimalnumber", "digit"], [.decimalDigit]),
  (["nl", "letternumber"], [.letterNumber]),
  (["no", "othernumber"], [.otherNumber]),
  (["p", "punctuation", "punct"], Category.punctuation),
  (["pc", "connectorpunctuation"], [.connector]),
  (["pd", "dashpunctuation"], [.dash]),
  (["ps", "openpunctuation"], [.opening]),
  (["pe", "closepunctuation"], [.closing]),
  (["pi", "initialpunctuation"], [.initialQuote]),
  (["pf", "finalpunctuation"], [.finalQuote]),
  (["po", "otherpunctuation"], [.otherPunctuation]),
  (["s", "symbol"], Category.symbols),
  (["sm", "mathsymbol"], [.mathSymbol]),
  (["sc", "currencysymbol"], [.currencySymbol]),
  (["sk", "modifiersymbol"], [.modifierSymbol]),
  (["so", "othersymbol"], [.otherSymbol]),
  (["z", "separator"], Category.separators),
  (["zs", "spaceseparator"], [.space]),
  (["zl", "lineseparator"], [.lineSeparator]),
  (["zp", "paragraphseparator"], [.paragraphSeparator]),
  (["cc", "control", "cntrl"], [.control]),
  (["cf", "format"], [.format]),
  (["co", "privateuse"], [.privateUse]),
  (["assigned"], Category.assigned)]

/-- The set of a general category. What is other or unassigned is what the tables
leave. -/
def category? (name : String) : Option CharSet :=
  if name = "any" then some .all
  else if name = "ascii" then some (.range '\x00' '\x7f')
  else if name = "c" || name = "other" then
    some (ofCategories (Category.graphic ++ Category.separators)).compl
  else if name = "cn" || name = "unassigned" then some (ofCategories Category.assigned).compl
  else (named? categoryNames name).map ofCategories

/-! ## Scripts -/

def findScript? (name : String) : Option Text.Script :=
  Text.scripts.find? fun s => s.names.contains name

/-- The characters whose script is the one named. -/
def script? (name : String) : Option CharSet := (findScript? name).map fun s => ofRuns s.runs

/-- The characters that the script uses: of those in the table of shared characters
the ones listed there, and its own others. -/
def usedBy (s : Text.Script) : CharSet :=
  let here := Text.sharedAmongScripts.filter fun e => e.scripts.any s.names.contains
  ((ofRuns s.runs).diff (ofRuns (Text.sharedAmongScripts.flatMap (·.runs)))).union
    (ofRuns (here.flatMap (·.runs)))

/-! ## Ages -/

/-- The characters of a version and of those before it. -/
def age? (name : String) : Option CharSet :=
  let hasName := fun v : Text.Version => v.names.contains name
  match Text.versions.find? hasName with
  | some v =>
    let earlier := Text.versions.takeWhile fun v => !hasName v
    some (ofRuns ((v :: earlier).flatMap (·.added)))
  | none => none

/-! ## Queries -/

/-- The set of a name without a property. -/
def set? (name : List Char) : Option CharSet :=
  let n := normalize name
  (named? binaryNames n).or ((category? n).or (script? n))

/-- The properties that take values. -/
inductive Valued where
  | category
  | script
  | scriptExtensions
  | age
  | grapheme
  | word
  | sentence

def valuedNames : List (List String × Valued) := [
  (["gc", "generalcategory"], .category), (["sc", "script"], .script),
  (["scx", "scriptextensions"], .scriptExtensions), (["age"], .age),
  (["gcb", "graphemeclusterbreak"], .grapheme), (["wb", "wordbreak"], .word),
  (["sb", "sentencebreak"], .sentence)]

/-- The characters for which the property has the value with a name. -/
def Valued.set? (value : String) : Valued → Option CharSet
  | category => category? value
  | script => script? value
  | scriptExtensions => (findScript? value).map usedBy
  | age => age? value
  | grapheme => named? Grapheme.parts value
  | word => named? Word.parts value
  | sentence => named? Sentence.parts value

/-- The set of the characters for which a property has a value. -/
def setOfValue? (property value : List Char) : Option CharSet :=
  (named? valuedNames (normalize property)).bind (·.set? (normalize value))

end ColumnarSql.Property
