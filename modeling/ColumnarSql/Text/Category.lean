import ColumnarSql.Text.LetterTable
import ColumnarSql.Text.SignTable

/-!
# General categories

Every assigned character has one general category: a kind of letter, mark, number,
punctuation, symbol, separator or something else. The code points in none of the
tables are unassigned.
-/

set_option autoImplicit false

namespace ColumnarSql.Text

inductive Category where
  | upperLetter
  | lowerLetter
  | titleLetter
  | modifierLetter
  | otherLetter
  | nonspacingMark
  | spacingMark
  | enclosingMark
  | decimalDigit
  | letterNumber
  | otherNumber
  | connector
  | dash
  | opening
  | closing
  | initialQuote
  | finalQuote
  | otherPunctuation
  | mathSymbol
  | currencySymbol
  | modifierSymbol
  | otherSymbol
  | space
  | lineSeparator
  | paragraphSeparator
  | control
  | format
  | privateUse
deriving DecidableEq

namespace Category

/-! ## Groups of categories -/

def letters : List Category :=
  [upperLetter, lowerLetter, titleLetter, modifierLetter, otherLetter]

def marks : List Category := [nonspacingMark, spacingMark, enclosingMark]

def numbers : List Category := [decimalDigit, letterNumber, otherNumber]

def punctuation : List Category :=
  [connector, dash, opening, closing, initialQuote, finalQuote, otherPunctuation]

def symbols : List Category := [mathSymbol, currencySymbol, modifierSymbol, otherSymbol]

def separators : List Category := [space, lineSeparator, paragraphSeparator]

/-- Categories whose characters have a shape of their own. -/
def graphic : List Category := letters ++ marks ++ numbers ++ punctuation ++ symbols

/-- All categories. -/
def assigned : List Category := graphic ++ separators ++ [control, format, privateUse]

/-! ## Membership -/

/-- The table of a category. -/
def runs : Category → List CodeRun
  | upperLetter => upperLetters
  | lowerLetter => lowerLetters
  | titleLetter => titleLetters
  | modifierLetter => modifierLetters
  | otherLetter => otherLetters
  | nonspacingMark => nonspacingMarks
  | spacingMark => spacingMarks
  | enclosingMark => enclosingMarks
  | decimalDigit => decimalDigits
  | letterNumber => letterNumbers
  | otherNumber => otherNumbers
  | connector => connectors
  | dash => dashes
  | opening => openings
  | closing => closings
  | initialQuote => initialQuotes
  | finalQuote => finalQuotes
  | otherPunctuation => Text.otherPunctuation
  | mathSymbol => mathSymbols
  | currencySymbol => currencySymbols
  | modifierSymbol => modifierSymbols
  | otherSymbol => otherSymbols
  | space => spaces
  | lineSeparator => lineSeparators
  | paragraphSeparator => paragraphSeparators
  | control => controls
  | format => formats
  | privateUse => Text.privateUse

def contains (k : Category) (c : Char) : Bool := inRuns k.runs c

/-- Whether a character has one of some categories. -/
def anyContains (cs : List Category) (c : Char) : Bool := cs.any (·.contains c)

end Category

/-- Letters, letter numbers, vowel signs and enclosed letters. -/
def isAlphabetic (c : Char) : Bool :=
  Category.anyContains (.letterNumber :: Category.letters) c || inRuns otherAlphabetic c

end ColumnarSql.Text
