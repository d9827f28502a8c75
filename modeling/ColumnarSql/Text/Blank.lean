import ColumnarSql.Text.CodeRun

/-!
# Blank characters

The White_Space property, and a text without the blanks at its ends.
-/

set_option autoImplicit false

namespace ColumnarSql.Text

/-- The White_Space property. -/
def blankRuns : List CodeRun :=
  [⟨0x9, 0xd, 1⟩, ⟨0x20, 0x20, 1⟩, ⟨0x85, 0x85, 1⟩, ⟨0xa0, 0xa0, 1⟩, ⟨0x1680, 0x1680, 1⟩,
    ⟨0x2000, 0x200a, 1⟩, ⟨0x2028, 0x2029, 1⟩, ⟨0x202f, 0x202f, 1⟩, ⟨0x205f, 0x205f, 1⟩,
    ⟨0x3000, 0x3000, 1⟩]

def isBlank (c : Char) : Bool := inRuns blankRuns c

/-- Text without leading blanks. -/
def trimLeft (s : List Char) : List Char := s.dropWhile isBlank

/-- Text without leading and trailing blanks. -/
def trim (s : List Char) : List Char := (trimLeft (trimLeft s).reverse).reverse

/-- Text before the given ending, if it has that ending. -/
def dropEnding? (s ending : List Char) : Option (List Char) :=
  if ending.isSuffixOf s then some (s.take (s.length - ending.length)) else none

end ColumnarSql.Text
