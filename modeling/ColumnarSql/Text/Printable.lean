import ColumnarSql.Text.Category
import ColumnarSql.Text.PropertyTable

/-!
# Printable characters

A character is printable unless it is a control or format character, a
separator other than the space, private, unassigned, or one of the Hangul
fillers, which are letters that show nothing. Grapheme extenders attach to the
character before them.
-/

set_option autoImplicit false

namespace ColumnarSql.Text

/-- Letters that show nothing. -/
def fillers : List CodeRun :=
  [⟨0x115f, 0x1160, 1⟩, ⟨0x3164, 0x3164, 1⟩, ⟨0xffa0, 0xffa0, 1⟩]

def isPrintable (c : Char) : Bool :=
  c = ' ' || (Category.anyContains Category.graphic c && !inRuns fillers c)

def isGraphemeExtend (c : Char) : Bool :=
  0x300 ≤ c.toNat &&
    (Category.anyContains [.nonspacingMark, .enclosingMark] c || inRuns otherGraphemeExtenders c)

end ColumnarSql.Text
