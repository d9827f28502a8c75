import ColumnarSql.Text.CaseTable

/-!
# Characters that differ only in case

Two characters differ only in case if steps along the simple case mappings, taken
forwards or backwards, lead from one to the other. The longest way has three steps.
-/

set_option autoImplicit false

namespace ColumnarSql.Text

/-- The mapping back. -/
def CaseRun.inverse (r : CaseRun) : CaseRun :=
  ⟨((r.first : Int) + r.offset).toNat, ((r.last : Int) + r.offset).toNat, r.step, -r.offset⟩

/-- Three pairs that are two ways to write one character. -/
def doubleForms : List CaseRun :=
  [⟨0x1fd3, 0x1fd3, 1, -7235⟩, ⟨0x1fe3, 0x1fe3, 1, -7219⟩, ⟨0xfb05, 0xfb05, 1, 1⟩]

/-- Steps between characters that differ only in case. The dotless `ı` is no
small `I`, although `I` is its capital. -/
def caseSteps : List CaseRun :=
  let forwards := lowerRuns ++ upperRuns.filter (·.first ≠ 0x131) ++ doubleForms
  forwards ++ forwards.map CaseRun.inverse

/-- Steps of the longest way between two characters that differ only in case. -/
def maxCaseSteps : Nat := 3

end ColumnarSql.Text
