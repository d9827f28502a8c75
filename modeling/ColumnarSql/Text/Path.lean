/-!
# Dotted paths

A dotted path is split at every dot, so an empty text is one empty part.
-/

set_option autoImplicit false

namespace ColumnarSql.Text

/-- The pieces between the dots. -/
def splitDots : List Char → List (List Char)
  | [] => [[]]
  | c :: r =>
    if c = '.' then [] :: splitDots r
    else
      match splitDots r with
      | piece :: pieces => (c :: piece) :: pieces
      | [] => [[c]]

theorem splitDots_ne_nil : ∀ s : List Char, splitDots s ≠ []
  | [] => by simp [splitDots]
  | c :: r => by
    unfold splitDots
    split
    · simp
    · split <;> simp

/-- The parts of a dotted path. -/
def pathOf (s : String) : List String := (splitDots s.toList).map String.ofList

/-- A path split at its first dot; without a dot it is one part. -/
def splitFirst (s : String) : List String :=
  let cs := s.toList
  match cs.dropWhile (· ≠ '.') with
  | [] => [s]
  | _ :: r => [String.ofList (cs.takeWhile (· ≠ '.')), String.ofList r]

/-- The text after the last dot; without a dot the whole text. -/
def afterLastDot (s : String) : String := (pathOf s).getLastD s

/-- Texts with a separator between them. -/
def joined (sep : String) (parts : List String) : String := String.intercalate sep parts

/-- The parts with dots between them. -/
def dotted (parts : List String) : String := joined "." parts

end ColumnarSql.Text
