import ColumnarSql.Column

/-!
# Sorting

A stable sort by several keys, each ascending or descending. NULL comes before
every other value, so it is first ascending and last descending.
-/

set_option autoImplicit false

namespace ColumnarSql

inductive SortOrder where
  | ascending
  | descending
deriving DecidableEq

namespace SortOrder

/-- `DESC` in any case descends; every other word, and none, ascends. -/
def ofKeyword (word : Option String) : SortOrder :=
  if word.map Text.asciiUpper = some "DESC" then descending else ascending

def apply (o : SortOrder) (c : Ordering) : Ordering :=
  match o with
  | ascending => c
  | descending => c.swap

end SortOrder

namespace Sorting

/-- Inserts an element into a list that is in descending order. The element goes
before the first one it does not precede, so that of equals it is nearer to the
front. -/
def insertDescending {α : Type} (precedes : α → α → Bool) (a : α) : List α → List α
  | [] => [a]
  | b :: bs => if precedes a b then b :: insertDescending precedes a bs else a :: b :: bs

/-- The elements in ascending order; equal elements keep their order. -/
def stable {α : Type} (precedes : α → α → Bool) (as : List α) : List α :=
  (as.foldl (fun sorted a => insertDescending precedes a sorted) []).reverse

/-- Compares two rows by keys, the first difference deciding. -/
def compareRows (keys : List (Column × SortOrder)) (i j : Nat) : Ordering :=
  keys.foldr (fun k rest => (k.2.apply (Value.compare (k.1.cell i) (k.1.cell j))).then rest) .eq

/-- The rows `0, 1, …` in the order of the keys. -/
def rowOrder (keys : List (Column × SortOrder)) (numRows : Nat) : List Nat :=
  stable (fun i j => (compareRows keys i j).isLT) (List.range numRows)

theorem perm_insertDescending {α : Type} (precedes : α → α → Bool) (a : α) :
    ∀ bs : List α, (insertDescending precedes a bs).Perm (a :: bs)
  | [] => List.Perm.refl _
  | b :: bs => by
    unfold insertDescending
    split
    · exact ((perm_insertDescending precedes a bs).cons b).trans (List.Perm.swap a b bs)
    · exact List.Perm.refl _

theorem perm_foldl_insertDescending {α : Type} (precedes : α → α → Bool) :
    ∀ as bs : List α,
      (as.foldl (fun sorted a => insertDescending precedes a sorted) bs).Perm (as ++ bs)
  | [], bs => List.Perm.refl bs
  | a :: as, bs =>
    ((perm_foldl_insertDescending precedes as _).trans
      ((perm_insertDescending precedes a bs).append_left as)).trans List.perm_middle

/-- Sorting loses and adds nothing. -/
theorem perm_stable {α : Type} (precedes : α → α → Bool) (as : List α) :
    (stable precedes as).Perm as := by
  have h := perm_foldl_insertDescending precedes as []
  rw [List.append_nil] at h
  exact (List.reverse_perm _).trans h

theorem perm_rowOrder (keys : List (Column × SortOrder)) (numRows : Nat) :
    (rowOrder keys numRows).Perm (List.range numRows) :=
  perm_stable _ _

end Sorting

end ColumnarSql
