import ColumnarSql.Value.Order

/-!
# Rows by key

A bucket is a key with the rows that have it. `byAppearance` keeps the buckets
in the order their keys first appear and puts a row into the first bucket of an
equal key. `byOrder` keeps them in ascending order of their keys.
-/

set_option autoImplicit false

namespace ColumnarSql

/-- A key and its rows, in ascending order. -/
structure Bucket where
  key : List Value
  rows : List Nat

namespace Buckets

/-- Puts a row into the first bucket of an equal key, or into a new last one. -/
def addLast (key : List Value) (row : Nat) : List Bucket → List Bucket
  | [] => [⟨key, [row]⟩]
  | b :: bs => if b.key == key then ⟨b.key, b.rows ++ [row]⟩ :: bs else b :: addLast key row bs

/-- The rows of a list by their keys, keys in order of first appearance. -/
def byAppearance (key : Nat → List Value) (rows : List Nat) : List Bucket :=
  rows.foldl (fun bs i => addLast (key i) i bs) []

/-- The rows of the first bucket of an equal key. -/
def find (key : List Value) (bs : List Bucket) : List Nat :=
  ((bs.find? fun b => b.key == key).map Bucket.rows).getD []

/-- Puts a row into the bucket of an equal key, or into a new one before the
first greater key. -/
def addSorted (key : List Value) (row : Nat) : List Bucket → List Bucket
  | [] => [⟨key, [row]⟩]
  | b :: bs =>
    match Value.compareItems key b.key with
    | .lt => ⟨key, [row]⟩ :: b :: bs
    | .eq => ⟨b.key, b.rows ++ [row]⟩ :: bs
    | .gt => b :: addSorted key row bs

/-- The rows of a list by their keys, keys ascending. -/
def byOrder (key : Nat → List Value) (rows : List Nat) : List Bucket :=
  rows.foldl (fun bs i => addSorted (key i) i bs) []

end Buckets

end ColumnarSql
