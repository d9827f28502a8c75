import Mathlib.Logic.Function.Basic
import ColumnarSql.Proofs.Hashing
import ColumnarSql.Proofs.KeyClasses

/-!
# Keys of hash tables

Equal values are read alike by a hash function, and so are equal keys of several values
(`Value.digest_eq_of_beq`). A hash table looks for a key in the slot of its hash alone, so it rests
on this. Whatever the hash function, each slot holds those buckets whose keys have its hash
(`Buckets.slots_eq_filter`), and the slot of a key finds the rows that a search through all buckets
finds (`Buckets.find_slots`).
-/

set_option autoImplicit false

namespace ColumnarSql

namespace Value

theorem digestKey_eq_of_compareItems {k l : List Value} (h : compareItems k l = .eq) :
    digestKey k = digestKey l := by
  rw [digestKey, digestKey, length_eq_of_compareItems h, digestAll_eq_of_compareItems h]

theorem keys_beq_iff {k l : List Value} : k == l ↔ compareItems k l = .eq := by
  rw [Buckets.beq_eq_isEq, Ordering.isEq_iff_eq_eq]

end Value

/-! ## Slots -/

namespace Buckets

variable (hash : List DigestPart → UInt64)

def hashOf (key : List Value) : UInt64 := hash (Value.digestKey key)

/-- Equal keys have equal hashes. -/
theorem hashOf_congr {k l : List Value} (h : k == l) : hashOf hash k = hashOf hash l :=
  congrArg hash (Value.digestKey_eq_of_compareItems (Value.keys_beq_iff.mp h))

/-- Puts a row into the bucket of its key in the slot of its hash. -/
def addSlot (key : List Value) (row : Nat) (slots : UInt64 → List Bucket) :
    UInt64 → List Bucket :=
  Function.update slots (hashOf hash key) (addLast key row (slots (hashOf hash key)))

/-- The rows of a list by their keys, in slots by the hashes of the keys. -/
def slots (key : Nat → List Value) (rows : List Nat) : UInt64 → List Bucket :=
  rows.foldl (fun table i => addSlot hash (key i) i table) fun _ => []

/-- A row goes to the buckets of its hash, and leaves all others as they are. -/
theorem filter_addLast (h : UInt64) (k : List Value) (i : Nat) : ∀ bs : List Bucket,
    (addLast k i bs).filter (fun b => hashOf hash b.key = h) =
      if hashOf hash k = h then addLast k i (bs.filter fun b => hashOf hash b.key = h)
      else bs.filter fun b => hashOf hash b.key = h
  | [] => by
    by_cases hk : hashOf hash k = h <;> simp [addLast, hk]
  | b :: bs => by
    have ih := filter_addLast h k i bs
    by_cases hb : b.key == k
    · have hhash := hashOf_congr hash hb
      by_cases hk : hashOf hash k = h <;> simp [addLast, hb, hhash, hk]
    · by_cases hk : hashOf hash k = h <;> by_cases hbk : hashOf hash b.key = h <;>
        simp_all [addLast]

/-- A slot holds the buckets whose keys have its hash, in the order of their first rows. -/
theorem slots_eq_filter (key : Nat → List Value) (rows : List Nat) (h : UInt64) :
    slots hash key rows h = (byAppearance key rows).filter fun b => hashOf hash b.key = h := by
  induction rows using List.reverseRecOn generalizing h with
  | nil => rfl
  | append_singleton rows i ih =>
    have hslots : slots hash key (rows ++ [i]) = addSlot hash (key i) i (slots hash key rows) := by
      simp [slots]
    rw [hslots, byAppearance_concat, filter_addLast, addSlot, Function.update_apply, ih h]
    split_ifs with hi hkey hkey
    · rw [← hi, ih]
    · exact absurd hi.symm hkey
    · exact absurd hkey.symm hi
    · rfl

/-- The slot of a key finds what a search through all buckets finds. -/
theorem find_slots (key : Nat → List Value) (rows : List Nat) (k : List Value) :
    find k (slots hash key rows (hashOf hash k)) = find k (byAppearance key rows) := by
  have hequal (b : Bucket) : b.key == k → hashOf hash b.key = hashOf hash k := hashOf_congr hash
  rw [slots_eq_filter, find, find, List.find?_filter]
  congr 3
  funext b
  cases hb : b.key == k with
  | false => simp
  | true => simp [hequal b hb]

end Buckets

end ColumnarSql
