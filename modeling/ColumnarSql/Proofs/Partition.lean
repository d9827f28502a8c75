import ColumnarSql.Grouping
import ColumnarSql.Proofs.EqualValues
import Mathlib.Data.List.Induction

/-!
# The groups of GROUP BY

Putting rows into buckets, in the order of their keys or in that of their appearance, puts every
row into exactly one bucket (`perm_byOrder`, `perm_byAppearance`). In the order of keys a bucket
has the key of its first row, to which the keys of its other rows are equal (`isClass_byOrder`).
So groups are never empty, cover all rows, and the key columns hold equal values all over a
group.
-/

set_option autoImplicit false

namespace ColumnarSql

/-! ## Buckets -/

/-- Rows with equal keys, the key of the first one standing for all. -/
structure Bucket.IsClass (key : Nat → List Value) (b : Bucket) : Prop where
  first : ∃ i rest, b.rows = i :: rest ∧ b.key = key i
  equal : ∀ i ∈ b.rows, Value.compareItems (key i) b.key = .eq

namespace Buckets

variable {key : Nat → List Value}

theorem isClass_single (i : Nat) : Bucket.IsClass key ⟨key i, [i]⟩ where
  first := ⟨i, [], rfl, rfl⟩
  equal := by simp [Value.compareItems_self]

theorem perm_addSorted (k : List Value) (i : Nat) :
    ∀ bs : List Bucket,
      ((addSorted k i bs).flatMap Bucket.rows).Perm (i :: bs.flatMap Bucket.rows)
  | [] => List.Perm.refl _
  | b :: bs => by
    unfold addSorted
    split
    · exact List.Perm.refl _
    · simp only [List.flatMap_cons, List.append_assoc]
      exact List.perm_middle
    · simp only [List.flatMap_cons]
      exact ((perm_addSorted k i bs).append_left b.rows).trans List.perm_middle

theorem isClass_addSorted (i : Nat) :
    ∀ {bs : List Bucket}, (∀ b ∈ bs, b.IsClass key) →
      ∀ b ∈ addSorted (key i) i bs, b.IsClass key
  | [], _ => by
    simp only [addSorted, List.mem_singleton, forall_eq]
    exact isClass_single i
  | b :: bs, h => by
    obtain ⟨hb, hbs⟩ := List.forall_mem_cons.mp h
    unfold addSorted
    split
    · exact List.forall_mem_cons.mpr ⟨isClass_single i, h⟩
    · next heq =>
      refine List.forall_mem_cons.mpr ⟨⟨?_, ?_⟩, hbs⟩
      · obtain ⟨j, rest, hrows, hkey⟩ := hb.first
        exact ⟨j, rest ++ [i], by simp [hrows], hkey⟩
      · intro j hj
        rcases List.mem_append.mp hj with hj | hj
        · exact hb.equal j hj
        · rw [List.mem_singleton.mp hj]
          exact heq
    · exact List.forall_mem_cons.mpr ⟨hb, isClass_addSorted i hbs⟩

theorem perm_foldl_addSorted :
    ∀ (rows : List Nat) (bs : List Bucket),
      ((rows.foldl (fun bs i => addSorted (key i) i bs) bs).flatMap Bucket.rows).Perm
        (rows ++ bs.flatMap Bucket.rows)
  | [], _ => List.Perm.refl _
  | i :: rows, bs =>
    (perm_foldl_addSorted rows _).trans
      (((perm_addSorted (key i) i bs).append_left rows).trans List.perm_middle)

theorem isClass_foldl_addSorted :
    ∀ (rows : List Nat) {bs : List Bucket}, (∀ b ∈ bs, b.IsClass key) →
      ∀ b ∈ rows.foldl (fun bs i => addSorted (key i) i bs) bs, b.IsClass key
  | [], _, h => h
  | i :: rows, _, h => isClass_foldl_addSorted rows (isClass_addSorted i h)

/-- Every row is in exactly one bucket. -/
theorem perm_byOrder (key : Nat → List Value) (rows : List Nat) :
    ((byOrder key rows).flatMap Bucket.rows).Perm rows := by
  have h := @perm_foldl_addSorted key rows []
  rwa [List.flatMap_nil, List.append_nil] at h

theorem isClass_byOrder (key : Nat → List Value) (rows : List Nat) :
    ∀ b ∈ byOrder key rows, b.IsClass key :=
  isClass_foldl_addSorted rows (by simp)

theorem perm_addLast (k : List Value) (i : Nat) :
    ∀ bs : List Bucket,
      ((addLast k i bs).flatMap Bucket.rows).Perm (i :: bs.flatMap Bucket.rows)
  | [] => List.Perm.refl _
  | b :: bs => by
    unfold addLast
    split
    · simp only [List.flatMap_cons, List.append_assoc]
      exact List.perm_middle
    · simp only [List.flatMap_cons]
      exact ((perm_addLast k i bs).append_left b.rows).trans List.perm_middle

theorem byAppearance_concat (key : Nat → List Value) (rows : List Nat) (i : Nat) :
    byAppearance key (rows ++ [i]) = addLast (key i) i (byAppearance key rows) := by
  simp [byAppearance]

theorem perm_byAppearance (key : Nat → List Value) (rows : List Nat) :
    ((byAppearance key rows).flatMap Bucket.rows).Perm rows := by
  induction rows using List.reverseRecOn with
  | nil => exact List.Perm.refl _
  | append_singleton rows i ih =>
    rw [byAppearance_concat]
    refine (perm_addLast (key i) i _).trans ?_
    exact (ih.cons i).trans (List.perm_append_singleton i rows).symm

/-- What a key finds was put into the buckets. -/
theorem mem_of_find {k : List Value} {rows : List Nat} {i : Nat}
    (h : i ∈ find k (byAppearance key rows)) : i ∈ rows := by
  refine (perm_byAppearance key rows).mem_iff.mp (List.mem_flatMap.mpr ?_)
  unfold find at h
  cases hb : (byAppearance key rows).find? fun b => b.key == k with
  | none => simp [hb] at h
  | some b => exact ⟨b, List.mem_of_find?_eq_some hb, by simpa [hb] using h⟩

end Buckets

/-! ## Groups -/

namespace Grouping

variable {columns : List Column} {n : Nat}

/-- Every row is in exactly one group. -/
theorem perm_groupsOf (columns : List Column) (n : Nat) :
    (groupsOf columns n).flatten.Perm (List.range n) := by
  rw [groupsOf, ← List.flatMap_def]
  exact Buckets.perm_byOrder _ _

theorem lt_of_mem_groupsOf {g : List Nat} {i : Nat} (hg : g ∈ groupsOf columns n)
    (hi : i ∈ g) : i < n :=
  List.mem_range.mp ((perm_groupsOf columns n).mem_iff.mp (List.mem_flatten.mpr ⟨g, hg, hi⟩))

theorem exists_group_of_lt {i : Nat} (hi : i < n) : ∃ g ∈ groupsOf columns n, i ∈ g :=
  List.mem_flatten.mp ((perm_groupsOf columns n).mem_iff.mpr (List.mem_range.mpr hi))

/-- A group has a first row, and a key column holds its value, up to equality, in every
row of the group. -/
theorem exists_first_of_mem_groupsOf {g : List Nat} (hg : g ∈ groupsOf columns n) :
    ∃ first rest, g = first :: rest ∧
      ∀ i ∈ g, ∀ c ∈ columns, (c.cell i).compare (c.cell first) = .eq := by
  obtain ⟨b, hb, rfl⟩ := List.mem_map.mp hg
  obtain ⟨⟨first, rest, hrows, hkey⟩, hequal⟩ := Buckets.isClass_byOrder _ _ b hb
  refine ⟨first, rest, hrows, fun i hi c hc => ?_⟩
  have hkeys := hequal i hi
  rw [hkey, Value.compareItems_map_eq] at hkeys
  exact hkeys c hc

end Grouping

end ColumnarSql
