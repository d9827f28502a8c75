import ColumnarSql.Proofs.Partition
import ColumnarSql.Proofs.ValueOrder

/-!
# Buckets as classes of equal keys

Rows whose keys are alike fall into classes of equal keys, and both ways of making buckets
find these classes (`classifies_byAppearance`, `classifies_byOrder`): each bucket holds all
rows of one class in their order. So both make the same groups of rows
(`rows_eq_of_classifies`). Looking up any key finds at most one class, that of the first row
with an equal key (`find_byAppearance`).
-/

set_option autoImplicit false

namespace ColumnarSql.Buckets

variable {key : Nat → List Value} {rows : List Nat} {bs : List Bucket}

/-- The rows with the key of row `i`. -/
def classOf (key : Nat → List Value) (rows : List Nat) (i : Nat) : List Nat :=
  rows.filter fun j => (Value.compareItems (key j) (key i)).isEq

/-- No integer key of one row meets a double key of another. -/
def AlikeKeys (key : Nat → List Value) (rows : List Nat) : Prop :=
  ∀ i ∈ rows, ∀ j ∈ rows, Value.alikeItems (key i) (key j)

/-- Buckets that hold the classes of equal keys, each in one bucket. -/
structure Classifies (key : Nat → List Value) (rows : List Nat) (bs : List Bucket) : Prop where
  classes : ∀ b ∈ bs, ∃ i ∈ rows, b.key = key i ∧ b.rows = classOf key rows i
  covers : ∀ i ∈ rows, ∃ k ∈ bs.map Bucket.key, Value.compareItems k (key i) = .eq
  distinct : (bs.map Bucket.key).Pairwise fun k l => Value.compareItems k l ≠ .eq

/-- A class holds the rows whose keys are equal to that of its member. -/
theorem mem_classOf {i j : Nat} :
    j ∈ classOf key rows i ↔ j ∈ rows ∧ Value.compareItems (key j) (key i) = .eq := by
  simp [classOf]

/-- Every row is in its own class. -/
theorem mem_classOf_self {i : Nat} (hi : i ∈ rows) : i ∈ classOf key rows i :=
  mem_classOf.mpr ⟨hi, Value.compareItems_self (key i)⟩

/-- Rows with equal keys have one class. -/
theorem classOf_congr (halike : AlikeKeys key rows) {i j : Nat} (hi : i ∈ rows) (hj : j ∈ rows)
    (h : Value.compareItems (key i) (key j) = .eq) : classOf key rows i = classOf key rows j := by
  simp only [classOf, Value.compareItems_congr _ _ _ (halike i hi j hj) h]

/-- The bucket of a row holds its class, and its key is equal to that of the row and compares
the same way with everything. -/
theorem Classifies.exists_mem {i : Nat} (h : Classifies key rows bs)
    (halike : AlikeKeys key rows) (hi : i ∈ rows) :
    ∃ b ∈ bs, b.rows = classOf key rows i ∧
      ∀ k, Value.compareItems b.key k = Value.compareItems (key i) k := by
  obtain ⟨k, hk, hkey⟩ := h.covers i hi
  obtain ⟨b, hb, rfl⟩ := List.mem_map.mp hk
  obtain ⟨j, hj, hbkey, hbrows⟩ := h.classes b hb
  rw [hbkey] at hkey
  exact ⟨b, hb, hbrows.trans (classOf_congr halike hj hi hkey),
    fun _ => hbkey ▸ Value.compareItems_congr_left (halike j hj i hi) hkey⟩

/-- A bucket that has a row holds the class of that row. -/
theorem Classifies.rows_eq {b : Bucket} {i : Nat} (h : Classifies key rows bs)
    (halike : AlikeKeys key rows) (hb : b ∈ bs) (hi : i ∈ b.rows) :
    b.rows = classOf key rows i := by
  obtain ⟨j, hj, -, hrows⟩ := h.classes b hb
  obtain ⟨hi, hkey⟩ := mem_classOf.mp (hrows ▸ hi)
  rw [hrows, classOf_congr halike hi hj hkey]

/-- Two ways to classify the rows make the same groups. -/
theorem rows_eq_of_classifies {cs : List Bucket} (halike : AlikeKeys key rows)
    (hbs : Classifies key rows bs) (hcs : Classifies key rows cs) :
    ∀ g ∈ bs.map Bucket.rows, g ∈ cs.map Bucket.rows := by
  intro g hg
  obtain ⟨b, hb, rfl⟩ := List.mem_map.mp hg
  obtain ⟨i, hi, -, hrows⟩ := hbs.classes b hb
  obtain ⟨c, hc, hcrows, -⟩ := hcs.exists_mem halike hi
  exact List.mem_map.mpr ⟨c, hc, hcrows.trans hrows.symm⟩

/-! ## One more row -/

/-- Buckets with one more row: in the bucket of an equal key, or in a new one if there is
none. -/
inductive Placed (k : List Value) (i : Nat) : List Bucket → List Bucket → Prop where
  | joined (before : List Bucket) (b : Bucket) (after : List Bucket)
      (equal : Value.compareItems b.key k = .eq) :
      Placed k i (before ++ b :: after) (before ++ ⟨b.key, b.rows ++ [i]⟩ :: after)
  | new (before after : List Bucket)
      (new : ∀ b ∈ before ++ after, Value.compareItems b.key k ≠ .eq) :
      Placed k i (before ++ after) (before ++ ⟨k, [i]⟩ :: after)

/-- A bucket with another key stays in front. -/
theorem Placed.cons {k : List Value} {i : Nat} {bs' : List Bucket} {b : Bucket}
    (hb : Value.compareItems b.key k ≠ .eq) (h : Placed k i bs bs') :
    Placed k i (b :: bs) (b :: bs') := by
  cases h with
  | joined before c after equal => exact .joined (b :: before) c after equal
  | new before after new => exact .new (b :: before) after (List.forall_mem_cons.mpr ⟨hb, new⟩)

/-- Placing a row makes no key but its own. -/
theorem keys_of_placed {k : List Value} {i : Nat} {bs' : List Bucket} (h : Placed k i bs bs') :
    ∀ b ∈ bs', b.key = k ∨ ∃ c ∈ bs, c.key = b.key := by
  intro b hb
  cases h with
  | joined before c after equal =>
    rcases List.mem_append.mp hb with hb | hb
    · exact .inr ⟨b, by simp [hb], rfl⟩
    · rcases List.mem_cons.mp hb with rfl | hb
      · exact .inr ⟨c, by simp, rfl⟩
      · exact .inr ⟨b, by simp [hb], rfl⟩
  | new before after new =>
    rcases List.mem_append.mp hb with hb | hb
    · exact .inr ⟨b, by simp [hb], rfl⟩
    · rcases List.mem_cons.mp hb with rfl | hb
      · exact .inl rfl
      · exact .inr ⟨b, by simp [hb], rfl⟩

/-- A row with another key is in no class of the others. -/
theorem classOf_append_of_ne {i j : Nat} (h : Value.compareItems (key i) (key j) ≠ .eq) :
    classOf key (rows ++ [i]) j = classOf key rows j := by
  simp [classOf, h]

/-- A row with the same key comes last in the class. -/
theorem classOf_append_of_eq {i j : Nat} (h : Value.compareItems (key i) (key j) = .eq) :
    classOf key (rows ++ [i]) j = classOf key rows j ++ [i] := by
  simp [classOf, h]

theorem compareItems_ne_comm {k l : List Value} (h : Value.compareItems k l ≠ .eq) :
    Value.compareItems l k ≠ .eq := by
  rw [Value.compareItems_swap k l]
  simpa using h

theorem compareItems_eq_comm {k l : List Value} (h : Value.compareItems k l = .eq) :
    Value.compareItems l k = .eq := by
  rw [Value.compareItems_swap k l, h]
  rfl

/-- Keys that are alike are so among fewer rows. -/
theorem AlikeKeys.append_left {more : List Nat} (h : AlikeKeys key (rows ++ more)) :
    AlikeKeys key rows :=
  fun i hi j hj => h i (List.mem_append_left more hi) j (List.mem_append_left more hj)

/-- A bucket whose key differs from that of the new row keeps its class. -/
theorem Classifies.class_append {b : Bucket} {i : Nat} (h : Classifies key rows bs)
    (hb : b ∈ bs) (hne : Value.compareItems b.key (key i) ≠ .eq) :
    ∃ j ∈ rows ++ [i], b.key = key j ∧ b.rows = classOf key (rows ++ [i]) j := by
  obtain ⟨j, hj, hkey, hrows⟩ := h.classes b hb
  refine ⟨j, List.mem_append_left _ hj, hkey, hrows.trans (classOf_append_of_ne ?_).symm⟩
  exact compareItems_ne_comm (hkey ▸ hne)

/-- Only one bucket has the key of a new row. -/
theorem Classifies.ne_of_joined {before after : List Bucket} {b : Bucket} {i : Nat}
    (h : Classifies key rows (before ++ b :: after)) (halike : AlikeKeys key (rows ++ [i]))
    (heq : Value.compareItems b.key (key i) = .eq) :
    ∀ c ∈ before ++ after, Value.compareItems c.key (key i) ≠ .eq := by
  obtain ⟨j, hj, hkey, -⟩ := h.classes b (by simp)
  have hdistinct := h.distinct
  rw [List.map_append, List.map_cons, List.pairwise_append, List.pairwise_cons] at hdistinct
  obtain ⟨-, ⟨hafter, -⟩, hbefore⟩ := hdistinct
  have hne : ∀ c ∈ before ++ after, Value.compareItems c.key b.key ≠ .eq := by
    intro c hc
    rcases List.mem_append.mp hc with hc | hc
    · exact hbefore c.key (List.mem_map_of_mem hc) b.key List.mem_cons_self
    · exact compareItems_ne_comm (hafter c.key (List.mem_map_of_mem hc))
  intro c hc
  have hbi : Value.alikeItems b.key (key i) :=
    hkey ▸ halike j (List.mem_append_left _ hj) i (by simp)
  rw [← Value.compareItems_congr c.key b.key (key i) hbi heq]
  exact hne c hc

/-- Placing a row keeps the classes. -/
theorem Classifies.placed {bs' : List Bucket} {i : Nat} (h : Classifies key rows bs)
    (halike : AlikeKeys key (rows ++ [i])) (hplaced : Placed (key i) i bs bs') :
    Classifies key (rows ++ [i]) bs' := by
  cases hplaced with
  | joined before b after equal =>
    have hne := h.ne_of_joined halike equal
    obtain ⟨j, hj, hkey, hrows⟩ := h.classes b (by simp)
    have hkeys : (before ++ ⟨b.key, b.rows ++ [i]⟩ :: after).map Bucket.key =
        (before ++ b :: after).map Bucket.key := by simp
    refine ⟨fun c hc => ?_, fun l hl => ?_, hkeys ▸ h.distinct⟩
    · have hmem : c = ⟨b.key, b.rows ++ [i]⟩ ∨ c ∈ before ++ after := by
        simpa [or_left_comm] using hc
      rcases hmem with rfl | hc
      · refine ⟨j, List.mem_append_left _ hj, hkey, ?_⟩
        rw [hrows, classOf_append_of_eq (compareItems_eq_comm (hkey ▸ equal))]
      · exact h.class_append (List.mem_append.mpr <|
          (List.mem_append.mp hc).imp_right (List.mem_cons_of_mem b)) (hne c hc)
    · rw [hkeys]
      rcases List.mem_append.mp hl with hl | hl
      · exact h.covers l hl
      · rw [List.mem_singleton.mp hl]
        exact ⟨b.key, by simp, equal⟩
  | new before after new =>
    have hnew : classOf key (rows ++ [i]) i = [i] := by
      rw [classOf_append_of_eq (Value.compareItems_self (key i))]
      have hnone : classOf key rows i = [] := by
        refine List.eq_nil_iff_forall_not_mem.mpr fun j hj => ?_
        obtain ⟨hj, heq⟩ := mem_classOf.mp hj
        obtain ⟨k, hk, hkey⟩ := h.covers j hj
        obtain ⟨b, hb, rfl⟩ := List.mem_map.mp hk
        have hji := halike j (List.mem_append_left _ hj) i (by simp)
        exact new b hb (Value.compareItems_congr _ _ _ hji heq ▸ hkey)
      simp [hnone]
    refine ⟨fun c hc => ?_, fun l hl => ?_, ?_⟩
    · have hmem : c = ⟨key i, [i]⟩ ∨ c ∈ before ++ after := by simpa [or_left_comm] using hc
      rcases hmem with rfl | hc
      · exact ⟨i, by simp, rfl, hnew.symm⟩
      · exact h.class_append hc (new c hc)
    · rcases List.mem_append.mp hl with hl | hl
      · obtain ⟨k, hk, hkey⟩ := h.covers l hl
        refine ⟨k, ?_, hkey⟩
        simp only [List.map_append, List.map_cons, List.mem_append, List.mem_cons] at hk ⊢
        exact hk.imp_right .inr
      · rw [List.mem_singleton.mp hl]
        exact ⟨key i, by simp, Value.compareItems_self (key i)⟩
    · have hkeys : ∀ k ∈ before.map Bucket.key ++ after.map Bucket.key,
          Value.compareItems k (key i) ≠ .eq := by
        rw [← List.map_append]
        exact List.forall_mem_map.mpr new
      have hdistinct := h.distinct
      rw [List.map_append, List.pairwise_append] at hdistinct
      obtain ⟨hbefore, hafter, hcross⟩ := hdistinct
      rw [List.map_append, List.map_cons, List.pairwise_append, List.pairwise_cons]
      refine ⟨hbefore, ⟨fun l hl => ?_, hafter⟩, fun k hk l hl => ?_⟩
      · exact compareItems_ne_comm (hkeys l (List.mem_append_right _ hl))
      · rcases List.mem_cons.mp hl with rfl | hl
        · exact hkeys k (List.mem_append_left _ hk)
        · exact hcross k hk l hl

/-! ## Order of first appearance -/

/-- Keys are equal if the order says so. -/
theorem beq_eq_isEq (vs ws : List Value) : (vs == ws) = (Value.compareItems vs ws).isEq := by
  induction vs generalizing ws with
  | nil => cases ws <;> rfl
  | cons v vs ih =>
    cases ws with
    | nil => rfl
    | cons w ws =>
      have hhead : (v == w) = (v.compare w).isEq := rfl
      simp only [List.cons_beq_cons, hhead, ih, Value.compareItems]
      cases v.compare w <;> rfl

/-- Adding a row to the buckets places it in one of them. -/
theorem placed_addLast (k : List Value) (i : Nat) :
    ∀ bs : List Bucket, Placed k i bs (addLast k i bs)
  | [] => .new [] [] (by simp)
  | b :: bs => by
    simp only [addLast, beq_eq_isEq]
    split
    · next h => exact .joined [] b bs (by simpa using h)
    · next h => exact (placed_addLast k i bs).cons (by simpa using h)

/-- The first row of a bucket comes before all rows of the later buckets. -/
def FirstsAscend (bs : List Bucket) : Prop :=
  bs.Pairwise fun b c => ∀ i ∈ b.rows.head?, ∀ j ∈ c.rows, i < j

/-- Placing a row adds no other. -/
theorem rows_of_placed {k : List Value} {i : Nat} {bs' : List Bucket} (h : Placed k i bs bs') :
    ∀ b ∈ bs', ∀ j ∈ b.rows, j = i ∨ ∃ c ∈ bs, j ∈ c.rows := by
  intro b hb j hj
  cases h with
  | joined before c after equal =>
    have hmem : b = ⟨c.key, c.rows ++ [i]⟩ ∨ b ∈ before ++ after := by
      simpa [or_left_comm] using hb
    rcases hmem with rfl | hb
    · rcases List.mem_append.mp hj with hj | hj
      · exact .inr ⟨c, by simp, hj⟩
      · exact .inl (List.mem_singleton.mp hj)
    · exact .inr ⟨b, by simpa using (List.mem_append.mp hb).imp_right .inr, hj⟩
  | new before after new =>
    have hmem : b = ⟨k, [i]⟩ ∨ b ∈ before ++ after := by simpa [or_left_comm] using hb
    rcases hmem with rfl | hb
    · exact .inl (List.mem_singleton.mp hj)
    · exact .inr ⟨b, hb, hj⟩

/-- A later row leaves the buckets in the order of their first rows. -/
theorem firstsAscend_addLast {k : List Value} {i : Nat} :
    ∀ {bs : List Bucket}, (∀ b ∈ bs, b.rows ≠ [] ∧ ∀ j ∈ b.rows, j < i) → FirstsAscend bs →
      FirstsAscend (addLast k i bs)
  | [], _, _ => List.pairwise_singleton _ _
  | b :: bs, hrows, h => by
    obtain ⟨⟨hne, hlt⟩, hrows⟩ := List.forall_mem_cons.mp hrows
    obtain ⟨hfirst, h⟩ := List.pairwise_cons.mp h
    unfold addLast
    split
    · refine List.pairwise_cons.mpr ⟨fun c hc => ?_, h⟩
      obtain ⟨first, rest, hfirstRow⟩ := List.exists_cons_of_ne_nil hne
      simpa [hfirstRow] using hfirst c hc
    · refine List.pairwise_cons.mpr ⟨fun c hc j hj l hl => ?_, firstsAscend_addLast hrows h⟩
      rcases rows_of_placed (placed_addLast k i bs) c hc l hl with rfl | ⟨d, hd, hl⟩
      · exact hlt j (List.mem_of_mem_head? hj)
      · exact hfirst d hd j hj l hl

/-- Rows put into buckets in order of appearance fall into their classes. -/
theorem classifies_foldl_addLast :
    ∀ (more : List Nat) {rows : List Nat} {bs : List Bucket}, Classifies key rows bs →
      AlikeKeys key (rows ++ more) →
      Classifies key (rows ++ more) (more.foldl (fun bs i => addLast (key i) i bs) bs)
  | [], rows, bs, h, _ => by simpa using h
  | i :: more, rows, bs, h, halike => by
    rw [List.append_cons] at halike ⊢
    exact classifies_foldl_addLast more (h.placed halike.append_left (placed_addLast _ _ _)) halike

/-- Ascending rows fill the buckets in the order of their first rows. -/
theorem firstsAscend_foldl_addLast :
    ∀ (more : List Nat) {rows : List Nat} {bs : List Bucket}, Classifies key rows bs →
      FirstsAscend bs → AlikeKeys key (rows ++ more) → (rows ++ more).Pairwise (· < ·) →
      FirstsAscend (more.foldl (fun bs i => addLast (key i) i bs) bs)
  | [], _, _, _, hfirsts, _, _ => hfirsts
  | i :: more, rows, bs, h, hfirsts, halike, hascend => by
    have hrows : ∀ b ∈ bs, b.rows ≠ [] ∧ ∀ j ∈ b.rows, j < i := by
      intro b hb
      obtain ⟨j, hj, -, hrows⟩ := h.classes b hb
      rw [hrows]
      refine ⟨List.ne_nil_of_mem (mem_classOf_self hj), fun l hl => ?_⟩
      exact (List.pairwise_append.mp hascend).2.2 l (mem_classOf.mp hl).1 i List.mem_cons_self
    rw [List.append_cons] at halike hascend
    exact firstsAscend_foldl_addLast more (h.placed halike.append_left (placed_addLast _ _ _))
      (firstsAscend_addLast hrows hfirsts) halike hascend

theorem classifies_nil : Classifies key [] [] := ⟨by simp, by simp, by simp⟩

/-- Buckets by appearance are the classes of the rows. -/
theorem classifies_byAppearance (halike : AlikeKeys key rows) :
    Classifies key rows (byAppearance key rows) :=
  classifies_foldl_addLast rows classifies_nil halike

/-- Buckets by appearance come in the order of their first rows. -/
theorem firstsAscend_byAppearance (halike : AlikeKeys key rows)
    (hascend : rows.Pairwise (· < ·)) : FirstsAscend (byAppearance key rows) :=
  firstsAscend_foldl_addLast rows classifies_nil List.Pairwise.nil halike hascend

/-- The least element with a property is the first one of an ascending list. -/
theorem find?_eq_some_of_least {p : Nat → Bool} {j : Nat} (hascend : rows.Pairwise (· < ·))
    (hj : j ∈ rows) (hp : p j) (hleast : ∀ i ∈ rows, p i → j ≤ i) : rows.find? p = some j := by
  cases hfind : rows.find? p with
  | none => exact absurd hp (List.find?_eq_none.mp hfind j hj)
  | some i =>
    obtain ⟨hpi, before, after, rfl, hbefore⟩ := List.find?_eq_some_iff_append.mp hfind
    have hji := hleast i (by simp) hpi
    rw [List.pairwise_append, List.pairwise_cons] at hascend
    rcases List.mem_append.mp hj with hmem | hmem
    · have hno := hbefore j hmem
      simp [hp] at hno
    · rcases List.mem_cons.mp hmem with rfl | hmem
      · rfl
      · exact absurd (hascend.2.1.1 j hmem) (Nat.not_lt.mpr hji)

/-- The rows that a key finds: all rows of the class of the first row with an equal key. -/
theorem find_byAppearance (halike : AlikeKeys key rows) (hascend : rows.Pairwise (· < ·))
    (k : List Value) :
    find k (byAppearance key rows) =
      ((rows.find? fun j => (Value.compareItems (key j) k).isEq).map
        (classOf key rows)).getD [] := by
  have hclass := classifies_byAppearance halike
  have hfirsts := firstsAscend_byAppearance halike hascend
  generalize byAppearance key rows = bs at hclass hfirsts
  unfold find
  simp only [beq_eq_isEq]
  cases hfind : bs.find? fun b => (Value.compareItems b.key k).isEq with
  | none =>
    have hnone : rows.find? (fun j => (Value.compareItems (key j) k).isEq) = none := by
      refine List.find?_eq_none.mpr fun j hj hjk => ?_
      obtain ⟨b, hb, -, hkey⟩ := hclass.exists_mem halike hj
      exact List.find?_eq_none.mp hfind b hb (hkey k ▸ hjk)
    rw [hnone]
    rfl
  | some b =>
    obtain ⟨hbk, before, after, rfl, hbefore⟩ := List.find?_eq_some_iff_append.mp hfind
    obtain ⟨l, hl, hkey, hrows⟩ := hclass.classes b (by simp)
    obtain ⟨first, rest, hfirst⟩ := List.exists_cons_of_ne_nil
      (List.ne_nil_of_mem (hrows ▸ mem_classOf_self hl))
    obtain ⟨hmem, hfirstKey⟩ := mem_classOf.mp (hrows ▸ hfirst ▸ List.mem_cons_self : first ∈ _)
    have hleast : ∀ i ∈ rows, (Value.compareItems (key i) k).isEq → first ≤ i := by
      intro i hi hik
      obtain ⟨c, hc, hcrows, hckey⟩ := hclass.exists_mem halike hi
      have hic : i ∈ c.rows := hcrows ▸ mem_classOf_self hi
      rcases List.mem_append.mp hc with hc | hc
      · have hno := hbefore c hc
        rw [hckey k, hik] at hno
        exact absurd hno (by decide)
      · rw [FirstsAscend, List.pairwise_append, List.pairwise_cons] at hfirsts
        rcases List.mem_cons.mp hc with rfl | hc
        · have hsorted : (first :: rest).Pairwise (· < ·) := hfirst ▸ hrows ▸ hascend.filter _
          rcases List.mem_cons.mp (hfirst ▸ hic) with rfl | hi
          · exact Nat.le_refl i
          · exact Nat.le_of_lt ((List.pairwise_cons.mp hsorted).1 i hi)
        · exact Nat.le_of_lt (hfirsts.2.1.1 c hc first (by simp [hfirst]) i hic)
    have hequal : (Value.compareItems (key first) k).isEq := by
      rw [Value.compareItems_congr_left (halike first hmem l hl) hfirstKey, ← hkey]
      exact hbk
    rw [find?_eq_some_of_least hascend hmem hequal hleast]
    simp [hrows, classOf_congr halike hmem hl hfirstKey]

/-! ## Order of keys -/

/-- Buckets in ascending order of their keys. -/
def KeysAscend (bs : List Bucket) : Prop :=
  (bs.map Bucket.key).Pairwise fun k l => Value.compareItems k l = .lt

theorem compareItems_lt_of_gt {k l : List Value} (h : Value.compareItems k l = .gt) :
    Value.compareItems l k = .lt := by
  rw [Value.compareItems_swap k l, h]
  rfl

/-- A row finds its place among sorted buckets whose keys are like its own. -/
theorem placed_addSorted {k : List Value} {i : Nat} :
    ∀ {bs : List Bucket},
      (∀ l ∈ k :: bs.map Bucket.key, ∀ m ∈ k :: bs.map Bucket.key, Value.alikeItems l m) →
      KeysAscend bs → Placed k i bs (addSorted k i bs) ∧ KeysAscend (addSorted k i bs)
  | [], _, _ => ⟨.new [] [] (by simp), List.pairwise_singleton _ _⟩
  | b :: bs, halike, h => by
    obtain ⟨hfirst, htail⟩ := List.pairwise_cons.mp h
    have hb : b.key ∈ k :: (b :: bs).map Bucket.key := by simp
    have hbs : ∀ l ∈ bs.map Bucket.key, l ∈ k :: (b :: bs).map Bucket.key := by
      intro l hl
      exact List.mem_cons_of_mem _ (List.mem_cons_of_mem _ hl)
    unfold addSorted
    split
    · next hlt =>
      have hall : ∀ l ∈ (b :: bs).map Bucket.key, Value.compareItems k l = .lt := by
        refine List.forall_mem_cons.mpr ⟨hlt, fun l hl => ?_⟩
        have hk := List.mem_cons_self (a := k) (l := (b :: bs).map Bucket.key)
        exact Value.compareItems_lt_trans k b.key l (halike _ hk _ hb) (halike _ hb _ (hbs l hl))
          (halike _ hk _ (hbs l hl)) hlt (hfirst l hl)
      refine ⟨.new [] (b :: bs) fun c hc => ?_, List.pairwise_cons.mpr ⟨hall, h⟩⟩
      refine compareItems_ne_comm ?_
      rw [hall c.key (List.mem_map_of_mem hc)]
      simp
    · next heq => exact ⟨.joined [] b bs (compareItems_eq_comm heq), h⟩
    · next hgt =>
      have hbk := compareItems_lt_of_gt hgt
      have halike' : ∀ l ∈ k :: bs.map Bucket.key, l ∈ k :: (b :: bs).map Bucket.key := by
        intro l hl
        exact (List.mem_cons.mp hl).elim (fun h => by simp [h]) (hbs l)
      obtain ⟨hplaced, hascend⟩ := placed_addSorted (i := i)
        (fun l hl m hm => halike l (halike' l hl) m (halike' m hm)) htail
      refine ⟨hplaced.cons (by simp [hbk]), List.pairwise_cons.mpr ⟨fun l hl => ?_, hascend⟩⟩
      obtain ⟨c, hc, rfl⟩ := List.mem_map.mp hl
      rcases keys_of_placed hplaced c hc with hkey | ⟨d, hd, hkey⟩
      · rw [hkey]
        exact hbk
      · rw [← hkey]
        exact hfirst d.key (List.mem_map_of_mem hd)

/-- Rows put into buckets in order of their keys fall into their classes, keys ascending. -/
theorem classifies_foldl_addSorted :
    ∀ (more : List Nat) {rows : List Nat} {bs : List Bucket}, Classifies key rows bs →
      KeysAscend bs → AlikeKeys key (rows ++ more) →
      Classifies key (rows ++ more) (more.foldl (fun bs i => addSorted (key i) i bs) bs) ∧
        KeysAscend (more.foldl (fun bs i => addSorted (key i) i bs) bs)
  | [], rows, bs, h, hkeys, _ => by simpa using ⟨h, hkeys⟩
  | i :: more, rows, bs, h, hkeys, halike => by
    have hrow : ∀ l ∈ key i :: bs.map Bucket.key, ∃ j ∈ rows ++ i :: more, l = key j := by
      intro l hl
      rcases List.mem_cons.mp hl with rfl | hl
      · exact ⟨i, by simp, rfl⟩
      · obtain ⟨b, hb, rfl⟩ := List.mem_map.mp hl
        obtain ⟨j, hj, hkey, -⟩ := h.classes b hb
        exact ⟨j, List.mem_append_left _ hj, hkey⟩
    obtain ⟨hplaced, hkeys'⟩ : Placed (key i) i bs (addSorted (key i) i bs) ∧
        KeysAscend (addSorted (key i) i bs) := by
      refine placed_addSorted (fun l hl m hm => ?_) hkeys
      obtain ⟨j, hj, rfl⟩ := hrow l hl
      obtain ⟨j', hj', rfl⟩ := hrow m hm
      exact halike j hj j' hj'
    rw [List.append_cons] at halike ⊢
    exact classifies_foldl_addSorted more (h.placed halike.append_left hplaced) hkeys' halike

/-- Buckets by key are the classes of the rows, in ascending order of keys. -/
theorem byOrder_spec (halike : AlikeKeys key rows) :
    Classifies key rows (byOrder key rows) ∧ KeysAscend (byOrder key rows) :=
  classifies_foldl_addSorted rows classifies_nil List.Pairwise.nil halike

theorem classifies_byOrder (halike : AlikeKeys key rows) :
    Classifies key rows (byOrder key rows) :=
  (byOrder_spec halike).1

/-- Both ways of making buckets make the same groups of rows. -/
theorem mem_byAppearance_iff_mem_byOrder (halike : AlikeKeys key rows) (g : List Nat) :
    g ∈ (byAppearance key rows).map Bucket.rows ↔ g ∈ (byOrder key rows).map Bucket.rows :=
  have happearance := classifies_byAppearance halike
  have horder := classifies_byOrder halike
  ⟨rows_eq_of_classifies halike happearance horder g,
    rows_eq_of_classifies halike horder happearance g⟩

end ColumnarSql.Buckets
