import ColumnarSql.Proofs.EvaluationTypes
import ColumnarSql.Proofs.KeyClasses
import ColumnarSql.Proofs.RowByRow

/-!
# The rows of a window

A window call splits the sorted rows into partitions and puts the values of each partition at
its rows. Over typed keys the partition of a row is its class: all rows with equal keys, in
sorted order (`mem_partitions`). So the call succeeds when all partitions have values, and then
every row has a value that its own partition gives to it (`cell_of_apply`), whatever the
function and the sort keys. `eval_analytic_eq_ok` says what such a call reads in a scope.
-/

set_option autoImplicit false

namespace ColumnarSql

namespace Window

variable {fn : SqlFunction} {now : Moment} {args keys : List Column}
  {orderBy : List (Column × SortOrder)} {rows : List Nat} {n i : Nat}

/-! ## The partition of a row -/

theorem alikeKeys_of_typed (hkeys : ∀ c ∈ keys, c.Typed) (rows : List Nat) :
    Buckets.AlikeKeys (fun i => keys.map (·.cell i)) rows := fun i _ j _ =>
  (Value.alikeItems_map keys).mpr fun c hc =>
    Value.alike_of_conforms _ _ c.type ((hkeys c hc).cell i) ((hkeys c hc).cell j)

/-- The rows whose keys are equal to those of row `i`. -/
def partitionOf (keys : List Column) (rows : List Nat) (i : Nat) : List Nat :=
  Buckets.classOf (fun i => keys.map (·.cell i)) rows i

theorem mem_partitionOf_self (keys : List Column) (hi : i ∈ rows) : i ∈ partitionOf keys rows i :=
  Buckets.mem_classOf_self hi

theorem nodup_partitionOf (hrows : rows.Nodup) : (partitionOf keys rows i).Nodup :=
  hrows.filter _

/-- The rows of a partition in another order of all rows. -/
theorem perm_partitionOf (keys : List Column) {rows' : List Nat} (hrows : rows.Perm rows')
    (i : Nat) : (partitionOf keys rows i).Perm (partitionOf keys rows' i) :=
  hrows.filter _

/-- A partition that has row `i` is the partition of row `i`. -/
theorem mem_partitions (hkeys : ∀ c ∈ keys, c.Typed) {g : List Nat} :
    g ∈ partitions keys rows ∧ i ∈ g ↔ i ∈ rows ∧ g = partitionOf keys rows i := by
  cases keys with
  | nil =>
    have hall : partitionOf [] rows i = rows := by
      refine List.filter_eq_self.mpr fun j _ => ?_
      rfl
    rw [hall]
    constructor
    · rintro ⟨hg, hi⟩
      obtain rfl := List.mem_singleton.mp hg
      exact ⟨hi, rfl⟩
    · rintro ⟨hi, rfl⟩
      exact ⟨List.mem_singleton_self g, hi⟩
  | cons k ks =>
    have halike := alikeKeys_of_typed hkeys rows
    have hclass := Buckets.classifies_byAppearance halike
    constructor
    · rintro ⟨hg, hi⟩
      obtain ⟨b, hb, rfl⟩ := List.mem_map.mp hg
      have hrows := hclass.rows_eq halike hb hi
      exact ⟨(Buckets.mem_classOf.mp (hrows ▸ hi)).1, hrows⟩
    · rintro ⟨hi, rfl⟩
      obtain ⟨b, hb, hrows, -⟩ := hclass.exists_mem halike hi
      exact ⟨List.mem_map.mpr ⟨b, hb, hrows⟩, mem_partitionOf_self _ hi⟩

/-! ## Values of the rows -/

/-- A reducing function gives all rows of a partition one value. -/
theorem partitionValues_reducing (hfn : fn.isAggregating) (now : Moment) (t : ColumnType)
    (c : Column) (g : List Nat) :
    partitionValues fn now t [c] g =
      (fn.reduce t (g.map c.cell)).map fun v => g.map fun i => (i, v) := by
  have hne : fn ≠ .rowNumber := by
    rintro rfl
    cases hfn
  simp only [partitionValues, hne, if_false, hfn, if_true]
  rfl

/-- The values of a partition are put at its rows. -/
theorem map_fst_partitionValues {t : ColumnType} {g : List Nat} {ps : List (Nat × Value)}
    (h : partitionValues fn now t args g = .ok ps) : ps.map Prod.fst = g := by
  unfold partitionValues at h
  split at h
  · obtain rfl := Except.ok.inj h
    rw [List.map_map]
    exact List.zipIdx_map_fst 0 g
  · split at h
    · obtain ⟨v, -, h⟩ := bind_eq_ok.mp h
      obtain rfl := pure_eq_ok.mp h
      rw [List.map_map]
      exact List.map_id g
    · have hrows := (mapM_eq_ok_iff _ _ _).mp h
      refine List.ext_getElem (by simpa using hrows.length_eq.symm) fun j hj hj' => ?_
      obtain ⟨v, -, hv⟩ := bind_eq_ok.mp (hrows.get hj' (by simpa using hj))
      simpa using (congrArg Prod.fst (pure_eq_ok.mp hv)).symm

theorem exists_lookup_of_mem {v : Value} :
    ∀ {l : List (Nat × Value)}, (i, v) ∈ l → ∃ w, l.lookup i = some w ∧ (i, w) ∈ l
  | (j, w) :: l, h => by
    by_cases hij : i = j
    · exact ⟨w, by simp [hij], by simp [hij]⟩
    · have htail : (i, v) ∈ l := by simpa [hij] using h
      obtain ⟨w', hw', hmem⟩ := exists_lookup_of_mem htail
      have hne : (i == j) = false := by simpa using hij
      exact ⟨w', by rw [List.lookup_cons, hne]; exact hw', List.mem_cons_of_mem _ hmem⟩

/-! ## The call -/

/-- A window call succeeds when all its partitions have values. -/
theorem exists_apply_iff :
    (∃ c, apply fn now args keys orderBy n = .ok c) ↔
      ∃ t, fn.resultType (args.map Column.type) = .ok t ∧
        ∀ g ∈ partitions keys (Sorting.rowOrder orderBy n),
          ∃ ps, partitionValues fn now t args g = .ok ps := by
  simp only [apply, bind_eq_ok, pure_eq_ok]
  constructor
  · rintro ⟨c, t, ht, placed, hplaced, -⟩
    refine ⟨t, ht, fun g hg => ?_⟩
    obtain ⟨ps, -, hps⟩ := exists_of_mem_of_mapM hplaced hg
    exact ⟨ps, hps⟩
  · rintro ⟨t, ht, hvalues⟩
    obtain ⟨placed, hplaced⟩ := exists_mapM_eq_ok _ hvalues
    exact ⟨_, t, ht, placed, hplaced, rfl⟩

/-- Every row has a value that its partition gives to it. -/
theorem cell_of_apply (hkeys : ∀ c ∈ keys, c.Typed) {d : Column}
    (hd : apply fn now args keys orderBy n = .ok d) :
    fn.resultType (args.map Column.type) = .ok d.type ∧ d.length = n ∧
      ∀ i < n, ∃ ps, partitionValues fn now d.type args
        (partitionOf keys (Sorting.rowOrder orderBy n) i) = .ok ps ∧ (i, d.cell i) ∈ ps := by
  simp only [apply, bind_eq_ok, pure_eq_ok] at hd
  obtain ⟨t, ht, placed, hplaced, rfl⟩ := hd
  refine ⟨ht, by simp [Column.length], fun i hi => ?_⟩
  have hsorted : i ∈ Sorting.rowOrder orderBy n :=
    (Sorting.perm_rowOrder orderBy n).mem_iff.mpr (List.mem_range.mpr hi)
  -- the partition of the row gives it some value, so the look-up finds one
  obtain ⟨v, hv⟩ : ∃ v, (i, v) ∈ placed.flatten := by
    obtain ⟨hmem, hself⟩ := (mem_partitions hkeys).mpr ⟨hsorted, rfl⟩
    obtain ⟨ps, hps, hvalues⟩ := exists_of_mem_of_mapM hplaced hmem
    obtain ⟨⟨j, v⟩, hjv, rfl⟩ := List.mem_map.mp (map_fst_partitionValues hvalues ▸ hself)
    exact ⟨v, List.mem_flatten.mpr ⟨ps, hps, hjv⟩⟩
  obtain ⟨w, hlookup, hw⟩ := exists_lookup_of_mem hv
  -- what it finds comes from a partition that has the row, and only one has it
  obtain ⟨ps, hps, hiw⟩ := List.mem_flatten.mp hw
  obtain ⟨g, hg, hvalues⟩ := exists_of_mem_mapM hplaced hps
  have hig : i ∈ g := map_fst_partitionValues hvalues ▸ List.mem_map_of_mem hiw
  rw [((mem_partitions hkeys).mp ⟨hg, hig⟩).2] at hvalues
  refine ⟨ps, hvalues, ?_⟩
  simpa [Column.cell, hi, hlookup] using hiw

/-! ## Reducing calls -/

/-- A reducing call over a window succeeds when all partitions reduce. -/
theorem exists_apply_reducing (hfn : fn.isAggregating) {c : Column} :
    (∃ d, apply fn now [c] keys orderBy n = .ok d) ↔
      ∃ t, fn.resultType [c.type] = .ok t ∧
        ∀ g ∈ partitions keys (Sorting.rowOrder orderBy n),
          ∃ v, fn.reduce t (g.map c.cell) = .ok v := by
  have hvalues : ∀ t g, (∃ ps, partitionValues fn now t [c] g = .ok ps) ↔
      ∃ v, fn.reduce t (g.map c.cell) = .ok v := by
    intro t g
    rw [partitionValues_reducing hfn]
    cases fn.reduce t (g.map c.cell) <;> simp [Except.map]
  rw [exists_apply_iff]
  simp only [hvalues]
  rfl

/-- Each row has the value that its partition reduces to. -/
theorem cell_of_apply_reducing (hfn : fn.isAggregating) {c d : Column} (hkeys : ∀ k ∈ keys, k.Typed)
    (hd : apply fn now [c] keys orderBy n = .ok d) :
    fn.resultType [c.type] = .ok d.type ∧ d.length = n ∧
      ∀ i < n, fn.reduce d.type
        ((partitionOf keys (Sorting.rowOrder orderBy n) i).map c.cell) = .ok (d.cell i) := by
  obtain ⟨ht, hlen, hcells⟩ := cell_of_apply hkeys hd
  refine ⟨ht, hlen, fun i hi => ?_⟩
  obtain ⟨ps, hps, hmem⟩ := hcells i hi
  rw [partitionValues_reducing hfn, map_eq_ok] at hps
  obtain ⟨v, hv, rfl⟩ := hps
  obtain ⟨j, -, hjv⟩ := List.mem_map.mp hmem
  rw [hv, (Prod.mk.inj hjv).2]

end Window

/-! ## The call in a scope -/

namespace Expr

variable {now : Moment} {s : Scope}

theorem windowColumn_eq_ok {call : Expr Plan} {n : Nat} {b : Evaluated} {c : Column} :
    b.windowColumn call n = .ok c ↔ b.toColumn n = .ok c := by
  cases b <;> simp [Evaluated.windowColumn, Evaluated.toColumn]

theorem windowInput_iff_evalColumn {whole e : Expr Plan} {c : Column} :
    windowInput now whole e s = .ok c ↔ e.evalColumn now s = .ok c := by
  simp only [windowInput, evalColumn, bind_eq_ok, windowColumn_eq_ok]

/-- The expressions give these columns, one for each row of the scope. -/
def GiveColumns (now : Moment) (s : Scope) (es : List (Expr Plan)) (cs : List Column) : Prop :=
  List.Forall₂ (fun e c => e.evalColumn now s = .ok c) es cs

/-- The sort keys give these columns, in the same directions. -/
def GiveKeys (now : Moment) (s : Scope) (os : List (Expr Plan × SortOrder))
    (ks : List (Column × SortOrder)) : Prop :=
  List.Forall₂ (fun o k => o.1.evalColumn now s = .ok k.1 ∧ o.2 = k.2) os ks

theorem evalColumns_eq_ok {whole : Expr Plan} {es : List (Expr Plan)} {cs : List Column} :
    evalColumns now whole es s = .ok cs ↔ GiveColumns now s es cs := by
  rw [evalColumns_eq_mapM, mapM_eq_ok_iff]
  simp only [windowInput_iff_evalColumn, GiveColumns]

theorem evalKeys_eq_ok {whole : Expr Plan} {os : List (Expr Plan × SortOrder)}
    {ks : List (Column × SortOrder)} :
    evalKeys now whole os s = .ok ks ↔ GiveKeys now s os ks := by
  rw [evalKeys_eq_mapM, mapM_eq_ok_iff]
  have hstep : ∀ o k, (do return (← windowInput now whole (o : Expr Plan × SortOrder).1 s, o.2)) =
      Except.ok (k : Column × SortOrder) ↔ o.1.evalColumn now s = .ok k.1 ∧ o.2 = k.2 := by
    rintro ⟨e, o⟩ ⟨c, o'⟩
    simp only [bind_eq_ok, pure_eq_ok, windowInput_iff_evalColumn, Prod.mk.injEq]
    constructor
    · rintro ⟨_, h, rfl, rfl⟩
      exact ⟨h, rfl⟩
    · rintro ⟨h, rfl⟩
      exact ⟨c, h, rfl, rfl⟩
  simp only [hstep, GiveKeys]

/-- A window call reads its arguments and keys as columns and applies the function to them. -/
theorem eval_analytic_eq_ok {fn : SqlFunction} {args ps : List (Expr Plan)}
    {os : List (Expr Plan × SortOrder)} {a : Evaluated} :
    (analytic fn args ps os).eval now s = .ok a ↔
      fn.checkOptions = .ok () ∧ ∃ columns, GiveColumns now s args columns ∧
        ∃ partitionBy, GiveColumns now s ps partitionBy ∧ ∃ orderBy, GiveKeys now s os orderBy ∧
          ∃ c, Window.apply fn now columns partitionBy orderBy s.frame.numRows = .ok c ∧
            .column c = a := by
  simp only [eval, bind_eq_ok, pure_eq_ok, evalColumns_eq_ok, evalKeys_eq_ok]
  constructor
  · rintro ⟨_, hoptions, h⟩
    exact ⟨hoptions, h⟩
  · rintro ⟨hoptions, h⟩
    exact ⟨(), hoptions, h⟩

/-- In a typed scope an expression with conforming constants gives a typed column. -/
theorem typed_evalColumn (hs : s.Typed) {e : Expr Plan} (he : e.ConstantsConform) {c : Column}
    (h : e.evalColumn now s = .ok c) : c.Typed := by
  obtain ⟨a, ha, hc⟩ := bind_eq_ok.mp h
  exact (eval_typed he hs ha).toColumn hc

theorem GiveColumns.typed (hs : s.Typed) {es : List (Expr Plan)} {cs : List Column}
    (hes : ∀ e ∈ es, e.ConstantsConform) (h : GiveColumns now s es cs) : ∀ c ∈ cs, c.Typed := by
  induction h with
  | nil => simp
  | cons hc _ ih =>
    obtain ⟨he, hes⟩ := List.forall_mem_cons.mp hes
    exact List.forall_mem_cons.mpr ⟨typed_evalColumn hs he hc, ih hes⟩

theorem GiveKeys.typed (hs : s.Typed) {os : List (Expr Plan × SortOrder)}
    {ks : List (Column × SortOrder)} (hos : ∀ o ∈ os, o.1.ConstantsConform)
    (h : GiveKeys now s os ks) : ∀ k ∈ ks, k.1.Typed := by
  induction h with
  | nil => simp
  | cons hk _ ih =>
    obtain ⟨ho, hos⟩ := List.forall_mem_cons.mp hos
    exact List.forall_mem_cons.mpr ⟨typed_evalColumn hs ho hk.1, ih hos⟩

end Expr

/-! ## Constants outside their type -/

/-- Rows with the numbers 1, 2 and 3. -/
def numberedRows : Frame :=
  .ofTable ⟨["n"], [⟨[.integer 1, .integer 2, .integer 3], some .integer⟩], 3⟩ (some "t")

/-- An array with one of the items for each of the numbered rows. Its first item types each constant
as an array of integers, which it is not if the item is a double. -/
def numberedArray {σ : Type} (x y z : Value) : Expr σ :=
  let array := fun v => .ofValue (.array [.integer 0, v])
  let isRow := fun n => .binary .eq (.field ["n"]) (.ofValue (.integer n))
  .case [(isRow 1, array x), (isRow 2, array y)] (array z)

/-- The double `2 ^ 53`, which is equal to the integers `2 ^ 53` and `2 ^ 53 + 1`. -/
def blurringDouble : Value := .float (Float.ofBits 0x4340000000000000)

/-- The double, and after it the two integers that it is equal to. -/
def doubleFirst {σ : Type} : Expr σ :=
  numberedArray blurringDouble (.integer 9007199254740993) (.integer 9007199254740992)

end ColumnarSql
