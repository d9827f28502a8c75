import ColumnarSql.Proofs.QueryTypes

/-!
# Growing catalogs

What a reference stands for is read off the paths of all tables: the parts it leaves out must be
the same in every one of them (`qualify_eq_ok_iff`). A catalog that grows keeps its paths, so a
reference to one of its tables can stand for no other table later on (`eq_of_qualify`). It still
gives its table (`run_of_grown`), or it is an error where a new path differs in a part that is left
out (`qualify_grown_iff`).
-/

set_option autoImplicit false

namespace ColumnarSql

theorem eraseDups_eq_singleton_iff {α : Type} [DecidableEq α] {as : List α} {a : α} :
    as.eraseDups = [a] ↔ as ≠ [] ∧ ∀ b ∈ as, b = a := by
  have hnil : ∀ bs : List α, bs.eraseDups = [] ↔ bs = [] := fun bs => by
    cases bs <;> simp [List.eraseDups_cons]
  cases as with
  | nil => simp
  | cons b as =>
    rw [List.eraseDups_cons, List.cons.injEq, hnil, List.filter_eq_nil_iff]
    simp only [ne_eq, reduceCtorEq, not_false_eq_true, true_and, List.forall_mem_cons]
    refine and_congr_right fun hb => forall₂_congr fun c _ => ?_
    simp [hb]

/-! ## Paths of a catalog -/

namespace Catalog

variable {c d : Catalog}

/-- The paths of all tables. -/
def paths (c : Catalog) : List TablePath := c.entries.map (·.1)

theorem mem_paths_of_get? {q : TablePath} {t : Table} (h : c.get? q = some t) : q ∈ c.paths := by
  obtain ⟨before, after, hentries, -⟩ := List.lookup_eq_some_iff.mp h
  simp [paths, hentries]

theorem mem_paths_insert {path q : TablePath} {t : Table} :
    q ∈ (c.insert path t).paths ↔ q = path ∨ q ∈ c.paths := by
  unfold paths insert
  generalize c.entries = es
  dsimp only
  fun_induction insertEntry path t es with
  | case1 => simp
  | case2 e es hlt => simp
  | case3 e es heq => simp [TablePath.compare_eq_eq_iff.mp heq]
  | case4 e es hgt ih => simp [ih, or_left_comm]

/-- One project holds all tables. -/
theorem projectNames_eq_singleton_iff {project : String} :
    c.projectNames = [project] ↔ c.paths ≠ [] ∧ ∀ q ∈ c.paths, q.project = project := by
  rw [projectNames, eraseDups_eq_singleton_iff, paths]
  simp only [ne_eq, List.map_eq_nil_iff, List.forall_mem_map]

/-- One dataset holds all tables of the only project. -/
theorem datasetsOf_eq_singleton_iff {project dataset : String} (hne : c.paths ≠ [])
    (hproject : ∀ q ∈ c.paths, q.project = project) :
    c.datasetsOf project = [dataset] ↔ ∀ q ∈ c.paths, q.dataset = dataset := by
  have hall : c.entries.filter (·.1.project = project) = c.entries :=
    List.filter_eq_self.mpr fun e he => by simpa using hproject e.1 (List.mem_map_of_mem he)
  have hentries : c.entries ≠ [] := by simpa [paths] using hne
  rw [datasetsOf, hall, eraseDups_eq_singleton_iff, paths]
  simp only [ne_eq, List.map_eq_nil_iff, List.forall_mem_map, hentries, not_false_eq_true,
    true_and]

/-- A catalog with more tables, but with the same or no table at the path `q`. -/
structure Grown (q : TablePath) (c d : Catalog) : Prop where
  paths : ∀ p ∈ c.paths, p ∈ d.paths
  table : d.get? q = c.get? q

theorem Grown.refl (q : TablePath) (c : Catalog) : c.Grown q c := ⟨fun _ hp => hp, rfl⟩

/-- A table at another path is one more. -/
theorem Grown.insert {q path : TablePath} (h : c.Grown q d) (hpath : path ≠ q) (t : Table) :
    c.Grown q (d.insert path t) where
  paths := fun p hp => mem_paths_insert.mpr (.inr (h.paths p hp))
  table := by rw [get?_insert, if_neg hpath.symm, h.table]

theorem Grown.insertAll {q : TablePath} :
    ∀ {added : List (TablePath × Table)} {d : Catalog}, c.Grown q d → (∀ e ∈ added, e.1 ≠ q) →
      c.Grown q (added.foldl (fun k e => k.insert e.1 e.2) d)
  | [], _, h, _ => h
  | e :: added, d, h, hadded => by
    obtain ⟨he, hadded⟩ := List.forall_mem_cons.mp hadded
    exact (h.insert he e.2).insertAll hadded

end Catalog

/-! ## References -/

namespace TableReference

variable {c d : Catalog} {r : TableReference} {q : TablePath} {p : NamedTable}

/-- A reference stands for the path that it is written as. With the project left out, the tables
are all in one project; with the dataset left out too, they are all in one dataset. -/
theorem qualify_eq_ok_iff :
    r.qualify c = .ok q ↔ r.path = [q.project, q.dataset, q.table] ∨
      c.paths ≠ [] ∧ (∀ p ∈ c.paths, p.project = q.project) ∧
        (r.path = [q.dataset, q.table] ∨
          r.path = [q.table] ∧ ∀ p ∈ c.paths, p.dataset = q.dataset) := by
  obtain ⟨path, hlength, -⟩ := r
  obtain ⟨project, dataset, table⟩ := q
  unfold qualify
  rw [← and_assoc, ← Catalog.projectNames_eq_singleton_iff]
  match path with
  | [project', dataset', table'] => simp
  | [dataset', table'] =>
    dsimp only
    split
    · next hprojects => simp [hprojects]
    · next hmany =>
      have hmany : ∀ p, c.projectNames ≠ [p] := hmany
      simp [hmany]
  | [table'] =>
    dsimp only
    split
    · next project' hprojects =>
      obtain ⟨hne, hall⟩ := Catalog.projectNames_eq_singleton_iff.mp hprojects
      simp only [← Catalog.datasetsOf_eq_singleton_iff hne hall, hprojects]
      split
      · next hdatasets =>
        simp [hdatasets, and_left_comm, and_comm]
      · next hmany =>
        have hmany : ∀ d, c.datasetsOf project' ≠ [d] := hmany
        simp [hmany]
    · next hmany =>
      have hmany : ∀ p, c.projectNames ≠ [p] := hmany
      simp [hmany]
  | [] => simp at hlength
  | _ :: _ :: _ :: _ :: _ =>
    simp only [List.length_cons] at hlength
    omega

theorem kind_of_qualify_error {e : Error} (h : r.qualify c = .error e) : e.kind = .resolution := by
  unfold qualify at h
  split at h
  · cases h
  · split at h
    · split at h
      · cases h
      · split at h <;> cases h
        rfl
      · cases h
        rfl
    · cases h
      rfl

/-- Every error of a reference is one of resolution. -/
theorem kind_of_run_error {e : Error} (h : r.run c = .error e) : e.kind = .resolution := by
  unfold run at h
  cases hq : r.qualify c with
  | error e' =>
    obtain rfl : e' = e := by simpa [hq, bind, Except.bind] using h
    exact kind_of_qualify_error hq
  | ok q =>
    rw [hq] at h
    dsimp only [bind, Except.bind] at h
    split at h
    · cases h
    · cases h
      rfl

/-- A reference to one of the tables stands for no other path where there are more tables. -/
theorem eq_of_qualify {q' : TablePath} (hmem : q ∈ c.paths) (hpaths : ∀ p ∈ c.paths, p ∈ d.paths)
    (hc : r.qualify c = .ok q) (hd : r.qualify d = .ok q') : q' = q := by
  obtain ⟨project, dataset, table⟩ := q
  obtain ⟨project', dataset', table'⟩ := q'
  rw [qualify_eq_ok_iff] at hc hd
  rcases hc with hc | ⟨-, -, hc⟩
  · rcases hd with hd | ⟨-, -, hd | ⟨hd, -⟩⟩ <;> simp_all
  · have hd : [project', dataset', table'] = r.path ∨ project = project' ∧
        (r.path = [dataset', table'] ∨ r.path = [table'] ∧ dataset = dataset') :=
      hd.imp Eq.symm fun ⟨_, hall, h⟩ =>
        ⟨hall _ (hpaths _ hmem), h.imp_right fun h => ⟨h.1, h.2 _ (hpaths _ hmem)⟩⟩
    rcases hc with hc | ⟨hc, -⟩ <;> rcases hd with hd | ⟨rfl, hd | ⟨hd, hd'⟩⟩ <;> simp_all

/-- In a grown catalog a reference gives the table that it gave, as long as it stands for the same
path, or fails. -/
theorem run_of_grown (hq : r.qualify c = .ok q) (h : r.run c = .ok p) (hd : c.Grown q d) :
    (r.run d = .ok p ↔ r.qualify d = .ok q) ∧
      (r.run d = .ok p ∨ ∃ e, r.run d = .error e ∧ e.kind = .resolution) := by
  obtain ⟨q', t, hq', ht, rfl⟩ := run_eq_ok_iff.mp h
  obtain rfl : q = q' := Except.ok.inj (hq.symm.trans hq')
  have hmem := Catalog.mem_paths_of_get? ht
  have hrun : r.qualify d = .ok q → r.run d = .ok (t, some q.table) := fun hqd =>
    run_eq_ok_iff.mpr ⟨q, t, hqd, hd.table.trans ht, rfl⟩
  have hqualify : ∀ p, r.run d = .ok p → r.qualify d = .ok q := fun p hp => by
    obtain ⟨q', -, hq', -⟩ := run_eq_ok_iff.mp hp
    exact eq_of_qualify hmem hd.paths hq hq' ▸ hq'
  refine ⟨⟨hqualify _, hrun⟩, ?_⟩
  cases hrund : r.run d with
  | error e => exact .inr ⟨e, rfl, kind_of_run_error hrund⟩
  | ok p => exact .inl (hrund.symm.trans (hrun (hqualify p hrund)))

/-- A reference stands for the same path in a grown catalog if the new tables agree with it in the
parts that the reference leaves out. -/
theorem qualify_grown_iff (hq : r.qualify c = .ok q) (hd : ∀ p ∈ c.paths, p ∈ d.paths) :
    r.qualify d = .ok q ↔ r.path.length = 3 ∨
      ∀ p ∈ d.paths, p.project = q.project ∧ (r.path.length = 2 ∨ p.dataset = q.dataset) := by
  have hne : c.paths ≠ [] → d.paths ≠ [] := fun hc => by
    obtain ⟨p, hp⟩ := List.exists_mem_of_ne_nil _ hc
    exact List.ne_nil_of_mem (hd p hp)
  rw [qualify_eq_ok_iff] at hq ⊢
  rcases hq with hq | ⟨hc, hall, hq | ⟨hq, hall'⟩⟩
  · simp [hq]
  · simp [hq, hne hc]
  · simp [hq, hne hc, forall_and]

/-- A table that joins the catalog at another path does not change what a reference gives: the
reference gives the same table under the same name, or it is an error of resolution. It gives the
same just when it is written in full, or the new table is in the same project and, with the
dataset left out too, in the same dataset. -/
theorem run_insert (hq : r.qualify c = .ok q) (h : r.run c = .ok p) {path : TablePath}
    (hpath : path ≠ q) (t : Table) :
    (r.run (c.insert path t) = .ok p ∨
      ∃ e, r.run (c.insert path t) = .error e ∧ e.kind = .resolution) ∧
    (r.run (c.insert path t) = .ok p ↔ r.path.length = 3 ∨
      path.project = q.project ∧ (r.path.length = 2 ∨ path.dataset = q.dataset)) := by
  have hgrown := (Catalog.Grown.refl q c).insert hpath t
  obtain ⟨hiff, hrun⟩ := run_of_grown hq h hgrown
  refine ⟨hrun, ?_⟩
  rw [hiff, qualify_grown_iff hq hgrown.paths]
  simp only [Catalog.mem_paths_insert, forall_eq_or_imp]
  rcases (qualify_grown_iff hq fun _ hp => hp).mp hq with hfull | hall
  · simp [hfull]
  · rw [and_iff_left hall]

/-- A table `items` in a dataset `d` of a project `p`. -/
def soleItems : Catalog := ⟨[(⟨"p", "d", "items"⟩, .singleRow)]⟩

/-- Another dataset with a table `items` leaves open which one is meant. -/
theorem run_insert_otherDataset :
    ∃ r : TableReference, r.path = ["items"] ∧
      r.qualify soleItems = .ok ⟨"p", "d", "items"⟩ ∧
      r.run soleItems = .ok (.singleRow, some "items") ∧
      (⟨"p", "e", "items"⟩ : TablePath) ≠ ⟨"p", "d", "items"⟩ ∧
      ∃ e, r.run (soleItems.insert ⟨"p", "e", "items"⟩ .singleRow) = .error e ∧
        e.kind = .resolution := by
  have hpath : (⟨"p", "e", "items"⟩ : TablePath) ≠ ⟨"p", "d", "items"⟩ := by decide
  refine ⟨⟨["items"], by decide, by decide⟩, rfl, rfl, rfl, hpath, ?_⟩
  obtain ⟨hrun, hiff⟩ := run_insert (c := soleItems) (r := ⟨["items"], by decide, by decide⟩)
    rfl rfl hpath .singleRow
  exact hrun.resolve_left fun h => absurd (hiff.mp h) (by decide)

/-- The same holds of any number of tables that join the catalog one after the other. -/
theorem run_insertAll (hq : r.qualify c = .ok q) (h : r.run c = .ok p)
    {added : List (TablePath × Table)} (hadded : ∀ e ∈ added, e.1 ≠ q) :
    r.run (added.foldl (fun k e => k.insert e.1 e.2) c) = .ok p ∨
      ∃ e, r.run (added.foldl (fun k e => k.insert e.1 e.2) c) = .error e ∧
        e.kind = .resolution :=
  (run_of_grown hq h ((Catalog.Grown.refl q c).insertAll hadded)).2

end TableReference

end ColumnarSql
