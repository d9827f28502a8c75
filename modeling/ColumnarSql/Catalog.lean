import ColumnarSql.Table

/-!
# Catalogs

A finite map from full table paths to tables, in ascending order of paths. A
project or dataset exists when a table lies in it.
-/

set_option autoImplicit false

namespace ColumnarSql

/-- The full path of a table. -/
structure TablePath where
  project : String
  dataset : String
  table : String
deriving DecidableEq

/-- Project first, then dataset, then table. -/
def TablePath.compare (a b : TablePath) : Ordering :=
  (Ord.compare a.project b.project).then
    ((Ord.compare a.dataset b.dataset).then (Ord.compare a.table b.table))

theorem TablePath.compare_eq_eq_iff {a b : TablePath} : a.compare b = .eq ↔ a = b := by
  cases a
  cases b
  simp [TablePath.compare, Ordering.then_eq_eq]

structure Catalog where
  entries : List (TablePath × Table)

namespace Catalog

def empty : Catalog := ⟨[]⟩

/-- Entries with one more; an entry at the same path is replaced. -/
def insertEntry (path : TablePath) (table : Table) :
    List (TablePath × Table) → List (TablePath × Table)
  | [] => [(path, table)]
  | e :: es =>
    match path.compare e.1 with
    | .lt => (path, table) :: e :: es
    | .eq => (path, table) :: es
    | .gt => e :: insertEntry path table es

/-- Puts a table at a path, in place of a table already there. -/
def insert (c : Catalog) (path : TablePath) (table : Table) : Catalog :=
  ⟨insertEntry path table c.entries⟩

def get? (c : Catalog) (path : TablePath) : Option Table := c.entries.lookup path

theorem lookup_entry (q : TablePath) (e : TablePath × Table) (es : List (TablePath × Table)) :
    (e :: es).lookup q = if q = e.1 then some e.2 else es.lookup q := by
  obtain ⟨k, t⟩ := e
  rw [List.lookup_cons]
  by_cases h : q = k
  · simp [h]
  · simp [h, beq_eq_false_iff_ne.mpr h]

theorem lookup_insertEntry (path q : TablePath) (table : Table) :
    ∀ es : List (TablePath × Table),
      (insertEntry path table es).lookup q = if q = path then some table else es.lookup q
  | [] => by simp [insertEntry, lookup_entry]
  | e :: es => by
    unfold insertEntry
    cases hc : path.compare e.1 with
    | lt => rw [lookup_entry]
    | eq =>
      have he := TablePath.compare_eq_eq_iff.mp hc
      rw [lookup_entry, lookup_entry, ← he]
      split <;> simp
    | gt =>
      have he : path ≠ e.1 := fun h => by simp [TablePath.compare_eq_eq_iff.mpr h] at hc
      rw [lookup_entry, lookup_entry, lookup_insertEntry path q table es]
      by_cases hq : q = path
      · simp [hq, he]
      · simp [hq]

/-- The inserted table is found at its path, and every other path is as before. -/
theorem get?_insert (c : Catalog) (path q : TablePath) (table : Table) :
    (c.insert path table).get? q = if q = path then some table else c.get? q :=
  lookup_insertEntry path q table c.entries

def isEmpty (c : Catalog) : Bool := c.entries.isEmpty

/-- Names of the projects, ascending. -/
def projectNames (c : Catalog) : List String := (c.entries.map (·.1.project)).eraseDups

/-- Names of the datasets of a project, ascending. -/
def datasetsOf (c : Catalog) (project : String) : List String :=
  ((c.entries.filter (·.1.project = project)).map (·.1.dataset)).eraseDups

/-- Names of the datasets of a project, if the project exists. -/
def datasetNames? (c : Catalog) (project : String) : Option (List String) :=
  if c.projectNames.contains project then some (c.datasetsOf project) else none

end Catalog

end ColumnarSql
