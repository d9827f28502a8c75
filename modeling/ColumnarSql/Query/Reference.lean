import ColumnarSql.Catalog
import ColumnarSql.Query.Basic

/-!
# Table references

A missing project is the catalog's only one, and a missing dataset the only one
of that project; with more or none the reference is an error.
-/

set_option autoImplicit false

namespace ColumnarSql.TableReference

/-- The full path a reference stands for. -/
def qualify (c : Catalog) (r : TableReference) : Except Error TablePath :=
  match r.path with
  | [project, dataset, table] => .ok ⟨project, dataset, table⟩
  | path =>
    match c.projectNames with
    | [project] =>
      match path with
      | [dataset, table] => .ok ⟨project, dataset, table⟩
      | [table] =>
        match c.datasetsOf project with
        | [dataset] => .ok ⟨project, dataset, table⟩
        | datasets => .error (.manyDatasets path datasets)
      | path => .error (.invalidTablePath path)
    | projects => .error (.manyProjects path projects)

/-- The table and its name. -/
def run (c : Catalog) (r : TableReference) : Except Error (Table × Option String) := do
  let path ← r.qualify c
  match c.get? path with
  | some t => return (t, some path.table)
  | none => throw (.tableNotFound path.project path.dataset path.table)

end ColumnarSql.TableReference
