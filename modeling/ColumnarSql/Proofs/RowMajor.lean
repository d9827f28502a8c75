import ColumnarSql.Proofs.QueryTypes

/-!
# Tables from rows

A table made from rows has one column for each field of the schema (`columnsOf`), and there is one
exactly when every row fits the schema (`ofRows_eq_ok_iff_fits`). Turning rows into columns and
back gives the rows (`toRows_columnsOf`), and turning the columns of a well-formed table into rows
and back gives the columns (`columnsOf_toRows`), with any width and any number of rows. So
`ofRows` and `toRows` are inverse to each other (`ofRows_inverts_toRows`).
-/

set_option autoImplicit false

namespace ColumnarSql

namespace Table

variable {schema : List (String × DataType)} {rows : List (List Value)} {t : Table}

/-! ## Rows under a schema -/

/-- One cell for each field of the schema, of the type of the field. -/
def RowFits (schema : List (String × DataType)) (row : List Value) : Prop :=
  List.Forall₂ (fun v field => v.conforms (some field.2)) row schema

/-- The names and the types of the columns are those of the schema. -/
def HasSchema (t : Table) (schema : List (String × DataType)) : Prop :=
  t.names = schema.map (·.1) ∧ t.types = schema.map fun field => some field.2

/-- The cells of rows, column by column. -/
def columnsOf (schema : List (String × DataType)) (rows : List (List Value)) : List Column :=
  schema.zipIdx.map fun p => ⟨rows.map (·.getD p.2 .null), some p.1.2⟩

theorem rowFits_iff {row : List Value} :
    RowFits schema row ↔ row.length = schema.length ∧
      ∀ p ∈ schema.zipIdx, (row.getD p.2 .null).conforms (some p.1.2) := by
  rw [RowFits, List.forall₂_iff_get]
  refine and_congr_right fun hlength => ⟨fun h p hp => ?_, fun h i hi hi' => ?_⟩
  · obtain ⟨hlt, hfield⟩ := List.getElem?_eq_some_iff.mp (List.mem_zipIdx_iff_getElem?.mp hp)
    have hlt' : p.2 < row.length := hlength ▸ hlt
    simpa [hlt', hfield] using h p.2 hlt' hlt
  · have hmem : (schema[i], i) ∈ schema.zipIdx :=
      List.mem_zipIdx_iff_getElem?.mpr (List.getElem?_eq_getElem hi')
    simpa [hi] using h _ hmem

theorem checkWidths_eq_ok_iff {width : Nat} {u : Unit} :
    ∀ {i : Nat} {rows : List (List Value)},
      checkWidths width i rows = .ok u ↔ ∀ row ∈ rows, row.length = width
  | _, [] => by simp [checkWidths]
  | i, row :: rows => by
    rw [checkWidths, error_ite_eq_ok, ne_eq, not_not, checkWidths_eq_ok_iff, List.forall_mem_cons]

@[simp] theorem length_columnsOf : (columnsOf schema rows).length = schema.length := by
  simp [columnsOf]

theorem length_of_mem_columnsOf : ∀ c ∈ columnsOf schema rows, c.length = rows.length := by
  intro c hc
  obtain ⟨p, -, rfl⟩ := List.mem_map.mp hc
  simp [Column.length]

/-- There is a table exactly when every row fits the schema. -/
theorem ofRows_eq_ok_iff_fits :
    ofRows schema rows = .ok t ↔
      (∀ row ∈ rows, RowFits schema row) ∧
        t = ⟨schema.map (·.1), columnsOf schema rows, rows.length⟩ := by
  have hchecked : ∀ (p : (String × DataType) × Nat) (c : Column),
      Column.checked (rows.map fun row => row.getD p.2 .null) (some p.1.2) = .ok c ↔
        c = ⟨rows.map (·.getD p.2 .null), some p.1.2⟩ ∧
          ∀ row ∈ rows, (row.getD p.2 .null).conforms (some p.1.2) := fun p c => by
    rw [Column.checked_eq_ok_iff, List.forall_mem_map]
  have htable : ofColumns (schema.map (·.1)) (columnsOf schema rows) rows.length =
      .ok ⟨schema.map (·.1), columnsOf schema rows, rows.length⟩ :=
    ofColumns_of_lengths (by simp) length_of_mem_columnsOf
  unfold ofRows
  simp only [bind_eq_ok, checkWidths_eq_ok_iff, mapM_eq_ok_iff_map hchecked, exists_and_left,
    exists_const]
  constructor
  · rintro ⟨hwidths, columns, ⟨rfl, hcells⟩, h⟩
    refine ⟨fun row hrow => rowFits_iff.mpr ⟨hwidths row hrow, ?_⟩, ?_⟩
    · exact fun p hp => hcells p hp row hrow
    · exact (Except.ok.inj (htable.symm.trans h)).symm
  · rintro ⟨hfits, rfl⟩
    exact ⟨fun row hrow => (rowFits_iff.mp (hfits row hrow)).1, _,
      ⟨rfl, fun p hp row hrow => (rowFits_iff.mp (hfits row hrow)).2 p hp⟩, htable⟩

/-! ## Rows into columns and back -/

/-- The columns of rows have these rows. -/
theorem toRows_columnsOf {names : List String}
    (hwidths : ∀ row ∈ rows, row.length = schema.length) :
    (⟨names, columnsOf schema rows, rows.length⟩ : Table).toRows = rows := by
  refine List.ext_getElem (by simp) fun i hi hi' => ?_
  refine List.ext_getElem (by simp [toRows, hwidths]) fun j hj hj' => ?_
  simp [toRows, columnsOf, Column.cell, hi', hj']

/-- The rows of a table have its columns. -/
theorem columnsOf_toRows (ht : t.Rectangular)
    (htypes : t.types = schema.map fun field => some field.2) :
    columnsOf schema t.toRows = t.columns := by
  have hlength : t.columns.length = schema.length := by
    simpa [types] using congrArg List.length htypes
  refine List.ext_getElem (by simp [hlength]) fun j hj hj' => ?_
  have hvalues : t.toRows.map (·.getD j .null) = t.columns[j].values := by
    have hrows := ht _ (List.getElem_mem hj')
    rw [Column.length] at hrows
    refine List.ext_getElem (by simp [hrows]) fun i hi hi' => ?_
    simp [toRows, Column.cell, hi', hj']
  have htype : some schema[j].2 = t.columns[j].type := by
    have hget := List.getElem_of_eq htypes (i := j) (by simpa [types] using hj')
    simpa [types] using hget.symm
  have hcolumn : (columnsOf schema t.toRows)[j] =
      ⟨t.toRows.map (·.getD j .null), some schema[j].2⟩ := by
    simp [columnsOf]
  rw [hcolumn, hvalues, htype]

/-- Every row of a typed table fits its schema. -/
theorem rowFits_cells (ht : ∀ c ∈ t.columns, c.Typed)
    (htypes : t.types = schema.map fun field => some field.2) (i : Nat) :
    RowFits schema (t.columns.map (·.cell i)) := by
  have hfields : List.Forall₂ (fun c field => c.type = some field.2) t.columns schema := by
    rw [← List.forall₂_map_right_iff (f := fun field : String × DataType => some field.2),
      ← List.forall₂_map_left_iff (f := Column.type), List.forall₂_eq_eq_eq]
    exact htypes
  rw [RowFits, List.forall₂_map_left_iff]
  exact forall₂_imp_of_mem hfields fun c hc field _ htype => htype ▸ (ht c hc).cell i

/-- The tables of a schema are the well-formed ones with its names and types, and each is made of
its rows. -/
theorem ofRows_eq_ok_iff :
    ofRows schema rows = .ok t ↔ t.WellFormed ∧ t.HasSchema schema ∧ t.toRows = rows := by
  rw [ofRows_eq_ok_iff_fits]
  constructor
  · rintro ⟨hfits, rfl⟩
    have hcells : ∀ c ∈ columnsOf schema rows, c.Typed := by
      intro c hc
      obtain ⟨p, hp, rfl⟩ := List.mem_map.mp hc
      exact List.forall_mem_map.mpr fun row hrow => (rowFits_iff.mp (hfits row hrow)).2 p hp
    have htypes :
        (columnsOf schema rows).map Column.type = schema.map fun field => some field.2 := by
      refine List.ext_getElem (by simp) fun j hj hj' => ?_
      simp [columnsOf]
    exact ⟨⟨by simp, length_of_mem_columnsOf, hcells⟩, ⟨rfl, htypes⟩,
      toRows_columnsOf fun row hrow => (rowFits_iff.mp (hfits row hrow)).1⟩
  · rintro ⟨ht, ⟨hnames, htypes⟩, rfl⟩
    have hcolumns := columnsOf_toRows ht.lengths htypes
    exact ⟨List.forall_mem_map.mpr fun i _ => rowFits_cells ht.typed htypes i,
      by rw [hcolumns, ← hnames, length_toRows]⟩

/-- A table whose column types are known has a schema. -/
theorem exists_schema (hnames : t.names.length = t.columns.length)
    (hknown : ∀ c ∈ t.columns, c.type ≠ none) : ∃ schema, t.HasSchema schema := by
  have htypes : (t.columns.filterMap Column.type).map some = t.types := by
    rw [List.map_filterMap_some_eq_filter_map_isSome]
    refine List.filter_eq_self.mpr (List.forall_mem_map.mpr fun c hc => ?_)
    exact Option.isSome_iff_ne_none.mpr (hknown c hc)
  have hlength : t.names.length = (t.columns.filterMap Column.type).length := by
    simpa [types, hnames] using (congrArg List.length htypes).symm
  refine ⟨t.names.zip (t.columns.filterMap Column.type),
    (List.map_fst_zip (Nat.le_of_eq hlength)).symm, ?_⟩
  calc
    t.types = ((t.names.zip (t.columns.filterMap Column.type)).map Prod.snd).map some := by
      rw [List.map_snd_zip (Nat.le_of_eq hlength.symm), htypes]
    _ = _ := List.map_map

/-- `ofRows` and `toRows` are inverse to each other. There is a table of rows exactly when every
row has a cell of the right type for each field, and it has these rows under the names and types of
the schema, also when there are no fields. A well-formed table whose column types are known is the
table of its rows. -/
theorem ofRows_inverts_toRows :
    (∀ schema rows, (∃ t, ofRows schema rows = .ok t) ↔ ∀ row ∈ rows, RowFits schema row) ∧
    (∀ schema rows t, ofRows schema rows = .ok t → t.toRows = rows ∧ t.HasSchema schema) ∧
    ∀ t : Table, t.WellFormed → (∀ c ∈ t.columns, c.type ≠ none) →
      ∃ schema, t.HasSchema schema ∧ ofRows schema t.toRows = .ok t := by
  refine ⟨fun schema rows => ?_, fun schema rows t h => ?_, fun t ht hknown => ?_⟩
  · simp only [ofRows_eq_ok_iff_fits, exists_and_left, exists_eq, and_true]
  · obtain ⟨-, hschema, hrows⟩ := ofRows_eq_ok_iff.mp h
    exact ⟨hrows, hschema⟩
  · obtain ⟨schema, hschema⟩ := exists_schema ht.names_length hknown
    exact ⟨schema, hschema, ofRows_eq_ok_iff.mpr ⟨ht, hschema, rfl⟩⟩

/-- An integer column with NULL and a string column. -/
def numberedTexts : Table where
  names := ["n", "s"]
  columns := [⟨[.integer 1, .null], some .integer⟩, ⟨[.string "x", .string "y"], some .string⟩]
  numRows := 2

/-- That table from its rows, and the table of two rows without cells. -/
theorem ofRows_inverts_toRows_numberedTexts :
    numberedTexts.WellFormed ∧ (∀ c ∈ numberedTexts.columns, c.type ≠ none) ∧
      (∃ schema, numberedTexts.HasSchema schema ∧
        ofRows schema [[.integer 1, .string "x"], [.null, .string "y"]] = .ok numberedTexts) ∧
      ofRows [] [[], []] = .ok ⟨[], [], 2⟩ ∧ (⟨[], [], 2⟩ : Table).toRows = [[], []] := by
  have hwell : numberedTexts.WellFormed :=
    ⟨rfl, by simp [numberedTexts, Column.length],
      by simp [numberedTexts, Column.Typed, Value.conforms, Value.scalarType?]⟩
  have hknown : ∀ c ∈ numberedTexts.columns, c.type ≠ none := by simp [numberedTexts]
  obtain ⟨-, hrows, htable⟩ := ofRows_inverts_toRows
  exact ⟨hwell, hknown, htable _ hwell hknown, rfl, (hrows [] [[], []] _ rfl).1⟩

end Table

end ColumnarSql
