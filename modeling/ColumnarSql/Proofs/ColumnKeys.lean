import ColumnarSql.Proofs.GroupKeys

/-!
# Grouping by columns

A key path is kept as a text and split again when its column is read. Without dots in names
the split path names the same column (`Frame.find_splitFirst_path`), so GROUP BY over fields
that the frame itself answers groups the frame by their columns and adds nothing to it
(`Grouping.groupBy_columns`).
-/

set_option autoImplicit false

namespace ColumnarSql

namespace Text

theorem splitFirst_of_no_dot {s : String} (h : '.' ∉ s.toList) : splitFirst s = [s] := by
  have hs : ∀ c ∈ s.toList, decide (c ≠ '.') = true :=
    fun c hc => decide_eq_true fun heq => h (heq ▸ hc)
  have hdrop : s.toList.dropWhile (· ≠ '.') = [] := by
    rw [← List.append_nil s.toList, List.dropWhile_append_of_pos hs]
    rfl
  simp only [splitFirst, hdrop]

theorem splitFirst_dotted {s : String} (h : '.' ∉ s.toList) (r : String) :
    splitFirst (s ++ "." ++ r) = [s, r] := by
  have hs : ∀ c ∈ s.toList, decide (c ≠ '.') = true :=
    fun c hc => decide_eq_true fun heq => h (heq ▸ hc)
  have hlist : (s ++ "." ++ r).toList = s.toList ++ '.' :: r.toList := by simp
  have hdrop : (s ++ "." ++ r).toList.dropWhile (· ≠ '.') = '.' :: r.toList := by
    rw [hlist, List.dropWhile_append_of_pos hs]
    rfl
  have htake : (s ++ "." ++ r).toList.takeWhile (· ≠ '.') = s.toList := by
    rw [hlist, List.takeWhile_append_of_pos hs]
    simp
  simp only [splitFirst, hdrop, htake, String.ofList_toList]

theorem splitFirst_cases (s : String) :
    splitFirst s = [s] ∨ ∃ t n, splitFirst s = [t, n] := by
  simp only [splitFirst]
  split
  · exact .inl rfl
  · exact .inr ⟨_, _, rfl⟩

theorem eq_of_splitFirst {s t : String} (h : splitFirst s = [t]) : s = t := by
  simp only [splitFirst] at h
  split at h
  · exact List.singleton_inj.mp h
  · simp at h

end Text

namespace ScopeColumn

/-- No dot in the name of the column or of its table. -/
def DotFree (c : ScopeColumn) : Prop :=
  '.' ∉ c.name.toList ∧ ∀ t, c.table = some t → '.' ∉ t.toList

/-- The parts of the whole path. -/
def parts (c : ScopeColumn) : List String := c.table.toList ++ [c.name]

/-- The name of the table; without a table the name of the column. -/
def firstPart (c : ScopeColumn) : String := c.table.getD c.name

/-- The name of the column is free to have dots behind the name of a table. -/
theorem splitFirst_path_of_firstPart {c : ScopeColumn} (h : '.' ∉ c.firstPart.toList) :
    Text.splitFirst c.path = c.parts := by
  unfold firstPart at h
  unfold path parts
  cases ht : c.table with
  | none => exact Text.splitFirst_of_no_dot (by simpa [ht] using h)
  | some t => exact Text.splitFirst_dotted (by simpa [ht] using h) c.name

theorem splitFirst_path {c : ScopeColumn} (h : c.DotFree) : Text.splitFirst c.path = c.parts := by
  refine splitFirst_path_of_firstPart ?_
  unfold firstPart
  cases ht : c.table with
  | none => exact h.1
  | some t => exact h.2 t ht

/-- What answers the own path of a column has its name, and its table if it has one. -/
theorem answers_parts_iff {c d : ScopeColumn} :
    d.answers c.parts ↔ d.name = c.name ∧ (c.table = none ∨ d.table = c.table) := by
  cases htable : c.table <;> simp [parts, answers, htable, and_comm]

theorem answers_parts (c : ScopeColumn) : c.answers c.parts :=
  answers_parts_iff.mpr ⟨rfl, .inr rfl⟩

/-- What answers the whole path of a column answers every path of it. -/
theorem answers_of_parts {c d : ScopeColumn} {path : List String} (hc : c.answers path)
    (hd : d.answers c.parts) : d.answers path := by
  cases ht : c.table with
  | none =>
    rw [Frame.path_of_answers ht hc]
    simpa [parts, ht] using hd
  | some t =>
    obtain ⟨hdt, hdn⟩ : d.table = some t ∧ d.name = c.name := by
      simpa [parts, ht, answers] using hd
    unfold answers at hc ⊢
    split at hc <;> simp_all

end ScopeColumn

namespace Frame

/-- No dot in any name. -/
def DotFree (f : Frame) : Prop := ∀ c ∈ f.columns, c.DotFree

/-- A found column is found under its whole path as well. -/
theorem find_parts {f : Frame} {path : List String} {c : ScopeColumn}
    (h : f.find path = .ok (some c)) : f.find c.parts = .ok (some c) := by
  have hc := (mem_of_find h).2
  rw [find_eq_some_iff] at h ⊢
  have hboth : f.columns.filter (·.answers c.parts) =
      (f.columns.filter (·.answers path)).filter (·.answers c.parts) := by
    rw [List.filter_filter]
    refine List.filter_congr fun d _ => ?_
    cases hd : d.answers c.parts with
    | true => rw [ScopeColumn.answers_of_parts hc hd, Bool.and_true]
    | false => rw [Bool.false_and]
  rw [hboth, h]
  simp [ScopeColumn.answers_parts]

/-- The columns of paths that the frame answers. -/
theorem exists_columns {f : Frame} :
    ∀ {paths : List (List String)}, (∀ path ∈ paths, ∃ c, f.find path = .ok (some c)) →
      ∃ cs, List.Forall₂ (fun path c => f.find path = .ok (some c)) paths cs
  | [], _ => ⟨[], .nil⟩
  | path :: paths, h => by
    obtain ⟨⟨c, hc⟩, hpaths⟩ := List.forall_mem_cons.mp h
    obtain ⟨cs, hcs⟩ := exists_columns hpaths
    exact ⟨c :: cs, .cons hc hcs⟩

theorem find_splitFirst_path {f : Frame} (hf : f.DotFree) {path : List String} {c : ScopeColumn}
    (h : f.find path = .ok (some c)) : f.find (Text.splitFirst c.path) = .ok (some c) := by
  rw [ScopeColumn.splitFirst_path (hf c (mem_of_find h).1)]
  exact find_parts h

end Frame

namespace Grouping

variable {now : Moment} {outer : List Frame} {selectors : List (Selector Plan)} {f : Frame}

/-- A field that the frame answers is a key as it stands. -/
theorem keyOf_column {path : List String} {c : ScopeColumn} (h : f.find path = .ok (some c)) :
    keyOf now outer selectors (.field path) f = .ok c.path f := by
  have hresolve : Scope.tryResolve ⟨f, outer⟩ path = .ok (some c.path) := by
    simp [Scope.tryResolve, Scope.frames, Scope.tryResolveIn, h]
  exact keyOf_eq_ok_iff.mpr ⟨path, rfl, keyPath_eq_ok_iff.mpr (.inl ⟨hresolve, rfl⟩)⟩

theorem keys_of_columns {paths : List (List String)} {cs : List ScopeColumn}
    (h : List.Forall₂ (fun path c => f.find path = .ok (some c)) paths cs) :
    (paths.map Expr.field).mapM (keyOf now outer selectors) f = .ok (cs.map (·.path)) f := by
  induction h with
  | nil => rfl
  | cons hc _ ih =>
    simp only [List.map_cons, List.mapM_cons, FrameM.bind_eq_ok, FrameM.pure_eq_ok]
    exact ⟨_, f, keyOf_column hc, _, f, ih, rfl, rfl⟩

theorem columns_of_keys (hf : f.DotFree) {paths : List (List String)} {cs : List ScopeColumn}
    (h : List.Forall₂ (fun path c => f.find path = .ok (some c)) paths cs) :
    ((cs.map (·.path)).mapM fun p => f.column (Text.splitFirst p)) = .ok (cs.map (·.column)) := by
  rw [mapM_eq_ok_iff, List.forall₂_map_left_iff, List.forall₂_map_right_iff, List.forall₂_same]
  intro c hc
  obtain ⟨path, -, hpath⟩ : ∃ path ∈ paths, f.find path = .ok (some c) := by
    obtain ⟨i, hi, rfl⟩ := List.getElem_of_mem hc
    exact ⟨_, List.getElem_mem (h.length_eq ▸ hi), h.get (h.length_eq ▸ hi) hi⟩
  simp [Frame.column, Frame.find_splitFirst_path hf hpath]

/-- GROUP BY over columns of the frame groups the frame by them. -/
theorem groupBy_columns (hf : f.DotFree) {paths : List (List String)} {cs : List ScopeColumn}
    (h : List.Forall₂ (fun path c => f.find path = .ok (some c)) paths cs)
    {marked : List (Expr Plan)} {G : Frame} :
    groupBy now outer selectors (paths.map .field) f = .ok marked G ↔
      G = grouped f (cs.map (·.path)) (cs.map (·.column)) ∧
        (selectors.mapM fun s => s.toExpr.mark (isKey ⟨G, outer⟩ (cs.map (·.path)))) =
          .ok marked := by
  rw [groupBy_eq_ok_iff]
  constructor
  · rintro ⟨paths', g, columns, hkeys, hcolumns, hG, hmarked⟩
    rw [keys_of_columns h] at hkeys
    obtain ⟨rfl, rfl⟩ := EStateM.Result.ok.inj hkeys
    rw [columns_of_keys hf h] at hcolumns
    obtain rfl := Except.ok.inj hcolumns
    exact ⟨hG, hmarked⟩
  · rintro ⟨hG, hmarked⟩
    exact ⟨_, f, _, keys_of_columns h, columns_of_keys hf h, hG, hmarked⟩

end Grouping

end ColumnarSql
