import ColumnarSql.Proofs.Parts
import ColumnarSql.Proofs.PickedFrames
import ColumnarSql.Proofs.ReductionTypes

/-!
# The types of results

In frames of typed columns every expression whose constants belong to their types gives a
typed result (`eval_typed`). The induction is over the parts: operations by `kernel_sound`,
reducing calls and windows by the laws of reductions, and names by the frames. Subqueries
are arbitrary here, since an expression sees only whether they give rows.
-/

set_option autoImplicit false

namespace ColumnarSql

/-! ## Typed results -/

namespace Column

theorem typed_constant {v : Value} {t : ColumnType} (h : v.conforms t) (n : Nat) :
    (constant v t n).Typed := by
  intro w hw
  rw [List.eq_of_mem_replicate hw]
  exact h

theorem Typed.take {c : Column} (h : c.Typed) (rows : List Nat) : (c.take rows).Typed :=
  typed_of_cells fun i _ => h.cell i

/-- Padded rows add NULL, which belongs to every type. -/
theorem Typed.takePadded {c : Column} (h : c.Typed) (rows : List (Option Nat)) :
    (c.takePadded rows).Typed := by
  intro v hv
  obtain ⟨r, -, rfl⟩ := List.mem_map.mp hv
  cases r with
  | none => exact Value.conforms_null _
  | some i => exact h.cell i

/-- Kept values are values of the list. -/
theorem mem_of_mem_keep {α : Type} {a : α} :
    ∀ {mask : List Bool} {as : List α}, a ∈ keep mask as → a ∈ as
  | [], as, h => by simp [keep] at h
  | _ :: _, [], h => by simp [keep] at h
  | true :: mask, b :: as, h => by
    rcases List.mem_cons.mp h with rfl | h
    · exact List.mem_cons_self
    · exact List.mem_cons_of_mem b (mem_of_mem_keep h)
  | false :: mask, b :: as, h => List.mem_cons_of_mem b (mem_of_mem_keep h)

theorem Typed.filter {c : Column} (h : c.Typed) (mask : List Bool) : (c.filter mask).Typed :=
  fun v hv => h v (mem_of_mem_keep hv)

/-- A column widened to a type that its own coerces to is typed. -/
theorem Typed.widen {c : Column} {t : ColumnType} (h : c.Typed)
    (hbelow : ColumnType.Below c.type t) : (c.widen t).Typed := by
  unfold Column.widen
  split
  · exact h
  · intro v hv
    obtain ⟨w, hw, rfl⟩ := List.mem_map.mp hv
    exact Value.conforms_widen hbelow (h w hw)

end Column

namespace Evaluated

/-- The values belong to the type of the result. -/
def Typed : Evaluated → Prop
  | column c | grouped _ c _ => c.Typed
  | constant v t => v.conforms t

/-- The value in every row belongs to the type of the result. -/
theorem Typed.cell {a : Evaluated} (h : a.Typed) (i : Nat) : (a.cell i).conforms a.type := by
  cases a with
  | constant v t => exact h
  | column c => exact Column.Typed.cell h i
  | grouped level c gs => exact Column.Typed.cell h i

/-- The column of a typed result is typed. -/
theorem Typed.toColumn {a : Evaluated} {n : Nat} {c : Column} (h : a.Typed)
    (hc : a.toColumn n = .ok c) : c.Typed := by
  cases a with
  | constant v t =>
    obtain rfl := Except.ok.inj hc
    exact Column.typed_constant h n
  | column d =>
    simp only [Evaluated.toColumn, ite_error_eq_ok, Except.ok.injEq] at hc
    obtain ⟨-, rfl⟩ := hc
    exact h
  | grouped level d gs => simp [Evaluated.toColumn] at hc

theorem Typed.inward {a : Evaluated} (h : a.Typed) : a.inward.Typed := by
  cases a with
  | constant v t => exact h
  | column c =>
    simp only [Evaluated.inward]
    split
    · exact Column.Typed.cell h 0
    · exact h
  | grouped level c gs => exact h

/-- The first values of groups belong to the type of all. -/
theorem Typed.firstOfGroups {a : Evaluated} (h : a.Typed) : a.firstOfGroups.Typed := by
  cases a with
  | constant v t => exact h
  | column c => exact h
  | grouped level c gs =>
    intro v hv
    obtain ⟨g, -, rfl⟩ := List.mem_map.mp hv
    cases g.head? with
    | none => exact Value.conforms_null _
    | some i => exact Column.Typed.cell h i

/-- Values that belong to a type row by row make a typed column. -/
theorem typed_column_of_rowValues {args : List Evaluated} {f : List Value → Except Error Value}
    {t : ColumnType} {n : Nat} {vs : List Value}
    (hf : ∀ i v, f (row args i) = .ok v → v.conforms t) (h : rowValues args f n = .ok vs) :
    Column.Typed ⟨vs, t⟩ := by
  intro v hv
  obtain ⟨i, -, hi⟩ := exists_of_mem_mapM h hv
  exact hf i v hi

/-- A function of rows gives a typed result if it gives typed values. -/
theorem typed_mapRows {σ : Type} {e : Expr σ} {t : ColumnType}
    {f : List Value → Except Error Value} {args : List Evaluated} {a : Evaluated}
    (hf : ∀ i v, f (row args i) = .ok v → v.conforms t) (h : mapRows e t f args = .ok a) :
    a.Typed := by
  obtain ⟨shape, -, h⟩ := bind_eq_ok.mp h
  cases shape with
  | constant =>
    obtain ⟨v, hv, h⟩ := bind_eq_ok.mp h
    obtain rfl := pure_eq_ok.mp h
    exact hf 0 v hv
  | rows n =>
    obtain ⟨vs, hvs, h⟩ := bind_eq_ok.mp h
    obtain rfl := pure_eq_ok.mp h
    exact typed_column_of_rowValues hf hvs
  | grouped level n gs =>
    obtain ⟨vs, hvs, h⟩ := bind_eq_ok.mp h
    obtain rfl := pure_eq_ok.mp h
    exact typed_column_of_rowValues hf hvs

/-- The values of a group belong to the type of all. -/
theorem conforms_of_mem_groupsOf {a : Evaluated} (h : a.Typed) {f : Frame} {vs : List Value}
    (hvs : vs ∈ a.groupsOf f) : ∀ v ∈ vs, v.conforms a.type := by
  cases a with
  | constant v t =>
    simp only [groupsOf] at hvs
    intro w hw
    have hw' : w = v := by
      split at hvs
      · obtain ⟨g, -, rfl⟩ := List.mem_map.mp hvs
        exact List.eq_of_mem_replicate hw
      · rw [List.mem_singleton.mp hvs] at hw
        exact List.eq_of_mem_replicate hw
    exact hw' ▸ h
  | column c =>
    obtain rfl := List.mem_singleton.mp hvs
    exact h
  | grouped level c gs =>
    obtain ⟨g, -, rfl⟩ := List.mem_map.mp hvs
    intro w hw
    obtain ⟨i, -, rfl⟩ := List.mem_map.mp hw
    exact Column.Typed.cell h i

/-- A reduction of typed values is typed. -/
theorem typed_reduce {fn : SqlFunction} {f : Frame} {arg a : Evaluated} (harg : arg.Typed)
    (h : Evaluated.reduce fn f arg = .ok a) : a.Typed := by
  simp only [Evaluated.reduce, bind_eq_ok, pure_eq_ok] at h
  obtain ⟨t, ht, vs, hvs, rfl⟩ := h
  intro v hv
  obtain ⟨group, hgroup, hv⟩ := exists_of_mem_mapM hvs hv
  refine SqlFunction.reduce_sound ht (fun w hw => ?_) hv
  exact ⟨arg.type, List.mem_singleton_self _, conforms_of_mem_groupsOf harg hgroup w hw⟩

end Evaluated

/-! ## Typed frames -/

/-- Every column of the frame is typed. -/
def Frame.Typed (f : Frame) : Prop := ∀ c ∈ f.columns, c.column.Typed

/-- Every frame of the scope is typed. -/
def Scope.Typed (s : Scope) : Prop := ∀ f ∈ s.frames, f.Typed

namespace Scope

/-- What a path is looked up as in typed frames is typed. -/
theorem typed_lookupFrom :
    ∀ {f : Frame} {outer : List Frame} {path : List String} {a : Evaluated},
      (∀ g ∈ f :: outer, g.Typed) → lookupFrom f outer path = .ok a → a.Typed
  | f, outer, path, a, htyped, h => by
    obtain ⟨c?, hc⟩ := find_of_lookupFrom h
    cases c? with
    | some c =>
      rw [lookupFrom_of_find outer hc, Frame.read_eq_ofColumn, Except.ok.injEq] at h
      have hcolumn := htyped f List.mem_cons_self c (Frame.mem_of_find hc).1
      subst h
      cases f.groups <;> exact hcolumn
    | none =>
      cases outer with
      | nil => simp [lookupFrom, hc] at h
      | cons g outer =>
        obtain ⟨b, hb, rfl⟩ := (lookupFrom_cons_of_not_found hc).mp h
        exact (typed_lookupFrom (fun o ho => htyped o (List.mem_cons_of_mem f ho)) hb).inward

/-- Reducing calls are evaluated in frames of the scope. -/
theorem frames_reducingFrom : ∀ (f : Frame) (outer : List Frame) {g : Frame},
    g ∈ (reducingFrom f outer).frames → g ∈ f :: outer
  | f, [], g, h => h
  | f, o :: outer, g, h => by
    unfold reducingFrom at h
    split at h
    · exact List.mem_cons_of_mem f (frames_reducingFrom o outer h)
    · exact h

theorem Typed.reducing {s : Scope} (h : s.Typed) : s.reducing.Typed :=
  fun g hg => h g (frames_reducingFrom s.frame s.outer hg)

end Scope

/-! ## Expressions -/

namespace Expr

/-- Whether a constant belongs to its declared type; other nodes are none. -/
def constantConforms {σ : Type} : Expr σ → Bool
  | literal l => l.value.conforms l.type
  | _ => true

/-- Every constant inside belongs to its type. -/
abbrev ConstantsConform {σ : Type} (e : Expr σ) : Prop := e.Every (·.constantConforms)

variable {now : Moment} {s : Scope}

/-- The column of a window call's argument is typed if the argument is. -/
theorem typed_windowInput {whole e : Expr Plan} {c : Column}
    (he : ∀ ⦃a⦄, e.eval now s = .ok a → a.Typed) (h : windowInput now whole e s = .ok c) :
    c.Typed := by
  obtain ⟨a, ha, hc⟩ := windowInput_eq_ok_iff.mp h
  cases a with
  | grouped level d gs => simp [Evaluated.windowColumn] at hc
  | _ => exact (he ha).toColumn hc

theorem typed_existsRows {plan : Plan} {a : Evaluated} (h : plan.existsRows s = .ok a) :
    a.Typed := by
  obtain ⟨vs, hvs, h⟩ := bind_eq_ok.mp h
  obtain rfl := pure_eq_ok.mp h
  have htyped : Column.Typed ⟨vs, some .boolean⟩ := by
    intro v hv
    obtain ⟨i, -, hi⟩ := exists_of_mem_mapM hvs hv
    obtain ⟨t, -, hv⟩ := bind_eq_ok.mp hi
    obtain rfl := pure_eq_ok.mp hv
    rfl
  rw [Frame.read_eq_ofColumn]
  cases s.frame.groups <;> exact htyped

/-- A list of typed expressions gives typed results. -/
theorem typed_evalAll {es : List (Expr Plan)} {bs : List Evaluated}
    (hes : ∀ e ∈ es, ∀ ⦃b⦄, e.eval now s = .ok b → b.Typed) (h : evalAll now es s = .ok bs) :
    ∀ b ∈ bs, b.Typed := by
  intro b hb
  rw [evalAll_eq_mapM] at h
  obtain ⟨e, he, hb⟩ := exists_of_mem_mapM h hb
  exact hes e he hb

/-- The rows of typed results conform to their types. -/
theorem conforming_row {bs : List Evaluated} (h : ∀ b ∈ bs, b.Typed) (i : Nat) :
    Conforming (Evaluated.row bs i) (bs.map Evaluated.type) :=
  List.forall₂_map_left_iff.mpr (List.forall₂_map_right_iff.mpr
    (List.forall₂_same.mpr fun b hb => (h b hb).cell i))

/-- An operation of typed parts is typed. -/
theorem typed_operation {e : Expr Plan} (he : e.isOperation)
    (hparts : ∀ c ∈ e.children, ∀ ⦃b⦄, c.eval now s = .ok b → b.Typed) {a : Evaluated}
    (h : e.eval now s = .ok a) : a.Typed := by
  obtain ⟨args, hargs, k, hk, hmap⟩ := (eval_operation_eq_ok he).mp h
  have htyped := typed_evalAll hparts hargs
  exact Evaluated.typed_mapRows (fun i v hv => kernel_sound hk (conforming_row htyped i) hv) hmap

/-- In typed frames the result is typed, if the constants of the expression are. -/
theorem eval_typed {e : Expr Plan} (he : e.ConstantsConform) :
    ∀ {s : Scope}, s.Typed → ∀ ⦃a : Evaluated⦄, e.eval now s = .ok a → a.Typed := by
  induction he with
  | @intro e self _ ih =>
    intro s hs a ha
    by_cases hop : e.isOperation
    · exact typed_operation hop (fun c hc => ih c hc hs) ha
    · cases e with
      | literal l =>
        obtain rfl := Except.ok.inj ha
        exact self
      | field path => exact Scope.typed_lookupFrom hs ha
      | «exists» plan => exact typed_existsRows ha
      | selector e label position => exact ih e (by simp [children]) hs ha
      | groupedBy e =>
        obtain ⟨b, hb, ha⟩ := bind_eq_ok.mp ha
        obtain rfl := pure_eq_ok.mp ha
        exact (ih e (by simp [children]) hs hb).firstOfGroups
      | call f args =>
        have hf : f.isAggregating = true := by simpa [isOperation] using hop
        simp only [eval, hf, if_true, bind_eq_ok] at ha
        obtain ⟨-, -, b, hb, ha⟩ := ha
        refine Evaluated.typed_reduce ?_ ha
        cases args with
        | nil =>
          obtain rfl := Except.ok.inj hb
          rfl
        | cons e args => exact ih e (by simp [children]) hs.reducing hb
      | analytic f args ps os =>
        simp only [eval, evalColumns_eq_mapM, bind_eq_ok, pure_eq_ok] at ha
        obtain ⟨-, -, columns, hcolumns, _, -, _, -, c, hc, rfl⟩ := ha
        refine Window.typed_apply (fun d hd => ?_) hc
        obtain ⟨e, he, hd⟩ := exists_of_mem_mapM hcolumns hd
        exact typed_windowInput (ih e (by simp [children, he]) hs) hd
      | _ => exact absurd rfl hop

end Expr

end ColumnarSql
