import ColumnarSql.Proofs.GroupKeys
import ColumnarSql.Proofs.Marking
import ColumnarSql.SelectPlan

/-!
# The scope of HAVING

HAVING is evaluated over the columns of the result, inside the grouped scope of the fields. A
condition that names columns by table and column finds none of the result's columns, so it is
marked as a field would be (`mark_havingScope`), and what it reads of the grouped frame lies
one frame further outward (`Evaluated.outward`). Evaluation respects that
(`eval_havingScope`).
-/

set_option autoImplicit false

namespace ColumnarSql

/-! ## Results one frame further outward -/

/-- The shape with its partition one frame further outward. -/
def Shape.outward : Shape → Shape
  | grouped level n groups => grouped (level + 1) n groups
  | s => s

namespace Evaluated

variable {σ : Type}

/-- The result with its partition one frame further outward. -/
def outward : Evaluated → Evaluated
  | grouped level c groups => grouped (level + 1) c groups
  | a => a

@[simp] theorem type_outward (a : Evaluated) : a.outward.type = a.type := by
  cases a <;> rfl

@[simp] theorem cell_outward (a : Evaluated) (i : Nat) : a.outward.cell i = a.cell i := by
  cases a <;> rfl

@[simp] theorem firstOfGroups_outward (a : Evaluated) :
    a.outward.firstOfGroups = a.firstOfGroups := by
  cases a <;> rfl

/-- One value for each group lies in no partition. -/
@[simp] theorem outward_firstOfGroups (a : Evaluated) :
    a.firstOfGroups.outward = a.firstOfGroups := by
  cases a <;> rfl

/-- What a frame with groups or the frames around it give is passed inward unchanged but for
the level. -/
theorem inward_of_lookup {f : Frame} (hf : f.groups.isSome) {outer : List Frame}
    {path : List String} {a : Evaluated} (h : Scope.lookupFrom f outer path = .ok a) :
    a.inward = a.outward := by
  obtain ⟨gs, hgs⟩ := Option.isSome_iff_exists.mp hf
  obtain ⟨c?, hc⟩ := Scope.find_of_lookupFrom h
  cases c? with
  | some c =>
    rw [Scope.lookupFrom_of_find outer hc, Frame.read, hgs, Except.ok.injEq] at h
    subst h
    rfl
  | none =>
    cases outer with
    | nil => simp [Scope.lookupFrom, hc] at h
    | cons o outer =>
      obtain ⟨b, -, rfl⟩ := (Scope.lookupFrom_cons_of_not_found hc).mp h
      cases b with
      | column c => by_cases hlen : c.length = 1 <;> simp [inward, outward, hlen]
      | _ => rfl

theorem extend_outward (e : Expr σ) (s : Shape) (a : Evaluated) :
    s.outward.extend e a.outward = (s.extend e a).map Shape.outward := by
  cases s <;> cases a <;> simp only [Shape.outward, outward, Shape.extend, Except.map]
  · split <;> rfl
  · simp only [Nat.add_right_cancel_iff]
    split <;> rfl

theorem foldlM_extend_outward (e : Expr σ) : ∀ (args : List Evaluated) (s : Shape),
    (args.map outward).foldlM (Shape.extend e) s.outward =
      (args.foldlM (Shape.extend e) s).map Shape.outward
  | [], s => rfl
  | a :: args, s => by
    rw [List.map_cons, List.foldlM_cons, List.foldlM_cons, extend_outward]
    cases s.extend e a with
    | error x => rfl
    | ok s' => exact foldlM_extend_outward e args s'

theorem row_outward (args : List Evaluated) (i : Nat) : row (args.map outward) i = row args i := by
  simp [row, Function.comp_def]

/-- Mapping rows moves the result outward with its operands. -/
theorem mapRows_outward (e : Expr σ) (t : ColumnType) (f : List Value → Except Error Value)
    (args : List Evaluated) :
    mapRows e t f (args.map outward) = (mapRows e t f args).map outward := by
  have hshape : Shape.ofOperands e (args.map outward) =
      (Shape.ofOperands e args).map Shape.outward := foldlM_extend_outward e args .constant
  have hvalues : ∀ n, rowValues (args.map outward) f n = rowValues args f n := fun n => by
    simp only [rowValues, row_outward]
  unfold mapRows
  rw [hshape]
  simp only [row_outward, hvalues]
  cases Shape.ofOperands e args with
  | error x => rfl
  | ok s =>
    cases s with
    | constant =>
      change (f (row args 0) >>= fun v => pure (constant v t)) =
        (f (row args 0) >>= fun v => pure (constant v t)).map outward
      cases f (row args 0) <;> rfl
    | rows n =>
      change (rowValues args f n >>= fun vs => pure (column ⟨vs, t⟩)) =
        (rowValues args f n >>= fun vs => pure (column ⟨vs, t⟩)).map outward
      cases rowValues args f n <;> rfl
    | grouped level n groups =>
      change (rowValues args f n >>= fun vs => pure (grouped (level + 1) ⟨vs, t⟩ groups)) =
        (rowValues args f n >>= fun vs => pure (grouped level ⟨vs, t⟩ groups)).map outward
      cases rowValues args f n <;> rfl

end Evaluated

/-! ## Conditions over groups -/

namespace Expr

variable {σ : Type}

/-- A condition of constants, columns named by table and column, reducing calls, and operations
on these. -/
inductive GroupCondition : Expr σ → Prop where
  | literal (l : Literal) : GroupCondition (.literal l)
  | field (table name : String) : GroupCondition (.field [table, name])
  | reducing {f : SqlFunction} (args : List (Expr σ)) (h : f.isAggregating) :
      GroupCondition (.call f args)
  | operation {e : Expr σ} (h : e.isOperation) (parts : ∀ c ∈ e.children, GroupCondition c) :
      GroupCondition e

variable {isKey isKey' : List String → Except Error Bool}

theorem markAll_congr : ∀ {es : List (Expr σ)},
    (∀ e ∈ es, e.mark isKey = e.mark isKey') → markAll isKey es = markAll isKey' es
  | [], _ => rfl
  | e :: es, h => by
    rw [markAll, markAll, h e List.mem_cons_self,
      markAll_congr fun d hd => h d (List.mem_cons_of_mem e hd)]

theorem markBranches_congr : ∀ {bs : List (Expr σ × Expr σ)},
    (∀ e ∈ branchParts bs, e.mark isKey = e.mark isKey') →
      markBranches isKey bs = markBranches isKey' bs
  | [], _ => rfl
  | (c, r) :: bs, h => by
    simp only [branchParts, List.forall_mem_cons] at h
    rw [markBranches, markBranches, h.1, h.2.1, markBranches_congr h.2.2]

theorem mark_operation_congr {e : Expr σ} (he : e.isOperation)
    (h : ∀ c ∈ e.children, c.mark isKey = c.mark isKey') : e.mark isKey = e.mark isKey' := by
  cases e with
  | struct d es | array t es b =>
    rw [children] at h
    rw [mark, mark, markAll_congr h]
  | call f args =>
    rw [children] at h
    rw [mark, mark, markAll_congr h]
  | inList n e es =>
    simp only [children, List.forall_mem_cons] at h
    rw [mark, mark, h.1, markAll_congr h.2]
  | case bs o =>
    simp only [children, List.forall_mem_append, List.forall_mem_singleton] at h
    rw [mark, mark, markBranches_congr h.1, h.2]
  | binary op l r =>
    simp only [children, List.forall_mem_cons] at h
    rw [mark, mark, h.1, h.2.1]
  | conditional c p n =>
    simp only [children, List.forall_mem_cons] at h
    rw [mark, mark, h.1, h.2.1, h.2.2.1]
  | not e | negate e | nullCheck n e | cast e t | extract p e =>
    rw [mark, mark, h e (by simp [children])]
  | _ => simp [isOperation] at he

/-- Marks depend only on which paths name keys. -/
theorem mark_congr {c : Expr σ} (hc : GroupCondition c)
    (h : ∀ table name, isKey [table, name] = isKey' [table, name]) :
    c.mark isKey = c.mark isKey' := by
  induction hc with
  | literal l => rfl
  | field table name => rw [mark, mark, h]
  | reducing args hf => simp only [mark, hf, if_true]
  | operation he _ ih => exact mark_operation_congr he ih

end Expr

namespace SelectOf

open ColumnarSql.Expr (GroupCondition)

variable {now : Moment} {result : Table} {f : Frame} {outer : List Frame}

/-- The result has no columns under a table name. -/
theorem find_result (t : Table) (table name : String) :
    (Frame.ofTable t none).find [table, name] = .ok none := by
  refine Frame.find_eq_none_iff.mpr fun c hc => ?_
  obtain ⟨p, -, rfl⟩ := List.mem_map.mp hc
  rfl

/-- A path of table and column names the same key in HAVING as in a field. -/
theorem isKey_havingScope (paths : List String) (table name : String) :
    Grouping.isKey (havingScope result ⟨f, outer⟩) paths [table, name] =
      Grouping.isKey ⟨f, outer⟩ paths [table, name] := by
  have hresolve : (havingScope result ⟨f, outer⟩).tryResolve [table, name] =
      (⟨f, outer⟩ : Scope).tryResolve [table, name] := by
    have hfind : (havingScope result ⟨f, outer⟩).frame.find [table, name] = .ok none :=
      find_result result table name
    rw [Scope.tryResolve, Scope.frames, Scope.tryResolveIn, hfind]
    rfl
  rw [Grouping.isKey, hresolve]
  rfl

/-- A condition is marked in HAVING as it would be as a field. -/
theorem mark_havingScope {c : Expr Plan} (hc : GroupCondition c) (paths : List String) :
    c.mark (Grouping.isKey (havingScope result ⟨f, outer⟩) paths) =
      c.mark (Grouping.isKey ⟨f, outer⟩ paths) :=
  Expr.mark_congr hc (isKey_havingScope paths)

/-- In HAVING the expression gives what it gives as a field, one frame further outward. -/
def ReadsOutward (now : Moment) (result : Table) (f : Frame) (outer : List Frame)
    (e : Expr Plan) : Prop :=
  ∀ b, e.eval now (havingScope result ⟨f, outer⟩) = .ok b ↔
    ∃ a, e.eval now ⟨f, outer⟩ = .ok a ∧ a.outward = b

theorem readsOutward_field (hf : f.groups.isSome) (table name : String) :
    ReadsOutward now result f outer (.field [table, name]) := by
  intro b
  have hfind : (havingScope result ⟨f, outer⟩).frame.find [table, name] = .ok none :=
    find_result result table name
  have hlookup : (havingScope result ⟨f, outer⟩).lookup [table, name] = .ok b ↔
      ∃ a, Scope.lookupFrom f outer [table, name] = .ok a ∧ a.inward = b :=
    Scope.lookupFrom_cons_of_not_found hfind
  rw [Expr.eval, hlookup]
  exact exists_congr fun a => and_congr_right fun ha => by
    rw [Evaluated.inward_of_lookup hf ha]

theorem readsOutward_groupedBy {e : Expr Plan} (h : ReadsOutward now result f outer e) :
    ReadsOutward now result f outer (.groupedBy e) := by
  intro b
  simp only [Expr.eval, bind_eq_ok, pure_eq_ok, h _]
  constructor
  · rintro ⟨_, ⟨a, ha, rfl⟩, rfl⟩
    exact ⟨_, ⟨a, ha, rfl⟩, by simp⟩
  · rintro ⟨_, ⟨a, ha, rfl⟩, rfl⟩
    exact ⟨_, ⟨a, ha, rfl⟩, by simp⟩

/-- Reducing calls in HAVING use the groups of the fields. -/
theorem reducing_havingScope :
    (havingScope result ⟨f, outer⟩).reducing = (⟨f, outer⟩ : Scope).reducing := rfl

theorem readsOutward_reducing {fn : SqlFunction} (hfn : fn.isAggregating)
    (args : List (Expr Plan)) : ReadsOutward now result f outer (.call fn args) := by
  intro b
  simp only [Expr.eval, hfn, if_true, reducing_havingScope, Evaluated.reduce, bind_eq_ok,
    pure_eq_ok]
  constructor
  · rintro ⟨u, hu, arg, harg, t, ht, vs, hvs, rfl⟩
    exact ⟨_, ⟨u, hu, arg, harg, t, ht, vs, hvs, rfl⟩, rfl⟩
  · rintro ⟨_, ⟨u, hu, arg, harg, t, ht, vs, hvs, rfl⟩, rfl⟩
    exact ⟨u, hu, arg, harg, t, ht, vs, hvs, rfl⟩

theorem readsOutward_all {es : List (Expr Plan)}
    (hes : ∀ e ∈ es, ReadsOutward now result f outer e) (bs : List Evaluated) :
    Expr.evalAll now es (havingScope result ⟨f, outer⟩) = .ok bs ↔
      ∃ as, Expr.evalAll now es ⟨f, outer⟩ = .ok as ∧ as.map Evaluated.outward = bs := by
  induction es generalizing bs with
  | nil =>
    simp only [Expr.evalAll_nil, exists_eq_left, List.map_nil]
    exact eq_comm
  | cons e es ih =>
    have ih := ih fun d hd => hes d (List.mem_cons_of_mem e hd)
    simp only [Expr.evalAll_cons, hes e List.mem_cons_self _, ih]
    constructor
    · rintro ⟨_, ⟨a, ha, rfl⟩, _, ⟨as, has, rfl⟩, rfl⟩
      exact ⟨a :: as, ⟨a, ha, as, has, rfl⟩, rfl⟩
    · rintro ⟨_, ⟨a, ha, as, has, rfl⟩, rfl⟩
      exact ⟨_, ⟨a, ha, rfl⟩, _, ⟨as, has, rfl⟩, rfl⟩

theorem readsOutward_operation {e : Expr Plan} (he : e.isOperation)
    (h : ∀ c ∈ e.children, ReadsOutward now result f outer c) :
    ReadsOutward now result f outer e := by
  intro b
  have htypes : ∀ as : List Evaluated,
      (as.map Evaluated.outward).map Evaluated.type = as.map Evaluated.type := by simp
  simp only [Expr.eval_operation_eq_ok he, readsOutward_all h]
  constructor
  · rintro ⟨_, ⟨as, has, rfl⟩, k, hk, hb⟩
    rw [Evaluated.mapRows_outward, map_eq_ok] at hb
    obtain ⟨a, ha, rfl⟩ := hb
    exact ⟨a, ⟨as, has, k, htypes as ▸ hk, ha⟩, rfl⟩
  · rintro ⟨a, ⟨as, has, k, hk, ha⟩, rfl⟩
    refine ⟨_, ⟨as, has, rfl⟩, k, (htypes as).symm ▸ hk, ?_⟩
    rw [Evaluated.mapRows_outward, ha]
    rfl

/-- A marked condition over groups reads in HAVING what it reads as a field. -/
theorem eval_havingScope (hf : f.groups.isSome) {c : Expr Plan} (hc : GroupCondition c)
    {isKey : List String → Except Error Bool} :
    ∀ {m : Expr Plan}, c.mark isKey = .ok m → ReadsOutward now result f outer m := by
  induction hc with
  | literal l =>
    intro m hm b
    obtain rfl := Except.ok.inj hm
    simp [Expr.eval, Evaluated.outward]
  | field table name =>
    intro m hm
    obtain ⟨key, -, hm⟩ := bind_eq_ok.mp hm
    cases key with
    | true =>
      obtain rfl := pure_eq_ok.mp hm
      exact readsOutward_groupedBy (readsOutward_field hf table name)
    | false =>
      obtain rfl := pure_eq_ok.mp hm
      exact readsOutward_field hf table name
  | reducing args hfn =>
    intro m hm
    simp only [Expr.mark, hfn, if_true, Except.ok.injEq] at hm
    subst hm
    exact readsOutward_reducing hfn args
  | @operation e he _ ih =>
    intro m hm
    obtain ⟨⟨hop, -⟩, hparts⟩ := Expr.mark_operation he hm
    refine readsOutward_operation hop fun d hd => ?_
    obtain ⟨c, hc, hcd⟩ := exists_of_mem_mapM ((mapM_eq_ok_iff _ _ _).mpr hparts) hd
    exact ih c hc hcd

end SelectOf

end ColumnarSql
