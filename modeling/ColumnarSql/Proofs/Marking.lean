import ColumnarSql.Expr.Marking
import ColumnarSql.Proofs.Kernel
import ColumnarSql.Proofs.Parts

/-!
# Marked expressions

Marking an operation keeps the operation and marks its parts (`mark_operation`), so its
kernel stays the same. No mark touches a constant or a subquery (`every_mark`).
-/

set_option autoImplicit false

namespace ColumnarSql.Expr

variable {σ : Type} {isKey : List String → Except Error Bool}

/-- A part and its marked form. -/
abbrev Marks (isKey : List String → Except Error Bool) (e e' : Expr σ) : Prop :=
  e.mark isKey = .ok e'

theorem forall₂_markAll :
    ∀ {es es' : List (Expr σ)}, markAll isKey es = .ok es' → List.Forall₂ (Marks isKey) es es'
  | [], es', h => by
    obtain rfl := Except.ok.inj h
    exact .nil
  | e :: es, es', h => by
    simp only [markAll, bind_eq_ok, pure_eq_ok] at h
    obtain ⟨a, ha, as, has, rfl⟩ := h
    exact .cons ha (forall₂_markAll has)

theorem forall₂_markBranches :
    ∀ {bs bs' : List (Expr σ × Expr σ)}, markBranches isKey bs = .ok bs' →
      List.Forall₂ (Marks isKey) (branchParts bs) (branchParts bs')
  | [], bs', h => by
    obtain rfl := Except.ok.inj h
    exact .nil
  | (c, r) :: bs, bs', h => by
    simp only [markBranches, bind_eq_ok, pure_eq_ok] at h
    obtain ⟨c', hc, r', hr, rest, hrest, rfl⟩ := h
    exact .cons hc (.cons hr (forall₂_markBranches hrest))

theorem forall₂_markKeys :
    ∀ {ks ks' : List (Expr σ × SortOrder)}, markKeys isKey ks = .ok ks' →
      List.Forall₂ (Marks isKey) (ks.map (·.1)) (ks'.map (·.1))
  | [], ks', h => by
    obtain rfl := Except.ok.inj h
    exact .nil
  | (e, o) :: ks, ks', h => by
    simp only [markKeys, bind_eq_ok, pure_eq_ok] at h
    obtain ⟨a, ha, rest, hrest, rfl⟩ := h
    exact .cons ha (forall₂_markKeys hrest)

/-- The same operation on other parts. -/
def SameOperation (e e' : Expr σ) : Prop :=
  e'.isOperation ∧ ∀ (now : Moment) (ts : List ColumnType) (k : Kernel),
    e'.kernel now ts = .ok k ↔ e.kernel now ts = .ok k

/-- An operation stays the same, and its parts are marked. -/
theorem mark_operation {e e' : Expr σ} (he : e.isOperation) (h : e.mark isKey = .ok e') :
    SameOperation e e' ∧ List.Forall₂ (Marks isKey) e.children e'.children := by
  cases e with
  | binary op l r =>
    simp only [mark, bind_eq_ok, pure_eq_ok] at h
    obtain ⟨l', hl, r', hr, rfl⟩ := h
    refine ⟨⟨rfl, fun now ts k => ?_⟩, .cons hl (.cons hr .nil)⟩
    rcases ts with _ | ⟨_, _ | ⟨_, _ | _⟩⟩ <;> simp [kernel]
  | not e | negate e | nullCheck n e | cast e t =>
    simp only [mark, bind_eq_ok, pure_eq_ok] at h
    obtain ⟨c, hc, rfl⟩ := h
    refine ⟨⟨rfl, fun now ts k => ?_⟩, .cons hc .nil⟩
    rcases ts with _ | ⟨_, _ | _⟩ <;> simp [kernel]
  | extract p e =>
    simp only [mark, bind_eq_ok, pure_eq_ok] at h
    obtain ⟨c, hc, rfl⟩ := h
    refine ⟨⟨rfl, fun now ts k => ?_⟩, .cons hc .nil⟩
    rcases ts with _ | ⟨_, _ | _⟩ <;> simp [kernel]
  | inList n e es =>
    simp only [mark, bind_eq_ok, pure_eq_ok] at h
    obtain ⟨c, hc, cs, hcs, rfl⟩ := h
    exact ⟨⟨rfl, fun _ _ _ => Iff.rfl⟩, .cons hc (forall₂_markAll hcs)⟩
  | case bs o =>
    simp only [mark, bind_eq_ok, pure_eq_ok] at h
    obtain ⟨bs', hbs, o', ho, rfl⟩ := h
    exact ⟨⟨rfl, fun _ _ _ => Iff.rfl⟩,
      List.rel_append (forall₂_markBranches hbs) (.cons ho .nil)⟩
  | conditional c p n =>
    simp only [mark, bind_eq_ok, pure_eq_ok] at h
    obtain ⟨c', hc, p', hp, n', hn, rfl⟩ := h
    exact ⟨⟨rfl, fun _ _ _ => Iff.rfl⟩, .cons hc (.cons hp (.cons hn .nil))⟩
  | struct d es | array t es b =>
    simp only [mark, bind_eq_ok, pure_eq_ok] at h
    obtain ⟨cs, hcs, rfl⟩ := h
    exact ⟨⟨rfl, fun _ _ _ => Iff.rfl⟩, forall₂_markAll hcs⟩
  | call f args =>
    have hf : f.isAggregating = false := by simpa [isOperation] using he
    simp only [mark, hf, Bool.false_eq_true, if_false, bind_eq_ok, pure_eq_ok] at h
    obtain ⟨cs, hcs, rfl⟩ := h
    exact ⟨⟨by simpa [isOperation] using hf, fun _ _ _ => Iff.rfl⟩, forall₂_markAll hcs⟩
  | _ => simp [isOperation] at he

/-- Only a field and a selector can be marked themselves. -/
theorem mark_eq_groupedBy {e : Expr σ} (h : e.mark isKey = .ok (.groupedBy e)) :
    (∃ path, e = .field path ∧ isKey path = .ok true) ∨
      ∃ d label position name, e = .selector d label position ∧
        Selector.name ⟨d, label, position⟩ = .ok name ∧ isKey [name] = .ok true := by
  by_cases hop : e.isOperation
  · obtain ⟨⟨hmarked, -⟩, -⟩ := mark_operation hop h
    simp [isOperation] at hmarked
  · cases e with
    | field path =>
      obtain ⟨key, hkey, h⟩ := bind_eq_ok.mp h
      cases key with
      | true => exact .inl ⟨path, rfl, hkey⟩
      | false => simp at h
    | selector d label position =>
      simp only [mark, bind_eq_ok] at h
      obtain ⟨name, hname, key, hkey, h⟩ := h
      cases key with
      | true => exact .inr ⟨d, label, position, name, rfl, hname, hkey⟩
      | false => simp at h
    | groupedBy d => cases h
    | call f args =>
      have hf : f.isAggregating = true := by simpa [isOperation] using hop
      simp [mark, hf] at h
    | analytic f args ps os => simp [mark] at h
    | literal l | «exists» sub => simp [mark] at h
    | _ => exact absurd rfl hop

theorem every_of_forall₂ {p : Expr σ → Prop} {es es' : List (Expr σ)}
    (h : List.Forall₂ (Marks isKey) es es')
    (hes : ∀ e ∈ es, ∀ ⦃e'⦄, e.mark isKey = .ok e' → e'.Every p) : ∀ e' ∈ es', e'.Every p := by
  induction h with
  | nil => simp
  | cons ha _ ih =>
    exact List.forall_mem_cons.mpr
      ⟨hes _ List.mem_cons_self ha, ih fun e he => hes e (List.mem_cons_of_mem _ he)⟩

/-- A constant or a subquery, which no mark touches. -/
def isUnmarkable : Expr σ → Bool
  | literal _ | .exists _ => true
  | _ => false

/-- Marking leaves an expression as it is, marks it as a whole or marks its parts. -/
theorem mark_cases {e e' : Expr σ} (h : e.mark isKey = .ok e') :
    e' = e ∨ e' = groupedBy e ∨
      e'.isUnmarkable = false ∧ List.Forall₂ (Marks isKey) e.children e'.children := by
  by_cases hop : e.isOperation
  · obtain ⟨⟨hop', -⟩, hparts⟩ := mark_operation hop h
    refine .inr (.inr ⟨?_, hparts⟩)
    cases e' <;> simp_all [isOperation, isUnmarkable]
  · cases e with
    | literal l | «exists» sub | groupedBy e => exact .inl (Except.ok.inj h).symm
    | call f args =>
      have hf : f.isAggregating = true := by simpa [isOperation] using hop
      simp only [mark, hf, if_true, Except.ok.injEq] at h
      exact .inl h.symm
    | field path =>
      obtain ⟨b, -, h⟩ := bind_eq_ok.mp h
      split at h
      · exact .inr (.inl (pure_eq_ok.mp h).symm)
      · exact .inl (pure_eq_ok.mp h).symm
    | selector e label position =>
      simp only [mark, bind_eq_ok] at h
      obtain ⟨name, -, b, -, h⟩ := h
      split at h
      · exact .inr (.inl (pure_eq_ok.mp h).symm)
      · obtain ⟨c, hc, h⟩ := bind_eq_ok.mp h
        obtain rfl := pure_eq_ok.mp h
        exact .inr (.inr ⟨rfl, .cons hc .nil⟩)
    | analytic f args ps os =>
      simp only [mark, bind_eq_ok, pure_eq_ok] at h
      obtain ⟨args', hargs, ps', hps, os', hos, rfl⟩ := h
      exact .inr (.inr ⟨rfl, List.rel_append (List.rel_append (forall₂_markAll hargs)
        (forall₂_markAll hps)) (forall₂_markKeys hos)⟩)
    | _ => exact absurd rfl hop

/-- What marking keeps at a node, and marks have, holds of all parts after marking. -/
theorem every_of_mark {p : Expr σ → Prop}
    (hnode : ∀ e e', e.mark isKey = .ok e' → p e → p e') (hmark : ∀ e, p (groupedBy e))
    {e : Expr σ} (he : e.Every p) : ∀ ⦃e' : Expr σ⦄, e.mark isKey = .ok e' → e'.Every p := by
  induction he with
  | @intro e self parts ih =>
    intro e' h
    rcases mark_cases h with rfl | rfl | ⟨-, hparts⟩
    · exact .intro self parts
    · exact .intro (hmark e) (by simpa [children] using .intro self parts)
    · exact .intro (hnode e e' h self) (every_of_forall₂ hparts ih)

/-- A property of the expression or of a part of it is one of the marked expression. -/
theorem Contains.mark {p : Expr σ → Prop} (hnode : ∀ e e', e.mark isKey = .ok e' → p e → p e')
    {e : Expr σ} (he : e.Contains p) : ∀ ⦃e' : Expr σ⦄, e.mark isKey = .ok e' → e'.Contains p := by
  have hwhole : ∀ e : Expr σ, e.Contains p → (groupedBy e).Contains p := fun e he =>
    .part (by simp [children]) he
  induction he with
  | @self e hp =>
    intro e' h
    rcases mark_cases h with rfl | rfl | -
    · exact .self hp
    · exact hwhole e (.self hp)
    · exact .self (hnode e e' h hp)
  | @part e c hc hpart ih =>
    intro e' h
    rcases mark_cases h with rfl | rfl | ⟨-, hparts⟩
    · exact .part hc hpart
    · exact hwhole e (.part hc hpart)
    · obtain ⟨i, hi, rfl⟩ := List.getElem_of_mem hc
      have hi' : i < e'.children.length := hparts.length_eq ▸ hi
      exact .part (List.getElem_mem hi') (ih (hparts.get hi hi'))

/-- What holds of all parts and of every node but constants and subqueries holds after
marking. -/
theorem every_mark {p : Expr σ → Prop}
    (hp : ∀ e, (∀ l, e ≠ literal l) → e.isSubquery = false → p e) {e : Expr σ}
    (he : e.Every p) : ∀ ⦃e' : Expr σ⦄, e.mark isKey = .ok e' → e'.Every p := by
  refine every_of_mark (fun e e' h he => ?_) (fun e => hp _ (by simp) rfl) he
  rcases mark_cases h with rfl | rfl | ⟨hnode, -⟩
  · exact he
  · exact hp _ (by simp) rfl
  · refine hp e' ?_ (by cases e' <;> simp_all [isUnmarkable, isSubquery])
    rintro l rfl
    cases hnode

/-- The constant in the place of no argument takes no mark. -/
theorem takes_of_marks {f : SqlFunction} {args args' : List (Expr σ)} (h : f.Takes args)
    (hargs : List.Forall₂ (Marks isKey) args args') : f.Takes args' := by
  obtain ⟨written, harity, rfl⟩ := h
  cases written with
  | nil =>
    simp only [List.isEmpty_nil, if_true, List.forall₂_cons_left_iff,
      List.forall₂_nil_left_iff] at hargs
    obtain ⟨e, es, he, rfl, rfl⟩ := hargs
    obtain rfl := Except.ok.inj he
    exact ⟨[], harity, rfl⟩
  | cons e es =>
    simp only [List.isEmpty_cons, Bool.false_eq_true, if_false] at hargs
    refine ⟨args', hargs.length_eq ▸ harity, ?_⟩
    cases args' with
    | nil => simp at hargs
    | cons e' es' => rfl

/-- Calls keep the number of their arguments. -/
theorem isBuilt_mark {e e' : Expr σ} (h : e.mark isKey = .ok e') (he : e.IsBuilt) :
    e'.IsBuilt := by
  cases e with
  | call f args =>
    cases hf : f.isAggregating with
    | true =>
      simp only [mark, hf, if_true, Except.ok.injEq] at h
      exact h ▸ he
    | false =>
      simp only [mark, hf, Bool.false_eq_true, if_false, bind_eq_ok, pure_eq_ok] at h
      obtain ⟨args', hargs, rfl⟩ := h
      exact takes_of_marks he (forall₂_markAll hargs)
  | analytic f args ps os =>
    simp only [mark, bind_eq_ok, pure_eq_ok] at h
    obtain ⟨args', hargs, ps', -, os', -, rfl⟩ := h
    exact takes_of_marks he (forall₂_markAll hargs)
  | literal l | «exists» sub | groupedBy e =>
    obtain rfl := Except.ok.inj h
    trivial
  | field path =>
    obtain ⟨b, -, h⟩ := bind_eq_ok.mp h
    split at h <;>
      · obtain rfl := pure_eq_ok.mp h
        trivial
  | selector e label position =>
    simp only [mark, bind_eq_ok] at h
    obtain ⟨name, -, b, -, h⟩ := h
    split at h
    · obtain rfl := pure_eq_ok.mp h
      trivial
    · obtain ⟨c, -, h⟩ := bind_eq_ok.mp h
      obtain rfl := pure_eq_ok.mp h
      trivial
  | not e | negate e | nullCheck n e | cast e t | extract p e | struct d es | array t es b =>
    simp only [mark, bind_eq_ok, pure_eq_ok] at h
    obtain ⟨c, -, rfl⟩ := h
    trivial
  | binary op l r | inList n e es | case bs o =>
    simp only [mark, bind_eq_ok, pure_eq_ok] at h
    obtain ⟨c, -, d, -, rfl⟩ := h
    trivial
  | conditional c p n =>
    simp only [mark, bind_eq_ok, pure_eq_ok] at h
    obtain ⟨c', -, p', -, n', -, rfl⟩ := h
    trivial

/-- Calls over windows are marked inside, and reducing calls not at all. -/
theorem calls_of_mark {e e' : Expr σ} (h : e.mark isKey = .ok e') :
    (e'.isWindowCall → e.isWindowCall) ∧ (e'.isReducingCall → e' = e) := by
  by_cases hop : e.isOperation
  · obtain ⟨⟨hop', -⟩, -⟩ := mark_operation hop h
    cases e' <;> simp_all [isOperation, isWindowCall, isReducingCall]
  · cases e with
    | literal l | «exists» sub | groupedBy e =>
      obtain rfl := Except.ok.inj h
      exact ⟨id, fun _ => rfl⟩
    | call f args =>
      have hf : f.isAggregating = true := by simpa [isOperation] using hop
      simp only [mark, hf, if_true, Except.ok.injEq] at h
      exact h ▸ ⟨id, fun _ => rfl⟩
    | field path =>
      obtain ⟨b, -, h⟩ := bind_eq_ok.mp h
      split at h <;>
        · obtain rfl := pure_eq_ok.mp h
          simp [isWindowCall, isReducingCall]
    | selector e label position =>
      simp only [mark, bind_eq_ok] at h
      obtain ⟨name, -, b, -, h⟩ := h
      split at h
      · obtain rfl := pure_eq_ok.mp h
        simp [isWindowCall, isReducingCall]
      · obtain ⟨c, -, h⟩ := bind_eq_ok.mp h
        obtain rfl := pure_eq_ok.mp h
        simp [isWindowCall, isReducingCall]
    | analytic f args ps os =>
      simp only [mark, bind_eq_ok, pure_eq_ok] at h
      obtain ⟨args', -, ps', -, os', -, rfl⟩ := h
      exact ⟨fun _ => rfl, by simp [isReducingCall]⟩
    | _ => exact absurd rfl hop

end ColumnarSql.Expr
