import ColumnarSql.Proofs.Parts

/-!
# Traversal of parts

An expression is its node with its parts: two expressions of the same node (`SameNode`) and with
the same parts are equal (`SameNode.eq_of_children`). `mapChildren` keeps the node, and the parts
that it gives are those that a walk over `children` gives, in every monad
(`children_mapChildren`). For functions that may fail, this says what it gives and where it
fails (`mapChildren_traverses`).
-/

set_option autoImplicit false

namespace ColumnarSql

namespace Expr

variable {σ : Type}

/-! ## Nodes -/

/-- The same node over parts of its own: the operator, the flags, the types, the names, the
function and the sort orders agree, and there are as many parts of each kind. -/
inductive SameNode : Expr σ → Expr σ → Prop where
  | literal (l : Literal) : SameNode (literal l) (literal l)
  | field (path : List String) : SameNode (field path) (field path)
  | exists (sub : σ) : SameNode (.exists sub) (.exists sub)
  | binary (op : BinaryOp) (l r l' r' : Expr σ) : SameNode (binary op l r) (binary op l' r')
  | not (e e' : Expr σ) : SameNode (not e) (not e')
  | negate (e e' : Expr σ) : SameNode (negate e) (negate e')
  | nullCheck (negated : Bool) (e e' : Expr σ) :
      SameNode (nullCheck negated e) (nullCheck negated e')
  | inList (negated : Bool) (e e' : Expr σ) {es es' : List (Expr σ)}
      (elements : es.length = es'.length) : SameNode (inList negated e es) (inList negated e' es')
  | case (o o' : Expr σ) {bs bs' : List (Expr σ × Expr σ)} (branches : bs.length = bs'.length) :
      SameNode (case bs o) (case bs' o')
  | conditional (c p n c' p' n' : Expr σ) : SameNode (conditional c p n) (conditional c' p' n')
  | cast (e e' : Expr σ) (target : ScalarType) : SameNode (cast e target) (cast e' target)
  | extract (part : DatePart) (e e' : Expr σ) : SameNode (extract part e) (extract part e')
  | struct (declared : Option (List (Field DataType))) {es es' : List (Expr σ)}
      (fields : es.length = es'.length) : SameNode (struct declared es) (struct declared es')
  | array (element : ColumnType) (empty : Bool) {es es' : List (Expr σ)}
      (elements : es.length = es'.length) :
      SameNode (array element es empty) (array element es' empty)
  | call (f : SqlFunction) {args args' : List (Expr σ)} (arguments : args.length = args'.length) :
      SameNode (call f args) (call f args')
  | analytic (f : SqlFunction) {args args' ps ps' : List (Expr σ)}
      {os os' : List (Expr σ × SortOrder)} (arguments : args.length = args'.length)
      (partitionBy : ps.length = ps'.length) (orders : os.map (·.2) = os'.map (·.2)) :
      SameNode (analytic f args ps os) (analytic f args' ps' os')
  | selector (e e' : Expr σ) (label : Option String) (position : Option Nat) :
      SameNode (selector e label position) (selector e' label position)
  | groupedBy (e e' : Expr σ) : SameNode (groupedBy e) (groupedBy e')

namespace SameNode

theorem refl (e : Expr σ) : SameNode e e := by
  cases e <;> constructor <;> rfl

theorem symm {e e' : Expr σ} (h : SameNode e e') : SameNode e' e := by
  cases h <;> constructor <;> simp_all

theorem trans {d e e' : Expr σ} (h : SameNode d e) (h' : SameNode e e') : SameNode d e' := by
  cases h <;> cases h' <;> constructor <;> simp_all

end SameNode

/-! ## Parts -/

theorem branchParts_injective : ∀ {bs bs' : List (Expr σ × Expr σ)},
    branchParts bs = branchParts bs' → bs = bs'
  | [], [], _ => rfl
  | (c, r) :: bs, (c', r') :: bs', h => by
    simp only [branchParts, List.cons.injEq] at h
    obtain ⟨rfl, rfl, h⟩ := h
    rw [branchParts_injective h]
  | [], _ :: _, h => by simp [branchParts] at h
  | _ :: _, [], h => by simp [branchParts] at h

/-- A node and its parts make up the expression. -/
theorem SameNode.eq_of_children {e e' : Expr σ} (h : SameNode e e')
    (hparts : e.children = e'.children) : e = e' := by
  cases h with
  | case o o' branches =>
    obtain ⟨hbs, ho⟩ := List.append_inj' hparts rfl
    rw [branchParts_injective hbs, List.singleton_inj.mp ho]
  | @analytic f args args' ps ps' os os' arguments partitionBy orders =>
    obtain ⟨hargs, hkeys⟩ := List.append_inj hparts (by simp [arguments, partitionBy])
    obtain ⟨rfl, rfl⟩ := List.append_inj hargs arguments
    have hpairs : os = os' := by
      have hzip := congrArg₂ List.zip hkeys orders
      simpa [List.zip_map'] using hzip
    rw [hpairs]
  | _ => simp_all [children]

/-- The parts of the result are those of a walk over the parts. -/
theorem children_mapChildren {m : Type → Type} [Monad m] [LawfulMonad m]
    (f : Expr σ → m (Expr σ)) (e : Expr σ) : children <$> e.mapChildren f = e.children.mapM f := by
  have hbranches : ∀ bs : List (Expr σ × Expr σ),
      branchParts <$> (bs.mapM fun b => return (← f b.1, ← f b.2)) = (branchParts bs).mapM f := by
    intro bs
    induction bs with
    | nil => simp [branchParts]
    | cons b bs ih => simp [branchParts, ← ih]
  have hkeys : ∀ os : List (Expr σ × SortOrder),
      List.map (·.1) <$> (os.mapM fun k => return (← f k.1, k.2)) = (os.map (·.1)).mapM f := by
    intro os
    induction os with
    | nil => simp
    | cons k os ih => simp [← ih]
  cases e with
  | case bs o => simp [mapChildren, children, List.mapM_append, ← hbranches]
  | analytic f args ps os => simp [mapChildren, children, List.mapM_append, ← hkeys]
  | _ => simp [mapChildren, children]

/-- Only parts are replaced. -/
theorem sameNode_of_mapChildren {ε : Type} {f : Expr σ → Except ε (Expr σ)} {e e' : Expr σ}
    (h : e.mapChildren f = .ok e') : SameNode e e' := by
  cases e with
  | literal l | field path | «exists» sub =>
    obtain rfl := pure_eq_ok.mp h
    exact .refl _
  | not e | negate e | nullCheck negated e | cast e target | extract part e
  | selector e label position | groupedBy e =>
    simp only [mapChildren, bind_eq_ok, pure_eq_ok] at h
    obtain ⟨c, -, rfl⟩ := h
    constructor
  | binary op l r =>
    simp only [mapChildren, bind_eq_ok, pure_eq_ok] at h
    obtain ⟨l', -, r', -, rfl⟩ := h
    constructor
  | conditional c p n =>
    simp only [mapChildren, bind_eq_ok, pure_eq_ok] at h
    obtain ⟨c', -, p', -, n', -, rfl⟩ := h
    constructor
  | struct declared es | array element es empty | call g es =>
    simp only [mapChildren, bind_eq_ok, pure_eq_ok] at h
    obtain ⟨cs, hcs, rfl⟩ := h
    constructor
    exact ((mapM_eq_ok_iff _ _ _).mp hcs).length_eq
  | inList negated e es =>
    simp only [mapChildren, bind_eq_ok, pure_eq_ok] at h
    obtain ⟨c, -, cs, hcs, rfl⟩ := h
    exact .inList _ _ _ ((mapM_eq_ok_iff _ _ _).mp hcs).length_eq
  | case bs o =>
    simp only [mapChildren, bind_eq_ok, pure_eq_ok] at h
    obtain ⟨bs', hbs, o', -, rfl⟩ := h
    exact .case _ _ ((mapM_eq_ok_iff _ _ _).mp hbs).length_eq
  | analytic g args ps os =>
    simp only [mapChildren, bind_eq_ok, pure_eq_ok] at h
    obtain ⟨args', hargs, ps', hps, os', hos, rfl⟩ := h
    refine .analytic g ((mapM_eq_ok_iff _ _ _).mp hargs).length_eq
      ((mapM_eq_ok_iff _ _ _).mp hps).length_eq ?_
    refine map_eq_map_of_forall₂ (((mapM_eq_ok_iff _ _ _).mp hos).imp fun k k' hk => ?_)
    simp only [bind_eq_ok, pure_eq_ok] at hk
    obtain ⟨c, -, rfl⟩ := hk
    rfl

/-- The result has the node, and its parts are the mapped ones, in their order. -/
theorem mapChildren_eq_ok_iff {ε : Type} {f : Expr σ → Except ε (Expr σ)} {e e' : Expr σ} :
    e.mapChildren f = .ok e' ↔
      SameNode e e' ∧ List.Forall₂ (fun c c' => f c = .ok c') e.children e'.children := by
  rw [← mapM_eq_ok_iff, ← children_mapChildren, fmap_eq_ok]
  constructor
  · exact fun h => ⟨sameNode_of_mapChildren h, e', h, rfl⟩
  · rintro ⟨hnode, d, hd, hparts⟩
    have hdnode := sameNode_of_mapChildren hd
    rwa [(hdnode.symm.trans hnode).eq_of_children hparts] at hd

/-- Mapping the parts fails where a walk over them fails. -/
theorem mapChildren_eq_error_iff {ε : Type} {f : Expr σ → Except ε (Expr σ)} {e : Expr σ} {x : ε} :
    e.mapChildren f = .error x ↔ e.children.mapM f = .error x := by
  rw [← children_mapChildren]
  cases e.mapChildren f <;> simp [Functor.map, Except.map]

/-- `children` and `mapChildren` are one traversal. The result is the same node over the mapped
parts, in order; there is one exactly when every part can be mapped; and otherwise the error is
that of the first part that cannot. -/
theorem mapChildren_traverses {ε : Type} (f : Expr σ → Except ε (Expr σ)) (e : Expr σ) :
    (∀ e', e.mapChildren f = .ok e' ↔
      SameNode e e' ∧ List.Forall₂ (fun c c' => f c = .ok c') e.children e'.children) ∧
    ((∃ e', e.mapChildren f = .ok e') ↔ ∀ c ∈ e.children, ∃ c', f c = .ok c') ∧
    (∀ x, e.mapChildren f = .error x ↔ ∃ before c after, e.children = before ++ c :: after ∧
      (∀ b ∈ before, ∃ b', f b = .ok b') ∧ f c = .error x) ∧
    e.mapChildren (.ok : Expr σ → Except ε (Expr σ)) = .ok e := by
  refine ⟨fun e' => mapChildren_eq_ok_iff, ⟨fun h c hc => ?_, fun h => ?_⟩,
    fun x => mapChildren_eq_error_iff.trans mapM_eq_error_iff, ?_⟩
  · obtain ⟨e', he'⟩ := h
    have hparts := (mapM_eq_ok_iff _ _ _).mpr (mapChildren_eq_ok_iff.mp he').2
    obtain ⟨c', -, hc'⟩ := exists_of_mem_of_mapM hparts hc
    exact ⟨c', hc'⟩
  · obtain ⟨cs, hcs⟩ := exists_mapM_eq_ok _ h
    rw [← children_mapChildren, fmap_eq_ok] at hcs
    obtain ⟨e', he', -⟩ := hcs
    exact ⟨e', he'⟩
  · exact mapChildren_eq_ok_iff.mpr ⟨.refl e, List.forall₂_same.mpr fun _ _ => rfl⟩

end Expr

end ColumnarSql
