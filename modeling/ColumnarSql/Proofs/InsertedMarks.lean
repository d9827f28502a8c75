import ColumnarSql.Grouping
import ColumnarSql.Proofs.Traversal

/-!
# Inserted marks

Marking is a traversal that stops at sealed nodes and at names of keys (`mark_eq`), so there is
one induction over it (`mark_induction`). It sets a mark around each name of a key outside sealed
nodes and changes nothing else (`InsertsMarks`). A mark has the text, the name and the reducing
calls of its part, and so have the marked nodes around it (`eq_of_mark`): a node is named as before,
and marking twice is marking once (`mark_mark`).
-/

set_option autoImplicit false

namespace ColumnarSql.Expr

variable {σ : Type} {isKey : List String → Except Error Bool}

/-! ## Marking as a traversal -/

/-- A constant, a subquery, a reducing call or a mark: no mark is set at it or inside it. -/
def isSealed : Expr σ → Bool
  | literal _ | .exists _ | groupedBy _ => true
  | call f _ => f.isAggregating
  | _ => false

/-- Whether a field by its path, or a selected expression by its name, is a key. -/
def namesKey (isKey : List String → Except Error Bool) : Expr σ → Except Error Bool
  | field path => isKey path
  | selector e label position => do isKey [← Selector.name ⟨e, label, position⟩]
  | _ => .ok false

/-- The marks of a list are inserted item by item. -/
theorem markAll_eq_mapM : ∀ es : List (Expr σ), markAll isKey es = es.mapM (mark isKey)
  | [] => rfl
  | e :: es => by rw [markAll, markAll_eq_mapM es, List.mapM_cons]

theorem markBranches_eq_mapM : ∀ bs : List (Expr σ × Expr σ),
    markBranches isKey bs = bs.mapM fun b => return (← b.1.mark isKey, ← b.2.mark isKey)
  | [] => rfl
  | (c, r) :: bs => by simp [markBranches, markBranches_eq_mapM bs]

theorem markKeys_eq_mapM : ∀ os : List (Expr σ × SortOrder),
    markKeys isKey os = os.mapM fun k => return (← k.1.mark isKey, k.2)
  | [] => rfl
  | (e, o) :: os => by simp [markKeys, markKeys_eq_mapM os]

/-- Sealed nodes stay as they are, names of keys are marked, and elsewhere the parts are. -/
theorem mark_eq (e : Expr σ) :
    e.mark isKey =
      if e.isSealed then .ok e
      else e.namesKey isKey >>= fun named =>
        if named then .ok (groupedBy e) else e.mapChildren (mark isKey) := by
  cases e with
  | literal l | «exists» sub | groupedBy e | field path => rfl
  | selector e label position =>
    simp only [mark, isSealed, namesKey, mapChildren, bind_assoc]
    rfl
  | call f args =>
    cases hf : f.isAggregating <;>
      simp [mark, isSealed, namesKey, mapChildren, hf, markAll_eq_mapM, bind, Except.bind]
  | _ =>
    simp [mark, isSealed, namesKey, mapChildren, markAll_eq_mapM, markBranches_eq_mapM,
      markKeys_eq_mapM, bind, Except.bind]

/-- Induction over a marked expression: sealed nodes, names of keys, and other nodes, whose parts
are marked. -/
theorem mark_induction {motive : Expr σ → Expr σ → Prop}
    (kept : ∀ e, e.isSealed → motive e e)
    (named : ∀ e, e.isSealed = false → e.namesKey isKey = .ok true → motive e (groupedBy e))
    (inside : ∀ e e', e.isSealed = false → e.namesKey isKey = .ok false → SameNode e e' →
      List.Forall₂ motive e.children e'.children → motive e e') (e : Expr σ) :
    ∀ ⦃e' : Expr σ⦄, e.mark isKey = .ok e' → motive e e' := by
  induction e using parts_induction with
  | step e ih =>
    intro e' h
    rw [mark_eq] at h
    cases hsealed : e.isSealed with
    | true =>
      rw [if_pos hsealed] at h
      obtain rfl := Except.ok.inj h
      exact kept e hsealed
    | false =>
      rw [if_neg (by simp [hsealed])] at h
      obtain ⟨key, hkey, h⟩ := bind_eq_ok.mp h
      cases key with
      | true =>
        obtain rfl := Except.ok.inj h
        exact named e hsealed hkey
      | false =>
        obtain ⟨hnode, hparts⟩ := mapChildren_eq_ok_iff.mp h
        exact inside e e' hsealed hkey hnode
          (forall₂_imp_of_mem hparts fun c hc c' _ hmark => ih c hc hmark)

/-! ## What a node gives -/

/-- Marks are erased item by item. -/
theorem eraseMarksAll_eq_map : ∀ es : List (Expr σ), eraseMarksAll es = es.map eraseMarks
  | [] => rfl
  | e :: es => by rw [eraseMarksAll, eraseMarksAll_eq_map es, List.map_cons]

/-- Erasing marks leaves the number of branches. -/
theorem length_eraseMarksBranches : ∀ bs : List (Expr σ × Expr σ),
    (eraseMarksBranches bs).length = bs.length
  | [] => rfl
  | (c, r) :: bs => by simp [eraseMarksBranches, length_eraseMarksBranches bs]

theorem branchParts_eraseMarks : ∀ bs : List (Expr σ × Expr σ),
    branchParts (eraseMarksBranches bs) = (branchParts bs).map eraseMarks
  | [] => rfl
  | (c, r) :: bs => by simp [eraseMarksBranches, branchParts, branchParts_eraseMarks bs]

theorem eraseMarksKeys_eq_map : ∀ os : List (Expr σ × SortOrder),
    eraseMarksKeys os = os.map fun k => (k.1.eraseMarks, k.2)
  | [] => rfl
  | (e, o) :: os => by rw [eraseMarksKeys, eraseMarksKeys_eq_map os, List.map_cons]

/-- Taking the marks away keeps every node that is no mark. -/
theorem sameNode_eraseMarks {e : Expr σ} (h : e.isMark = false) :
    SameNode e e.eraseMarks ∧ e.eraseMarks.children = e.children.map eraseMarks := by
  cases e with
  | groupedBy e => simp [isMark] at h
  | case bs o =>
    exact ⟨.case _ _ (length_eraseMarksBranches bs).symm,
      by simp [eraseMarks, children, branchParts_eraseMarks]⟩
  | _ =>
    refine ⟨?_, by simp [eraseMarks, children, eraseMarksAll_eq_map, eraseMarksKeys_eq_map]⟩
    constructor <;> simp [eraseMarksAll_eq_map, eraseMarksKeys_eq_map]

/-- Texts are rendered item by item. -/
theorem renderAll_eq_map : ∀ es : List (Expr σ), renderAll es = es.map render
  | [] => rfl
  | e :: es => by rw [renderAll, renderAll_eq_map es, List.map_cons]

/-- The branches of CASE are rendered alike if their parts are. -/
theorem renderBranches_congr : ∀ {bs bs' : List (Expr σ × Expr σ)},
    (branchParts bs).map render = (branchParts bs').map render →
      renderBranches bs = renderBranches bs'
  | [], [], _ => rfl
  | (c, r) :: bs, (c', r') :: bs', h => by
    simp only [branchParts, List.map_cons, List.cons.injEq] at h
    rw [renderBranches, renderBranches, h.1, h.2.1, renderBranches_congr h.2.2]
  | [], _ :: _, h => by simp [branchParts] at h
  | _ :: _, [], h => by simp [branchParts] at h

/-- So are the keys of a window. -/
theorem renderKeys_congr : ∀ {os os' : List (Expr σ × SortOrder)},
    os.map (·.2) = os'.map (·.2) → os.map (·.1.render) = os'.map (·.1.render) →
      renderKeys os = renderKeys os'
  | [], [], _, _ => rfl
  | (e, o) :: os, (e', o') :: os', horders, htexts => by
    simp only [List.map_cons, List.cons.injEq] at horders htexts
    obtain ⟨rfl, horders⟩ := horders
    cases o <;> rw [renderKeys, renderKeys, htexts.1, renderKeys_congr horders htexts.2]
  | [], _ :: _, h, _ => by simp at h
  | _ :: _, [], h, _ => by simp at h

namespace SameNode

variable {e e' : Expr σ}

/-- The text of an expression is that of its node over the texts of its parts. -/
theorem render_eq (h : SameNode e e') (hparts : e.children.map render = e'.children.map render) :
    e.render = e'.render := by
  cases h with
  | case o o' branches =>
    simp only [children, List.map_append] at hparts
    obtain ⟨hbs, ho⟩ := List.append_inj' hparts rfl
    rw [render, render, renderBranches_congr hbs, List.singleton_inj.mp ho]
  | analytic f arguments partitionBy orders =>
    simp only [children, List.map_append, List.map_map] at hparts
    obtain ⟨hargs, hkeys⟩ := List.append_inj hparts (by simp [arguments, partitionBy])
    obtain ⟨hargs, hps⟩ := List.append_inj hargs (by simp [arguments])
    rw [render, render, renderAll_eq_map, renderAll_eq_map, renderAll_eq_map, renderAll_eq_map,
      hargs, hps, renderKeys_congr orders hkeys]
  | _ => simp_all [children, render, renderAll_eq_map]

/-- Nodes that are the same but for their parts erase to the same if the parts do. -/
theorem eraseMarks_eq (h : SameNode e e')
    (hparts : e.children.map eraseMarks = e'.children.map eraseMarks) :
    e.eraseMarks = e'.eraseMarks := by
  cases hmark : e.isMark with
  | true => cases h <;> simp_all [isMark, children, eraseMarks]
  | false =>
    have hmark' : e'.isMark = false := by cases h <;> simp_all [isMark]
    obtain ⟨hnode, hchildren⟩ := sameNode_eraseMarks hmark
    obtain ⟨hnode', hchildren'⟩ := sameNode_eraseMarks hmark'
    refine ((hnode.symm.trans h).trans hnode').eq_of_children ?_
    rw [hchildren, hchildren', hparts]

/-- They contain an aggregate alike if the parts do. -/
theorem containsAggregate_eq (h : SameNode e e')
    (hparts : e.children.map containsAggregate = e'.children.map containsAggregate) :
    e.containsAggregate = e'.containsAggregate := by
  have hcall : e.isReducingCall = e'.isReducingCall := by cases h <;> rfl
  have hany : e.children.any containsAggregate = e'.children.any containsAggregate := by
    simpa [List.any_map] using congrArg (List.any · id) hparts
  rw [Expr.containsAggregate_eq, Expr.containsAggregate_eq, hcall, hany]

theorem isSealed_eq (h : SameNode e e') : e.isSealed = e'.isSealed := by
  cases h <;> rfl

/-- Their inferred names are the same if those of the parts are. -/
theorem inferredName_eq (h : SameNode e e')
    (hparts : e.children.map inferredName = e'.children.map inferredName) :
    e.inferredName = e'.inferredName := by
  cases h <;> simp_all [inferredName, children]

/-- A node with equally named parts is the same key or no key. -/
theorem namesKey_of_ok (h : SameNode e e')
    (hparts : e.children.map inferredName = e'.children.map inferredName) {named : Bool}
    (hnamed : e.namesKey isKey = .ok named) : e'.namesKey isKey = .ok named := by
  cases h with
  | selector c c' label position =>
    obtain ⟨name, hname, hkey⟩ := bind_eq_ok.mp hnamed
    have hchild : c.inferredName = c'.inferredName := by simpa [children] using hparts
    have hname' : Selector.name ⟨c', label, position⟩ = .ok name := by
      cases label <;> cases position <;> simp_all [Selector.name]
    exact bind_eq_ok.mpr ⟨name, hname', hkey⟩
  | _ => exact hnamed

end SameNode

/-! ## Marks around names of keys -/

/-- A field whose path, or a selected expression whose name, resolves to one of the paths. -/
inductive NamesOneOf (s : Scope) (paths : List String) : Expr σ → Prop where
  | field {path : List String} {p : String} (resolved : s.tryResolve path = .ok (some p))
      (key : p ∈ paths) : NamesOneOf s paths (field path)
  | selector {e : Expr σ} {label : Option String} {position : Option Nat} {name p : String}
      (named : Selector.name ⟨e, label, position⟩ = .ok name)
      (resolved : s.tryResolve [name] = .ok (some p)) (key : p ∈ paths) :
      NamesOneOf s paths (selector e label position)

/-- The second expression is the first one with a mark around each outermost part with the
property `p` that is neither sealed nor inside a sealed node. Nothing else is changed. -/
inductive InsertsMarks (p : Expr σ → Prop) : Expr σ → Expr σ → Prop where
  | kept {e : Expr σ} (isSealed : e.isSealed) : InsertsMarks p e e
  | marked {e : Expr σ} (isOpen : e.isSealed = false) (named : p e) :
      InsertsMarks p e (groupedBy e)
  | inside {e e' : Expr σ} (isOpen : e.isSealed = false) (unnamed : ¬p e) (node : SameNode e e')
      (parts : List.Forall₂ (InsertsMarks p) e.children e'.children) : InsertsMarks p e e'

/-- What a path resolves to decides whether it is a key. -/
theorem isKey_eq_ok_iff {s : Scope} {paths path : List String} {key : Bool} :
    Grouping.isKey s paths path = .ok key ↔
      ∃ p?, s.tryResolve path = .ok p? ∧ p?.any paths.contains = key := by
  rw [Grouping.isKey, bind_eq_ok]
  refine exists_congr fun p? => and_congr_right fun _ => ?_
  cases p? <;> simp

/-- The test of the code is the one stated here. -/
theorem namesKey_iff {s : Scope} {paths : List String} {e : Expr σ} {named : Bool}
    (h : e.namesKey (Grouping.isKey s paths) = .ok named) :
    NamesOneOf s paths e ↔ named = true := by
  cases e with
  | field path =>
    obtain ⟨p?, hp, rfl⟩ := isKey_eq_ok_iff.mp h
    constructor
    · rintro ⟨resolved, key⟩
      obtain rfl := Except.ok.inj (hp.symm.trans resolved)
      simpa using key
    · intro hany
      cases p? with
      | none => simp at hany
      | some p => exact .field hp (by simpa using hany)
  | selector e label position =>
    obtain ⟨name, hname, hkey⟩ := bind_eq_ok.mp h
    obtain ⟨p?, hp, rfl⟩ := isKey_eq_ok_iff.mp hkey
    constructor
    · rintro (_ | ⟨hname', resolved, key⟩)
      obtain rfl := Except.ok.inj (hname.symm.trans hname')
      obtain rfl := Except.ok.inj (hp.symm.trans resolved)
      simpa using key
    · intro hany
      cases p? with
      | none => simp at hany
      | some p => exact .selector hname hp (by simpa using hany)
  | _ =>
    obtain rfl := Except.ok.inj h
    exact ⟨nofun, nofun⟩

/-- What a mark has from its part, and every other node from its parts, marking keeps. -/
theorem eq_of_mark {α : Type} {F : Expr σ → α} (hmark : ∀ e, F (groupedBy e) = F e)
    (hnode : ∀ {e e' : Expr σ}, SameNode e e' → e.children.map F = e'.children.map F → F e = F e')
    {e e' : Expr σ} (h : e.mark isKey = .ok e') : F e' = F e := by
  have heq := mark_induction (motive := fun e e' => F e = F e') (fun _ _ => rfl)
    (fun e _ _ => (hmark e).symm)
    (fun _ _ _ _ node parts => hnode node (map_eq_map_of_forall₂ parts)) e h
  exact heq.symm

theorem insertsMarks_of_mark {s : Scope} {paths : List String} {e e' : Expr σ}
    (h : e.mark (Grouping.isKey s paths) = .ok e') : InsertsMarks (NamesOneOf s paths) e e' :=
  mark_induction (fun _ isSealed => .kept isSealed)
    (fun _ isOpen named => .marked isOpen ((namesKey_iff named).mpr rfl))
    (fun _ _ isOpen unnamed node parts =>
      .inside isOpen (fun h => Bool.false_ne_true ((namesKey_iff unnamed).mp h)) node parts) e h

/-- Marks are sealed, and marked parts give their node the name that it had: so the second time
no part is a key that was none the first time. -/
theorem mark_mark {e e' : Expr σ} (h : e.mark isKey = .ok e') : e'.mark isKey = .ok e' := by
  refine (mark_induction
    (motive := fun e e' => e.inferredName = e'.inferredName ∧ e'.mark isKey = .ok e')
    (fun e isSealed => ⟨rfl, ?_⟩) (fun e _ _ => ⟨rfl, rfl⟩)
    (fun e e' isOpen unnamed node parts => ?_) e h).2
  · rw [mark_eq, if_pos isSealed]
  · have hnames : e.children.map inferredName = e'.children.map inferredName :=
      map_eq_map_of_forall₂ (parts.imp fun _ _ hc => hc.1)
    have hmarked : ∀ c ∈ e'.children, c.mark isKey = .ok c := by
      intro c hc
      obtain ⟨i, hi, rfl⟩ := List.getElem_of_mem hc
      exact (parts.get (parts.length_eq ▸ hi) hi).2
    have hopen : ¬e'.isSealed := by simp [← node.isSealed_eq, isOpen]
    refine ⟨node.inferredName_eq hnames, ?_⟩
    rw [mark_eq, if_neg hopen, node.namesKey_of_ok hnames unnamed]
    exact mapChildren_eq_ok_iff.mpr ⟨.refl e', List.forall₂_same.mpr hmarked⟩

/-- Marking sets a mark around each name of a key outside constants, subqueries, reducing calls
and marks, and does nothing else: without marks the expression is the same, it has the same text
and as before it contains a reducing call or none. Marking it once more changes nothing. -/
theorem mark_inserts_marks {s : Scope} {paths : List String} {e e' : Expr σ}
    (h : e.mark (Grouping.isKey s paths) = .ok e') :
    InsertsMarks (NamesOneOf s paths) e e' ∧ e'.eraseMarks = e.eraseMarks ∧
      e'.render = e.render ∧ e'.containsAggregate = e.containsAggregate ∧
      e'.mark (Grouping.isKey s paths) = .ok e' :=
  ⟨insertsMarks_of_mark h, eq_of_mark (fun _ => rfl) SameNode.eraseMarks_eq h,
    eq_of_mark (fun _ => rfl) SameNode.render_eq h,
    eq_of_mark (fun _ => rfl) SameNode.containsAggregate_eq h, mark_mark h⟩

/-- Two integer columns `a` and `b` of a table `t`. -/
def pairScope : Scope where
  frame := ⟨[⟨some "t", "a", ⟨[.integer 1], some .integer⟩⟩,
    ⟨some "t", "b", ⟨[.integer 2], some .integer⟩⟩], 1, [], none, false⟩
  outer := []

/-- The column `t.a` under the name `b` and under its own name, the sum of it, and `b`. -/
def fourParts : Expr Plan :=
  struct none [selector (field ["t", "a"]) (some "b") (some 1),
    selector (field ["t", "a"]) none (some 2), call .sum [field ["a"]], field ["b"]]

/-- Marked for the key `t.a`: inside the first selected expression, around the second one, and
not in the sum. -/
def fourPartsMarked : Expr Plan :=
  struct none [selector (groupedBy (field ["t", "a"])) (some "b") (some 1),
    groupedBy (selector (field ["t", "a"]) none (some 2)), call .sum [field ["a"]], field ["b"]]

theorem mark_inserts_marks_fourParts :
    fourParts.mark (Grouping.isKey pairScope ["t.a"]) = .ok fourPartsMarked ∧
      InsertsMarks (NamesOneOf pairScope ["t.a"]) fourParts fourPartsMarked ∧
      fourPartsMarked.mark (Grouping.isKey pairScope ["t.a"]) = .ok fourPartsMarked := by
  have hmark : fourParts.mark (Grouping.isKey pairScope ["t.a"]) = .ok fourPartsMarked := rfl
  obtain ⟨hinserted, -, -, -, htwice⟩ := mark_inserts_marks hmark
  exact ⟨hmark, hinserted, htwice⟩

end ColumnarSql.Expr
