import ColumnarSql.Proofs.AddedField
import ColumnarSql.Proofs.EvaluationTypes
import ColumnarSql.Proofs.HavingScope
import ColumnarSql.Proofs.RowByRow

/-!
# Further enclosing frames

Names are searched from the innermost frame outward, so frames further out are asked only for
what nothing nearer answers. An expression that a scope evaluates is evaluated the same way
when the scope is put inside more frames (`eval_inside`), if its subqueries are, and if
reducing calls find their groups in the scope itself. Marks are set where they were
(`mark_inside`), if no name of a selected expression is first a key further out.
-/

set_option autoImplicit false

namespace ColumnarSql

/-! ## Scopes inside more frames -/

/-- Whether reducing calls are passed on to the enclosing frame. -/
def Frame.passesOn (f : Frame) : Bool := f.groups.isNone && f.inheritsGroups

namespace Scope

variable {s : Scope} {outer : List Frame} {path : List String}

/-- The scope with more frames around it. -/
def inside (s : Scope) (outer : List Frame) : Scope := ⟨s.frame, s.outer ++ outer⟩

/-- Reducing calls find their frame in the scope. -/
def Anchored (s : Scope) : Prop := s.reducing.frame.passesOn = false

/-- A frame that passes nothing on is the one that reducing calls find. -/
theorem reducing_eq_self (h : s.frame.passesOn = false) : s.reducing = s := by
  obtain ⟨f, outer⟩ := s
  cases outer with
  | nil => rfl
  | cons g gs =>
    rw [reducing, reducingFrom]
    exact if_neg (by simpa [Frame.passesOn] using h)

/-- A frame that passes nothing on anchors its scope. -/
theorem anchored_of_frame (h : s.frame.passesOn = false) : s.Anchored := by
  rwa [Anchored, reducing_eq_self h]

/-- The frame that reduces is found before any frames further out. -/
theorem reducingFrom_append : ∀ {f : Frame} {inner : List Frame},
    (reducingFrom f inner).frame.passesOn = false →
      reducingFrom f (inner ++ outer) = (reducingFrom f inner).inside outer
  | f, [], h => by
    cases outer with
    | nil => rfl
    | cons g gs =>
      rw [List.nil_append, reducingFrom]
      exact if_neg (by simpa [Frame.passesOn, reducingFrom] using h)
  | f, g :: gs, h => by
    rw [List.cons_append, reducingFrom, reducingFrom]
    rw [reducingFrom] at h
    split at h
    · next hpass =>
      rw [if_pos hpass, if_pos hpass]
      exact reducingFrom_append h
    · next hpass =>
      rw [if_neg hpass, if_neg hpass]
      rfl

/-- An anchored scope reduces in the same frame inside any others. -/
theorem Anchored.reducing_inside (h : s.Anchored) :
    (s.inside outer).reducing = s.reducing.inside outer :=
  reducingFrom_append h

theorem Anchored.reducing (h : s.Anchored) : s.reducing.Anchored := anchored_of_frame h

/-- What a scope reads it reads inside more frames. -/
theorem lookupFrom_append : ∀ {f : Frame} {inner : List Frame} {a : Evaluated},
    lookupFrom f inner path = .ok a → lookupFrom f (inner ++ outer) path = .ok a
  | f, inner, a, h => by
    obtain ⟨c?, hc⟩ := find_of_lookupFrom h
    cases c? with
    | some c =>
      rw [lookupFrom_of_find _ hc] at h ⊢
      exact h
    | none =>
      cases inner with
      | nil => simp [lookupFrom, hc] at h
      | cons g gs =>
        obtain ⟨b, hb, rfl⟩ := (lookupFrom_cons_of_not_found hc).mp h
        exact (lookupFrom_cons_of_not_found hc).mpr ⟨b, lookupFrom_append hb, rfl⟩

/-- A path is resolved by the nearer frames, or by the further ones. -/
theorem tryResolveIn_append (fs : List Frame) :
    tryResolveIn (fs ++ outer) path =
      (tryResolveIn fs path).bind fun p? => p?.elim (tryResolveIn outer path) (.ok ∘ some) := by
  induction fs with
  | nil => rfl
  | cons f fs ih =>
    rw [List.cons_append, tryResolveIn, tryResolveIn]
    rcases f.find path with _ | _ | c
    · rfl
    · exact ih
    · rfl

/-- A path that is not resolved in a scope is resolved in the frames around it. -/
theorem tryResolve_inside (s : Scope) (outer : List Frame) (path : List String) :
    (s.inside outer).tryResolve path =
      (s.tryResolve path).bind fun p? => p?.elim (tryResolveIn outer path) (.ok ∘ some) :=
  tryResolveIn_append s.frames

/-- What is not resolved in a scope is resolved by the frames around it alone. -/
theorem tryResolve_inside_of_none (h : s.tryResolve path = .ok none) :
    (s.inside outer).tryResolve path = tryResolveIn outer path := by
  rw [tryResolve_inside, h]
  rfl

/-- What is resolved in a scope is resolved so inside any frames. -/
theorem tryResolve_inside_of_ne_none (h : s.tryResolve path ≠ .ok none) :
    (s.inside outer).tryResolve path = s.tryResolve path := by
  rw [tryResolve_inside]
  rcases hresolve : s.tryResolve path with _ | _ | _
  · rfl
  · exact absurd hresolve h
  · rfl

/-- Frames that resolve a path, if at all, to none of the keys. -/
def Avoids (fs : List Frame) (isKey : String → Prop) (path : List String) : Prop :=
  ∃ p?, tryResolveIn fs path = .ok p? ∧ ∀ p, p? = some p → ¬isKey p

/-- What is looked up is resolved. -/
theorem tryResolve_of_lookup {a : Evaluated} (h : s.lookup path = .ok a) :
    s.tryResolve path ≠ .ok none :=
  Frame.resolved_of_lookupFrom h

end Scope

/-! ## Evaluation -/

/-- A plan that gives inside more frames the table it gives without them. -/
def Plan.StableIn (outer : List Frame) (plan : Plan) : Prop :=
  ∀ ⦃inner : List Frame⦄ ⦃t : Table⦄, plan inner = .ok t → plan (inner ++ outer) = .ok t

/-- A stable subquery has the same EXISTS inside the frames. -/
theorem Plan.StableIn.existsRows {outer : List Frame} {plan : Plan} (h : plan.StableIn outer)
    {s : Scope} {a : Evaluated} (ha : plan.existsRows s = .ok a) :
    plan.existsRows (s.inside outer) = .ok a := by
  obtain ⟨vs, ⟨hlen, hvs⟩, rfl⟩ := Plan.existsRows_eq_ok.mp ha
  refine Plan.existsRows_eq_ok.mpr ⟨vs, ⟨hlen, fun i hi => ?_⟩, rfl⟩
  obtain ⟨t, ht, hv⟩ := bind_eq_ok.mp (hvs i hi)
  exact bind_eq_ok.mpr ⟨t, h ht, hv⟩

namespace Expr

variable {now : Moment} {s s' : Scope} {outer : List Frame}

/-- An expression whose subqueries give inside more frames what they give without them. -/
def StableIn (outer : List Frame) (e : Expr Plan) : Prop :=
  e.Every fun d => ∀ plan, d = .exists plan → plan.StableIn outer

/-- What a scope gives an expression, the other one gives it too. -/
def Carries (now : Moment) (s s' : Scope) (e : Expr Plan) : Prop :=
  ∀ ⦃a : Evaluated⦄, e.eval now s = .ok a → e.eval now s' = .ok a

/-- A list of expressions is carried over if its members are. -/
theorem evalAll_of_carries : ∀ {es : List (Expr Plan)} {as : List Evaluated},
    (∀ e ∈ es, Carries now s s' e) → evalAll now es s = .ok as → evalAll now es s' = .ok as := by
  intro es as hes h
  rw [evalAll_eq_ok_iff] at h ⊢
  exact forall₂_imp_of_mem h fun e he a _ ha => hes e he ha

theorem windowInput_of_carries {whole e : Expr Plan} {c : Column}
    (hrows : s'.frame.numRows = s.frame.numRows) (he : Carries now s s' e)
    (h : windowInput now whole e s = .ok c) : windowInput now whole e s' = .ok c := by
  obtain ⟨a, ha, hc⟩ := windowInput_eq_ok_iff.mp h
  exact windowInput_eq_ok_iff.mpr ⟨a, he ha, hrows ▸ hc⟩

/-- The columns of a window are carried over if their expressions are. -/
theorem evalColumns_of_carries {whole : Expr Plan} (hrows : s'.frame.numRows = s.frame.numRows)
    {es : List (Expr Plan)} {cs : List Column} (hes : ∀ e ∈ es, Carries now s s' e)
    (h : evalColumns now whole es s = .ok cs) : evalColumns now whole es s' = .ok cs := by
  rw [evalColumns_eq_mapM, mapM_eq_ok_iff] at h ⊢
  exact forall₂_imp_of_mem h fun e he c _ hc => windowInput_of_carries hrows (hes e he) hc

/-- The keys of a window are carried over if their expressions are. -/
theorem evalKeys_of_carries {whole : Expr Plan} (hrows : s'.frame.numRows = s.frame.numRows)
    {ks : List (Expr Plan × SortOrder)} {cs : List (Column × SortOrder)}
    (hks : ∀ k ∈ ks, Carries now s s' k.1) (h : evalKeys now whole ks s = .ok cs) :
    evalKeys now whole ks s' = .ok cs := by
  rw [evalKeys_eq_mapM, mapM_eq_ok_iff] at h ⊢
  refine forall₂_imp_of_mem h fun k hk c _ hc => ?_
  obtain ⟨d, hd, hc⟩ := bind_eq_ok.mp hc
  exact bind_eq_ok.mpr ⟨d, windowInput_of_carries hrows (hks k hk) hd, hc⟩

/-- An operation is carried over if its parts are. -/
theorem carries_operation {e : Expr Plan} (he : e.isOperation)
    (h : ∀ c ∈ e.children, Carries now s s' c) : Carries now s s' e := by
  intro a ha
  obtain ⟨args, hargs, k, hk, hmap⟩ := (eval_operation_eq_ok he).mp ha
  exact (eval_operation_eq_ok he).mpr ⟨args, evalAll_of_carries h hargs, k, hk, hmap⟩

/-- A window call is carried over if its parts are and the rows are as many. -/
theorem carries_analytic {f : SqlFunction} {args ps : List (Expr Plan)}
    {os : List (Expr Plan × SortOrder)} (hrows : s'.frame.numRows = s.frame.numRows)
    (h : ∀ c ∈ (analytic f args ps os).children, Carries now s s' c) :
    Carries now s s' (analytic f args ps os) := by
  simp only [children, List.forall_mem_append, List.forall_mem_map] at h
  obtain ⟨⟨hargs, hps⟩, hos⟩ := h
  intro a ha
  simp only [eval, bind_eq_ok, pure_eq_ok, hrows] at ha ⊢
  obtain ⟨u, hu, columns, hcolumns, partitionBy, hpartition, orderBy, horder, ha⟩ := ha
  exact ⟨u, hu, columns, evalColumns_of_carries hrows hargs hcolumns, partitionBy,
    evalColumns_of_carries hrows hps hpartition, orderBy, evalKeys_of_carries hrows hos horder, ha⟩

/-- A reducing call is carried over if it reduces in the same frame. -/
theorem carries_reducing {f : SqlFunction} {args : List (Expr Plan)} (hf : f.isAggregating)
    (hframe : s'.reducing.frame = s.reducing.frame)
    (h : ∀ c ∈ args, Carries now s.reducing s'.reducing c) : Carries now s s' (call f args) := by
  intro a ha
  simp only [eval, hf, if_true, bind_eq_ok, hframe] at ha ⊢
  obtain ⟨u, hu, b, hb, ha⟩ := ha
  refine ⟨u, hu, b, ?_, ha⟩
  cases args with
  | nil => exact hb
  | cons e es => exact h e List.mem_cons_self hb

/-- What a scope gives an expression it gives inside more frames. -/
theorem eval_inside {e : Expr Plan} (he : e.StableIn outer) :
    ∀ {s : Scope}, s.Anchored → Carries now s (s.inside outer) e := by
  induction he with
  | @intro e self _ ih =>
    intro s hs
    by_cases hop : e.isOperation
    · exact carries_operation hop fun c hc => ih c hc hs
    · cases e with
      | literal l => exact fun a ha => ha
      | field path => exact fun a ha => Scope.lookupFrom_append ha
      | «exists» plan => exact fun a ha => (self plan rfl).existsRows ha
      | selector e label position => exact ih e (by simp [children]) hs
      | groupedBy e =>
        intro a ha
        obtain ⟨b, hb, ha⟩ := bind_eq_ok.mp ha
        exact bind_eq_ok.mpr ⟨b, ih e (by simp [children]) hs hb, ha⟩
      | call f args =>
        have hf : f.isAggregating = true := by simpa [isOperation] using hop
        have hreducing : (s.inside outer).reducing = s.reducing.inside outer := hs.reducing_inside
        refine carries_reducing hf (by rw [hreducing]; rfl) fun c hc => ?_
        rw [hreducing]
        exact ih c hc hs.reducing
      | analytic f args ps os => exact carries_analytic rfl fun c hc => ih c hc hs
      | _ => exact absurd rfl hop

/-! ## Marks -/

/-- Expressions that give columns are evaluated. -/
theorem evaluated_of_evalColumns {whole : Expr Plan} {es : List (Expr Plan)} {cs : List Column}
    (h : evalColumns now whole es s = .ok cs) : ∀ e ∈ es, ∃ a, e.eval now s = .ok a := by
  intro e he
  rw [evalColumns_eq_mapM] at h
  obtain ⟨c, -, hc⟩ := exists_of_mem_of_mapM h he
  obtain ⟨a, ha, -⟩ := windowInput_eq_ok_iff.mp hc
  exact ⟨a, ha⟩

theorem evaluated_of_evalKeys {whole : Expr Plan} {ks : List (Expr Plan × SortOrder)}
    {cs : List (Column × SortOrder)} (h : evalKeys now whole ks s = .ok cs) :
    ∀ k ∈ ks, ∃ a, k.1.eval now s = .ok a := by
  intro k hk
  rw [evalKeys_eq_mapM] at h
  obtain ⟨c, -, hc⟩ := exists_of_mem_of_mapM h hk
  obtain ⟨d, hd, -⟩ := bind_eq_ok.mp hc
  obtain ⟨a, ha, -⟩ := windowInput_eq_ok_iff.mp hd
  exact ⟨a, ha⟩

/-- Operations and window calls evaluate all of their parts. -/
theorem evaluated_parts {e : Expr Plan} (he : e.isOperation ∨ e.isWindowCall) {a : Evaluated}
    (h : e.eval now s = .ok a) : ∀ c ∈ e.children, ∃ b, c.eval now s = .ok b := by
  rcases he with he | he
  · obtain ⟨args, hargs, -⟩ := (eval_operation_eq_ok he).mp h
    intro c hc
    obtain ⟨b, -, hb⟩ := exists_eval_of_evalAll hargs hc
    exact ⟨b, hb⟩
  · cases e with
    | analytic f args ps os =>
      simp only [eval, bind_eq_ok] at h
      obtain ⟨-, -, columns, hcolumns, partitionBy, hpartition, orderBy, horder, -⟩ := h
      simp only [children, List.forall_mem_append, List.forall_mem_map]
      exact ⟨⟨evaluated_of_evalColumns hcolumns, evaluated_of_evalColumns hpartition⟩,
        evaluated_of_evalKeys horder⟩
    | _ => simp [isWindowCall] at he

section Marks

variable {isKey isKey' : List String → Except Error Bool}

theorem markKeys_congr : ∀ {ks : List (Expr Plan × SortOrder)},
    (∀ e ∈ ks.map (·.1), e.mark isKey = e.mark isKey') → markKeys isKey ks = markKeys isKey' ks
  | [], _ => rfl
  | (e, o) :: ks, h => by
    simp only [List.map_cons, List.forall_mem_cons] at h
    rw [markKeys, markKeys, h.1, markKeys_congr h.2]

/-- A window call is marked the same way if its parts are. -/
theorem mark_analytic_congr {f : SqlFunction} {args ps : List (Expr Plan)}
    {os : List (Expr Plan × SortOrder)}
    (h : ∀ c ∈ (analytic f args ps os).children, c.mark isKey = c.mark isKey') :
    (analytic f args ps os).mark isKey = (analytic f args ps os).mark isKey' := by
  simp only [children, List.forall_mem_append] at h
  rw [mark, mark, markAll_congr h.1.1, markAll_congr h.1.2, markKeys_congr h.2]

/-- A selector that is no key by its name is marked inside. -/
theorem mark_selector {x : Expr Plan} {label : Option String} {position : Option Nat}
    {name : String} {key : Bool} (hname : Selector.name ⟨x, label, position⟩ = .ok name)
    (hkey : isKey [name] = .ok key) :
    (selector x label position).mark isKey =
      if key then .ok (groupedBy (selector x label position))
      else (x.mark isKey).map fun x' => selector x' label position := by
  simp only [mark, hname]
  change (isKey [name] >>= _) = _
  rw [hkey]
  cases key <;> rfl

/-- The parts of a marked window call are the marked parts. -/
theorem mark_analytic {f : SqlFunction} {args ps : List (Expr Plan)}
    {os : List (Expr Plan × SortOrder)} {m : Expr Plan}
    (h : (analytic f args ps os).mark isKey = .ok m) :
    m.isWindowCall ∧ List.Forall₂ (Marks isKey) (analytic f args ps os).children m.children := by
  simp only [mark, bind_eq_ok, pure_eq_ok] at h
  obtain ⟨args', hargs, ps', hps, os', hos, rfl⟩ := h
  exact ⟨rfl, List.rel_append (List.rel_append (forall₂_markAll hargs) (forall₂_markAll hps))
    (forall₂_markKeys hos)⟩

end Marks

/-- A property of the names of all selected parts. -/
def Named (p : String → Prop) (e : Expr Plan) : Prop :=
  e.Every fun d => ∀ x label position name, d = .selector x label position →
    Selector.name ⟨x, label, position⟩ = .ok name → p name

/-- Weaker conditions on names are met too. -/
theorem Named.mono {p q : String → Prop} (hpq : ∀ name, p name → q name) {e : Expr Plan}
    (h : e.Named p) : e.Named q :=
  Every.mono (fun _ hd x label position name hx hname =>
    hpq name (hd x label position name hx hname)) h

/-- A key inside more frames is a key without them, and no path is a key only there, if the
frames further out resolve what the scope does not to no key. -/
theorem isKey_inside {paths path : List String}
    (h : s.tryResolve path = .ok none → Scope.Avoids outer (· ∈ paths) path) :
    Grouping.isKey (s.inside outer) paths path = Grouping.isKey s paths path := by
  by_cases hnone : s.tryResolve path = .ok none
  · obtain ⟨p?, hp, havoids⟩ := h hnone
    rw [Grouping.isKey, Grouping.isKey, Scope.tryResolve_inside_of_none hnone, hnone, hp]
    cases p? with
    | none => rfl
    | some p =>
      have hfree : paths.contains p = false := by simpa using havoids p rfl
      exact congrArg Except.ok hfree
  · rw [Grouping.isKey, Grouping.isKey, Scope.tryResolve_inside_of_ne_none hnone]

/-- A path that is looked up is a key inside the frames as it is by itself. -/
theorem isKey_inside_of_lookup {paths path : List String} {a : Evaluated}
    (h : s.lookup path = .ok a) :
    Grouping.isKey (s.inside outer) paths path = Grouping.isKey s paths path :=
  isKey_inside fun hnone => absurd hnone (Scope.tryResolve_of_lookup h)

/-- An expression is marked inside more frames as it is without them, if its marked form is
evaluated. -/
theorem mark_inside {paths : List String} {e : Expr Plan}
    (he : e.Named fun name => s.tryResolve [name] = .ok none →
      Scope.Avoids outer (· ∈ paths) [name]) :
    ∀ {m : Expr Plan} {a : Evaluated}, e.mark (Grouping.isKey s paths) = .ok m →
      m.eval now s = .ok a →
        e.mark (Grouping.isKey (s.inside outer) paths) = e.mark (Grouping.isKey s paths) := by
  induction he with
  | @intro e self _ ih =>
    intro m a hm ha
    have hparts : ∀ {m : Expr Plan}, (m.isOperation ∨ m.isWindowCall) →
        m.eval now s = .ok a →
        List.Forall₂ (Marks (Grouping.isKey s paths)) e.children m.children → ∀ c ∈ e.children,
          c.mark (Grouping.isKey (s.inside outer) paths) = c.mark (Grouping.isKey s paths) := by
      intro m hm ha hmarks c hc
      obtain ⟨d, hd, hcd⟩ := exists_of_mem_of_mapM ((mapM_eq_ok_iff _ _ _).mpr hmarks) hc
      obtain ⟨b, hb⟩ := evaluated_parts hm ha d hd
      exact ih c hc hcd hb
    by_cases hop : e.isOperation
    · obtain ⟨⟨hop', -⟩, hmarks⟩ := mark_operation hop hm
      exact mark_operation_congr hop (hparts (.inl hop') ha hmarks)
    · cases e with
      | literal l | «exists» plan | groupedBy e => rfl
      | field path =>
        have hlookup : ∃ b, s.lookup path = .ok b := by
          obtain ⟨key, -, hm⟩ := bind_eq_ok.mp hm
          cases key with
          | true =>
            obtain rfl := pure_eq_ok.mp hm
            obtain ⟨b, hb, -⟩ := bind_eq_ok.mp ha
            exact ⟨b, hb⟩
          | false =>
            obtain rfl := pure_eq_ok.mp hm
            exact ⟨a, ha⟩
        obtain ⟨b, hb⟩ := hlookup
        rw [mark, mark, isKey_inside_of_lookup hb]
      | selector x label position =>
        simp only [mark, bind_eq_ok] at hm
        obtain ⟨name, hname, key, hkey, hm⟩ := hm
        have hsame : Grouping.isKey (s.inside outer) paths [name] = .ok key :=
          (isKey_inside (self x label position name rfl hname)).trans hkey
        rw [mark_selector hname hsame, mark_selector hname hkey]
        cases key with
        | true => rfl
        | false =>
          simp only [Bool.false_eq_true, if_false, bind_eq_ok, pure_eq_ok] at hm
          obtain ⟨m', hm', rfl⟩ := hm
          rw [ih x (by simp [children]) hm' ha]
      | call f args =>
        have hf : f.isAggregating = true := by simpa [isOperation] using hop
        simp [mark, hf]
      | analytic f args ps os =>
        obtain ⟨hwindow, hmarks⟩ := mark_analytic hm
        exact mark_analytic_congr (hparts (.inr hwindow) ha hmarks)
      | _ => exact absurd rfl hop

end Expr

end ColumnarSql
