import Mathlib.Logic.Function.Iterate
import ColumnarSql.Proofs.PickedFrames

/-!
# Chains of frames

A path is resolved to a name by one walk outward, and read as values by another one, which also
changes the values on the way back in. Both walks stop at the innermost frame with a column that the
path matches. So a path resolves exactly if it can be read, and then it is read as the values of the
one column that it resolves to (`Scope.lookup_agrees_resolve`).
-/

set_option autoImplicit false

namespace ColumnarSql

namespace Frame

variable {f : Frame} {path : List String}

/-- The columns that a path matches. -/
def matching (f : Frame) (path : List String) : List ScopeColumn :=
  f.columns.filter (·.answers path)

/-- A column of a frame as it is read so many frames inward: in its groups, if there are any, and
otherwise as a constant if it has one row and comes from outside. -/
def readFrom (f : Frame) (c : Column) (depth : Nat) : Evaluated :=
  match f.groups with
  | some groups => .grouped depth c groups
  | none => if 0 < depth ∧ c.length = 1 then .constant (c.cell 0) c.type else .column c

theorem find_of_matching_nil (h : f.matching path = []) : f.find path = .ok none := by
  simp [find, show f.columns.filter (·.answers path) = [] from h]

theorem find_of_matching_singleton {c : ScopeColumn} (h : f.matching path = [c]) :
    f.find path = .ok (some c) := by
  simp [find, show f.columns.filter (·.answers path) = [c] from h]

theorem find_of_matching_several {c d : ScopeColumn} {cs : List ScopeColumn}
    (h : f.matching path = c :: d :: cs) :
    f.find path = .error (.ambiguousField path ((c :: d :: cs).map ScopeColumn.path)) := by
  simp [find, show f.columns.filter (·.answers path) = c :: d :: cs from h]

theorem readFrom_zero (f : Frame) (c : Column) : f.readFrom c 0 = f.read c := by
  unfold readFrom read
  cases f.groups <;> simp

/-- One frame further inward. -/
theorem inward_readFrom (f : Frame) (c : Column) (depth : Nat) :
    (f.readFrom c depth).inward = f.readFrom c (depth + 1) := by
  unfold readFrom
  cases f.groups with
  | some groups => rfl
  | none =>
    by_cases hlen : c.length = 1
    · by_cases hdepth : 0 < depth <;> simp [hdepth, hlen, Evaluated.inward]
    · simp [hlen, Evaluated.inward]

@[simp] theorem type_readFrom (f : Frame) (c : Column) (depth : Nat) :
    (f.readFrom c depth).type = c.type := by
  unfold readFrom
  cases f.groups with
  | some groups => rfl
  | none =>
    dsimp only
    split <;> rfl

/-- The values are those of the column, in all of its rows. -/
theorem cell_readFrom {c : Column} {i : Nat} (hi : i < c.length) (depth : Nat) :
    (f.readFrom c depth).cell i = c.cell i := by
  unfold readFrom
  cases f.groups with
  | some groups => rfl
  | none =>
    dsimp only
    split
    · next h =>
      obtain rfl : i = 0 := by omega
      rfl
    · rfl

/-- A column of an ungrouped frame of one row is a constant further inward. -/
theorem readFrom_of_uniform (hf : f.Uniform) {c : ScopeColumn} (hc : c ∈ f.columns)
    (hgroups : f.groups = none) (depth : Nat) :
    f.readFrom c.column depth = if 0 < depth ∧ f.numRows = 1
      then .constant (c.column.cell 0) c.column.type else .column c.column := by
  simp only [readFrom, hgroups, hf c hc]

end Frame

namespace Scope

variable {path : List String}

/-! ## The two walks -/

theorem tryResolveIn_of_silent {after : List Frame} : ∀ {before : List Frame},
    (∀ g ∈ before, g.matching path = []) →
      tryResolveIn (before ++ after) path = tryResolveIn after path
  | [], _ => rfl
  | b :: before, h => by
    obtain ⟨hb, hbefore⟩ := List.forall_mem_cons.mp h
    rw [List.cons_append, tryResolveIn, Frame.find_of_matching_nil hb]
    exact tryResolveIn_of_silent hbefore

/-- What is read outside of frames that do not match comes in through each of them. -/
theorem lookupFrom_of_silent {f : Frame} {after : List Frame} :
    ∀ {before : List Frame} {b : Frame}, b.matching path = [] →
      (∀ g ∈ before, g.matching path = []) →
        lookupFrom b (before ++ f :: after) path =
          (lookupFrom f after path).map (Evaluated.inward^[before.length + 1])
  | [], b, hb, _ => by
    rw [List.nil_append, lookupFrom, Frame.find_of_matching_nil hb]
    cases lookupFrom f after path <;> rfl
  | c :: before, b, hb, h => by
    obtain ⟨hc, hbefore⟩ := List.forall_mem_cons.mp h
    rw [List.cons_append, lookupFrom, Frame.find_of_matching_nil hb]
    change (lookupFrom c (before ++ f :: after) path).map Evaluated.inward = _
    rw [lookupFrom_of_silent hc hbefore]
    cases lookupFrom f after path <;>
      simp [Except.map, Function.iterate_succ_apply']

theorem lookup_of_split {s : Scope} {before after : List Frame} {f : Frame}
    (hs : s.frames = before ++ f :: after) (h : ∀ g ∈ before, g.matching path = []) :
    s.lookup path = (lookupFrom f after path).map (Evaluated.inward^[before.length]) := by
  obtain ⟨frame, outer⟩ := s
  cases before with
  | nil =>
    obtain ⟨rfl, rfl⟩ := List.cons.inj hs
    cases hlookup : lookupFrom frame outer path <;> simp [lookup, hlookup, Except.map]
  | cons b before =>
    obtain ⟨rfl, rfl⟩ := List.cons.inj hs
    obtain ⟨hb, hbefore⟩ := List.forall_mem_cons.mp h
    exact lookupFrom_of_silent hb hbefore

theorem iterate_inward_read (f : Frame) (c : Column) :
    ∀ depth : Nat, Evaluated.inward^[depth] (f.read c) = f.readFrom c depth
  | 0 => (Frame.readFrom_zero f c).symm
  | depth + 1 => by
    rw [Function.iterate_succ_apply', iterate_inward_read f c depth, Frame.inward_readFrom]

/-! ## What decides -/

section Decides

variable {s : Scope} {before after : List Frame} {f : Frame}

/-- The one match in the innermost frame that has any is resolved and read. -/
theorem decided_by_match (hs : s.frames = before ++ f :: after)
    (h : ∀ g ∈ before, g.matching path = []) {c : ScopeColumn} (hf : f.matching path = [c]) :
    s.resolve path = .ok c.path ∧ s.lookup path = .ok (f.readFrom c.column before.length) := by
  have hfind := Frame.find_of_matching_singleton hf
  constructor
  · rw [resolve, tryResolve, hs, tryResolveIn_of_silent h, tryResolveIn, hfind]
    rfl
  · rw [lookup_of_split hs h, lookupFrom_of_find after hfind, Except.map, iterate_inward_read]

/-- Several matches there are an error, whatever the frames further out hold. -/
theorem decided_by_ambiguity (hs : s.frames = before ++ f :: after)
    (h : ∀ g ∈ before, g.matching path = []) {c d : ScopeColumn} {cs : List ScopeColumn}
    (hf : f.matching path = c :: d :: cs) :
    s.resolve path = .error (.ambiguousField path ((c :: d :: cs).map ScopeColumn.path)) ∧
      s.lookup path = .error (.ambiguousField path ((c :: d :: cs).map ScopeColumn.path)) := by
  have hfind := Frame.find_of_matching_several hf
  constructor
  · rw [resolve, tryResolve, hs, tryResolveIn_of_silent h, tryResolveIn, hfind]
    rfl
  · rw [lookup_of_split hs h]
    cases after <;> rw [lookupFrom, hfind] <;> rfl

/-- A path that matches nowhere is unknown. The errors list the columns of the innermost frame and
of the outermost one. -/
theorem undecided (hs : s.frames = before ++ [f]) (h : ∀ g ∈ before, g.matching path = [])
    (hf : f.matching path = []) :
    s.resolve path = .error (s.frame.missing path) ∧
      s.lookup path = .error (f.missing path) := by
  have hfind := Frame.find_of_matching_nil hf
  constructor
  · rw [resolve, tryResolve, hs, tryResolveIn_of_silent h, tryResolveIn, hfind]
    rfl
  · rw [lookup_of_split hs h, lookupFrom, hfind]
    rfl

end Decides

/-- Either some frame is the innermost one with a match, or no frame has one. -/
theorem exists_split (s : Scope) (path : List String) :
    ∃ before f after, s.frames = before ++ f :: after ∧ (∀ g ∈ before, g.matching path = []) ∧
      (f.matching path = [] → after = []) := by
  cases hfirst : s.frames.find? fun g => !(g.matching path).isEmpty with
  | some f =>
    obtain ⟨hf, before, after, hs, hbefore⟩ := List.find?_eq_some_iff_append.mp hfirst
    refine ⟨before, f, after, hs, fun g hg => by simpa using hbefore g hg, fun hnone => ?_⟩
    simp [hnone] at hf
  | none =>
    have hframes : s.frames ≠ [] := List.cons_ne_nil _ _
    refine ⟨s.frames.dropLast, s.frames.getLast hframes, [],
      (List.dropLast_append_getLast hframes).symm, fun g hg => ?_, fun _ => rfl⟩
    simpa using List.find?_eq_none.mp hfirst g (List.dropLast_subset _ hg)

theorem lookup_ok_iff_resolve_ok (s : Scope) (path : List String) :
    (∃ a, s.lookup path = .ok a) ↔ ∃ p, s.resolve path = .ok p := by
  obtain ⟨before, f, after, hs, hbefore, hlast⟩ := exists_split s path
  rcases hf : f.matching path with _ | ⟨c, _ | ⟨d, cs⟩⟩
  · obtain rfl := hlast hf
    obtain ⟨hresolve, hlookup⟩ := undecided hs hbefore hf
    simp [hresolve, hlookup]
  · obtain ⟨hresolve, hlookup⟩ := decided_by_match hs hbefore hf
    simp [hresolve, hlookup]
  · obtain ⟨hresolve, hlookup⟩ := decided_by_ambiguity hs hbefore hf
    simp [hresolve, hlookup]

/-- Reading and resolving a path succeed together. The innermost frame with a match decides on
both: with one match they give its values, read from the depth of the frame, and its path; with
several they fail. -/
theorem lookup_agrees_resolve (s : Scope) (path : List String) :
    ((∃ a, s.lookup path = .ok a) ↔ ∃ p, s.resolve path = .ok p) ∧
      ∀ (before : List Frame) (f : Frame) (after : List Frame), s.frames = before ++ f :: after →
        (∀ g ∈ before, g.matching path = []) →
          match f.matching path with
          | [] => after = [] → s.resolve path = .error (s.frame.missing path) ∧
              s.lookup path = .error (f.missing path)
          | [c] => s.resolve path = .ok c.path ∧
              s.lookup path = .ok (f.readFrom c.column before.length)
          | cs => s.resolve path = .error (.ambiguousField path (cs.map ScopeColumn.path)) ∧
              s.lookup path = .error (.ambiguousField path (cs.map ScopeColumn.path)) := by
  refine ⟨lookup_ok_iff_resolve_ok s path, fun before f after hs h => ?_⟩
  rcases hf : f.matching path with _ | ⟨c, _ | ⟨d, cs⟩⟩
  · rintro rfl
    exact undecided hs h hf
  · exact decided_by_match hs h hf
  · exact decided_by_ambiguity hs h hf

/-- Two rows in a group, inside one row without groups, inside a frame where a name has two
columns. -/
def chain : Scope where
  frame := ⟨[⟨some "t", "a", ⟨[.integer 1, .integer 2], some .integer⟩⟩], 2, [],
    some [[0, 1]], false⟩
  outer := [⟨[⟨some "u", "b", ⟨[.string "x"], some .string⟩⟩], 1, [], none, false⟩,
    ⟨[⟨some "v", "b", ⟨[], none⟩⟩, ⟨some "w", "b", ⟨[], none⟩⟩], 0, [], none, false⟩]

/-- The name is read from the one row, as a constant. -/
theorem lookup_agrees_resolve_chain :
    let inner := chain.frame
    let row : Frame := ⟨[⟨some "u", "b", ⟨[.string "x"], some .string⟩⟩], 1, [], none, false⟩
    let outermost : Frame :=
      ⟨[⟨some "v", "b", ⟨[], none⟩⟩, ⟨some "w", "b", ⟨[], none⟩⟩], 0, [], none, false⟩
    (chain.frames = [inner] ++ row :: [outermost] ∧ ∀ g ∈ [inner], g.matching ["b"] = []) ∧
      chain.resolve ["b"] = .ok "u.b" ∧
      chain.lookup ["b"] = .ok (.constant (.string "x") (some .string)) := by
  intro inner row outermost
  have hframes : chain.frames = [inner] ++ row :: [outermost] := rfl
  have hinner : ∀ g ∈ [inner], g.matching ["b"] = [] := by
    intro g hg
    obtain rfl := List.mem_singleton.mp hg
    rfl
  exact ⟨⟨hframes, hinner⟩,
    (lookup_agrees_resolve chain ["b"]).2 [inner] row [outermost] hframes hinner⟩

end Scope

end ColumnarSql
