import ColumnarSql.Pattern.Like

/-!
# The texts of LIKE patterns

`Describes` says which texts a written pattern describes, character by character, and `StandsFor`
which texts a list of tokens stands for. The matcher reads a text from left to right and keeps a row
of the places it can have come to. A place is reached by the texts that the tokens before it stand
for, and the place of any text also by the texts that it has begun to take up (`LeadsTo`). The
empty text has such a row (`rowOf_pass_nil`), and one more character leads to the next one
(`rowOf_pass_read`). So the matcher accepts exactly the texts described (`isMatch_iff_describes`).
-/

set_option autoImplicit false

namespace ColumnarSql.Like

/-! ## The texts of tokens -/

/-- The texts that tokens stand for, one token after the other. -/
inductive StandsFor : List Token → List Char → Prop where
  | nil : StandsFor [] []
  | anyText {ts : List Token} {s : List Char} (skipped : List Char) (h : StandsFor ts s) :
    StandsFor (.anyText :: ts) (skipped ++ s)
  | anyChar {ts : List Token} {s : List Char} (c : Char) (h : StandsFor ts s) :
    StandsFor (.anyChar :: ts) (c :: s)
  | exact {ts : List Token} {s : List Char} (c : Char) (h : StandsFor ts s) :
    StandsFor (.exact c :: ts) (c :: s)

theorem standsFor_nil {s : List Char} : StandsFor [] s ↔ s = [] := by
  constructor
  · rintro ⟨⟩
    rfl
  · rintro rfl
    exact .nil

theorem standsFor_anyText {ts : List Token} {s : List Char} :
    StandsFor (.anyText :: ts) s ↔ ∃ skipped rest, s = skipped ++ rest ∧ StandsFor ts rest := by
  constructor
  · rintro (_ | ⟨skipped, h⟩)
    exact ⟨skipped, _, rfl, h⟩
  · rintro ⟨skipped, rest, rfl, h⟩
    exact .anyText skipped h

/-- Texts of tokens in two parts are texts of the parts. -/
theorem standsFor_append {us : List Token} : ∀ {ts : List Token} {s : List Char},
    StandsFor (ts ++ us) s ↔ ∃ s₁ s₂, s = s₁ ++ s₂ ∧ StandsFor ts s₁ ∧ StandsFor us s₂ := by
  intro ts s
  constructor
  · intro h
    induction ts generalizing s with
    | nil => exact ⟨[], s, rfl, .nil, h⟩
    | cons t ts ih =>
      cases h with
      | anyText skipped h =>
        obtain ⟨s₁, s₂, rfl, h₁, h₂⟩ := ih h
        exact ⟨skipped ++ s₁, s₂, by simp, .anyText skipped h₁, h₂⟩
      | anyChar c h =>
        obtain ⟨s₁, s₂, rfl, h₁, h₂⟩ := ih h
        exact ⟨c :: s₁, s₂, rfl, .anyChar c h₁, h₂⟩
      | exact c h =>
        obtain ⟨s₁, s₂, rfl, h₁, h₂⟩ := ih h
        exact ⟨c :: s₁, s₂, rfl, .exact c h₁, h₂⟩
  · rintro ⟨s₁, s₂, rfl, h₁, h₂⟩
    induction h₁ with
    | nil => exact h₂
    | anyText skipped _ ih => simpa using StandsFor.anyText skipped ih
    | anyChar c _ ih => exact .anyChar c ih
    | exact c _ ih => exact .exact c ih

theorem standsFor_concat_anyText {ts : List Token} {s : List Char} :
    StandsFor (ts ++ [.anyText]) s ↔ ∃ s₁ s₂, s = s₁ ++ s₂ ∧ StandsFor ts s₁ := by
  simp only [standsFor_append, standsFor_anyText, standsFor_nil]
  constructor
  · rintro ⟨s₁, s₂, rfl, h, -⟩
    exact ⟨s₁, s₂, rfl, h⟩
  · rintro ⟨s₁, s₂, rfl, h⟩
    exact ⟨s₁, s₂, rfl, h, s₂, [], by simp, rfl⟩

/-- What is read with any text at the end is read on in it, or before it. -/
theorem standsFor_concat_anyText_concat {ts : List Token} {s : List Char} {c : Char} :
    StandsFor (ts ++ [.anyText]) (s ++ [c]) ↔
      StandsFor (ts ++ [.anyText]) s ∨ StandsFor ts (s ++ [c]) := by
  simp only [standsFor_concat_anyText]
  constructor
  · rintro ⟨s₁, s₂, hs, h⟩
    rcases List.eq_nil_or_concat s₂ with rfl | ⟨s₂, d, rfl⟩
    · rw [List.append_nil] at hs
      exact .inr (hs ▸ h)
    · rw [List.concat_eq_append, ← List.append_assoc] at hs
      exact .inl ⟨s₁, s₂, (List.append_inj' hs rfl).1, h⟩
  · rintro (⟨s₁, s₂, rfl, h⟩ | h)
    · exact ⟨s₁, s₂ ++ [c], by simp, h⟩
    · exact ⟨s ++ [c], [], by simp, h⟩

/-- Any token but any text stands for one character. -/
theorem standsFor_singleton {t : Token} (ht : t ≠ .anyText) {s : List Char} :
    StandsFor [t] s ↔ ∃ c, t.takes c ∧ s = [c] := by
  constructor
  · rintro (_ | ⟨_, _⟩ | ⟨c, ⟨⟩⟩ | ⟨c, ⟨⟩⟩)
    · exact absurd rfl ht
    · exact ⟨c, rfl, rfl⟩
    · exact ⟨c, by simp [Token.takes], rfl⟩
  · rintro ⟨c, hc, rfl⟩
    cases t with
    | anyText => exact absurd rfl ht
    | anyChar => exact .anyChar c .nil
    | exact d =>
      obtain rfl : d = c := by simpa [Token.takes] using hc
      exact .exact d .nil

theorem standsFor_concat_concat {ts : List Token} {t : Token} (ht : t ≠ .anyText) {s : List Char}
    {c : Char} : StandsFor (ts ++ [t]) (s ++ [c]) ↔ t.takes c ∧ StandsFor ts s := by
  simp only [standsFor_append, standsFor_singleton ht]
  constructor
  · rintro ⟨s₁, s₂, hs, h, d, hd, rfl⟩
    obtain ⟨rfl, hcd⟩ := List.append_inj' hs rfl
    obtain rfl := List.singleton_inj.mp hcd
    exact ⟨hd, h⟩
  · rintro ⟨hc, h⟩
    exact ⟨s, [c], rfl, h, c, hc, rfl⟩

theorem standsFor_concat_nil {ts : List Token} {t : Token} :
    StandsFor (ts ++ [t]) [] ↔ t = .anyText ∧ StandsFor ts [] := by
  constructor
  · intro h
    obtain ⟨s₁, s₂, hs, h₁, h₂⟩ := standsFor_append.mp h
    obtain ⟨rfl, rfl⟩ := List.append_eq_nil_iff.mp hs.symm
    refine ⟨?_, h₁⟩
    generalize hnil : ([] : List Char) = u at h₂
    cases h₂ with
    | anyText => rfl
    | anyChar | exact => cases hnil
  · rintro ⟨rfl, h⟩
    exact standsFor_concat_anyText.mpr ⟨[], [], rfl, h⟩

/-! ## Rows of reached places -/

/-- A text leads to the place after `done` and before `t`. Any text is entered there at once. -/
def LeadsTo (done : List Token) (t : Token) (s : List Char) : Prop :=
  if t = .anyText then StandsFor (done ++ [t]) s else StandsFor done s

/-- The flags of the places in and after `ts`, which follow `done`, for the text `s`. -/
inductive RowOf (s : List Char) : List Token → List Token → List Bool → Prop where
  | last {done : List Token} {b : Bool} (h : b ↔ StandsFor done s) : RowOf s done [] [b]
  | next {done ts : List Token} {t : Token} {b : Bool} {row : List Bool} (h : b ↔ LeadsTo done t s)
      (rest : RowOf s (done ++ [t]) ts row) : RowOf s done (t :: ts) (b :: row)

/-- The row of the empty text. -/
theorem rowOf_pass_nil : ∀ {done ts : List Token} {entered : Bool},
    (entered ↔ StandsFor done []) →
      RowOf [] done ts (pass entered ts (List.replicate (ts.length + 1) false))
  | done, [], entered, h => .last (by simpa [pass] using h)
  | done, t :: ts, entered, h => by
    refine .next ?_ (rowOf_pass_nil ?_)
    · by_cases ht : t = .anyText <;> simp [LeadsTo, ht, standsFor_concat_nil, h]
    · simp [standsFor_concat_nil, h, and_comm]

/-- The row of a text that is one character longer. -/
theorem rowOf_pass_read {c : Char} {s : List Char} {done ts : List Token} {row : List Bool}
    (hrow : RowOf s done ts row) : ∀ {entered came : Bool},
      (entered ∨ came ↔ StandsFor done (s ++ [c])) →
        RowOf (s ++ [c]) done ts (pass entered ts (read c came ts row)) := by
  induction hrow with
  | last h =>
    intro entered came hc
    exact .last (by simpa [pass, read, or_comm] using hc)
  | @next done ts t b row h rest ih =>
    intro entered came hc
    by_cases ht : t = .anyText
    · subst ht
      rw [LeadsTo, if_pos rfl] at h
      have hhere : came ∨ b ∨ entered ↔ StandsFor (done ++ [.anyText]) (s ++ [c]) := by
        rw [standsFor_concat_anyText_concat, ← hc, h]
        exact or_rotate
      refine .next ?_ (ih ?_)
      · simpa [LeadsTo, or_assoc] using hhere
      · rw [← hhere]
        cases b <;> simp [Token.takes]
    · rw [LeadsTo, if_neg ht] at h
      refine .next ?_ (ih ?_)
      · simpa [LeadsTo, ht, or_comm] using hc
      · simp [ht, standsFor_concat_concat, h, and_comm]

theorem rowOf_foldl {ts : List Token} : ∀ {s s' : List Char} {row : List Bool},
    RowOf s [] ts row →
      RowOf (s ++ s') [] ts (s'.foldl (fun row c => pass false ts (read c false ts row)) row)
  | s, [], row, h => by simpa using h
  | s, c :: s', row, h => by
    have hempty : ¬StandsFor [] (s ++ [c]) := by simp [standsFor_nil]
    have hread : RowOf (s ++ [c]) [] ts (pass false ts (read c false ts row)) :=
      rowOf_pass_read h (by simp [hempty])
    simpa using rowOf_foldl hread

theorem RowOf.getLastD {s : List Char} {done ts : List Token} {row : List Bool}
    (h : RowOf s done ts row) : row.getLastD false ↔ StandsFor (done ++ ts) s := by
  induction h with
  | last h => simpa using h
  | next h rest ih =>
    cases rest with
    | last _ | next _ _ => simpa using ih

/-- The matcher accepts the texts that the tokens stand for. -/
theorem accepts_iff_standsFor {ts : List Token} {s : List Char} :
    accepts ts s ↔ StandsFor ts s := by
  have hstart : RowOf [] [] ts (startRow ts) := rowOf_pass_nil (by simp [standsFor_nil])
  have hread : RowOf ([] ++ s) [] ts (reached ts s) := rowOf_foldl hstart
  simpa [accepts] using hread.getLastD

/-! ## Any text twice -/

theorem standsFor_cons_congr {t : Token} {ts us : List Token}
    (h : ∀ s, StandsFor ts s ↔ StandsFor us s) (s : List Char) :
    StandsFor (t :: ts) s ↔ StandsFor (t :: us) s := by
  rw [← List.singleton_append (l := ts), ← List.singleton_append (l := us), standsFor_append,
    standsFor_append]
  simp only [h]

theorem standsFor_anyText_anyText {ts : List Token} {s : List Char} :
    StandsFor (.anyText :: .anyText :: ts) s ↔ StandsFor (.anyText :: ts) s := by
  simp only [standsFor_anyText]
  constructor
  · rintro ⟨s₁, -, rfl, s₂, s₃, rfl, h⟩
    exact ⟨s₁ ++ s₂, s₃, by simp, h⟩
  · rintro ⟨s₁, s₂, rfl, h⟩
    exact ⟨s₁, s₂, rfl, [], s₂, rfl, h⟩

/-- Tokens stand for the same texts when any text twice in a row is taken once. -/
theorem standsFor_collapse : ∀ {ts : List Token} {s : List Char},
    StandsFor (collapse ts) s ↔ StandsFor ts s
  | [], s => .rfl
  | t :: ts, s => by
    unfold collapse
    split
    · next h =>
      obtain ⟨rfl, hhead⟩ := h
      obtain ⟨us, rfl⟩ := List.head?_eq_some_iff.mp hhead
      rw [standsFor_collapse, standsFor_anyText_anyText]
    · exact standsFor_cons_congr (fun s => standsFor_collapse) s

/-! ## Patterns -/

/-- The texts that a written pattern describes, read from left to right: `%` is any text, `_` any
one character, a backslash with a character that character, a backslash at the end itself, and
every other character itself. -/
inductive Describes : List Char → List Char → Prop where
  | nil : Describes [] []
  | percent {p s : List Char} (skipped : List Char) (h : Describes p s) :
    Describes ('%' :: p) (skipped ++ s)
  | underscore {p s : List Char} (c : Char) (h : Describes p s) : Describes ('_' :: p) (c :: s)
  | escaped {p s : List Char} (c : Char) (h : Describes p s) : Describes ('\\' :: c :: p) (c :: s)
  | backslash : Describes ['\\'] ['\\']
  | plain {p s : List Char} {c : Char} (hc : c ≠ '%' ∧ c ≠ '_' ∧ c ≠ '\\') (h : Describes p s) :
    Describes (c :: p) (c :: s)

theorem standsFor_of_describes {p s : List Char} (h : Describes p s) : StandsFor (tokens p) s := by
  induction h with
  | nil => exact .nil
  | percent skipped _ ih => simpa [tokens] using StandsFor.anyText skipped ih
  | underscore c _ ih => simpa [tokens] using StandsFor.anyChar c ih
  | escaped c _ ih => simpa [tokens] using StandsFor.exact c ih
  | backslash => simpa [tokens] using StandsFor.exact '\\' .nil
  | plain hc _ ih => simpa [tokens, hc] using StandsFor.exact _ ih

theorem describes_of_standsFor {p : List Char} : ∀ {s : List Char},
    StandsFor (tokens p) s → Describes p s := by
  fun_induction tokens p with
  | case1 =>
    intro s h
    obtain rfl := standsFor_nil.mp h
    exact .nil
  | case2 r ih =>
    intro s h
    obtain ⟨skipped, rest, rfl, hrest⟩ := standsFor_anyText.mp h
    exact .percent skipped (ih hrest)
  | case3 r ih =>
    rintro s ⟨⟩
    exact .underscore _ (ih ‹_›)
  | case4 c r ih =>
    rintro s ⟨⟩
    exact .escaped c (ih ‹_›)
  | case5 c r hpercent hunderscore hbackslash ih =>
    rintro s ⟨⟩
    next h =>
    by_cases hc : c = '\\'
    · -- nothing follows a backslash that is no escape
      subst hc
      cases r with
      | nil =>
        obtain rfl := standsFor_nil.mp h
        exact .backslash
      | cons d r => exact (hbackslash d r rfl rfl).elim
    · exact .plain ⟨hpercent, hunderscore, hc⟩ (ih h)

theorem standsFor_tokens_iff {p s : List Char} : StandsFor (tokens p) s ↔ Describes p s :=
  ⟨describes_of_standsFor, standsFor_of_describes⟩

/-- A text matches a pattern exactly if the pattern, read from left to right, describes it. The
matcher takes any text twice in a row once, which changes the texts neither of tokens nor of
patterns. -/
theorem isMatch_iff_describes :
    (∀ pattern text : String, isMatch pattern text ↔ Describes pattern.toList text.toList) ∧
    (∀ (ts : List Token) (s : List Char), accepts (collapse ts) s = accepts ts s) ∧
    ∀ p s : List Char, Describes ('%' :: '%' :: p) s ↔ Describes ('%' :: p) s := by
  refine ⟨fun pattern text => ?_, fun ts s => Bool.eq_iff_iff.mpr ?_, fun p s => ?_⟩
  · rw [isMatch, accepts_iff_standsFor, standsFor_collapse, standsFor_tokens_iff]
  · rw [accepts_iff_standsFor, accepts_iff_standsFor, standsFor_collapse]
  · rw [← standsFor_tokens_iff, ← standsFor_tokens_iff]
    exact standsFor_anyText_anyText

end ColumnarSql.Like
