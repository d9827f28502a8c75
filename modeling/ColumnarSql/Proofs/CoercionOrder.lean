import ColumnarSql.DataType.Coercion
import Mathlib.Order.Defs.Unbundled

/-!
# Coercion as a join

A type is narrower than another one when its values are accepted there with nothing
renamed: INTEGER is narrower than FLOAT, arrays compare by element and structs field by
field, and a missing name or type is narrower than every other. This is a partial order, and
the common type of two types is their join: it is above both (`narrower_common?`) and
exists, below each of their upper bounds, as soon as there is one
(`exists_common?_of_narrower`). All laws of coercion (`coerce_semilattice`) are laws of
joins in a partial order.
-/

set_option autoImplicit false

namespace ColumnarSql

/-! ## Names of fields -/

/-- A missing name is narrower than every name, and a name only than itself. -/
def NameNarrower (n m : Option String) : Prop := n = none ∨ n = m

namespace NameNarrower

theorem refl (n : Option String) : NameNarrower n n := .inr rfl

theorem trans {n m k : Option String} (h : NameNarrower n m) (h' : NameNarrower m k) :
    NameNarrower n k := by
  rcases h with rfl | rfl
  · exact .inl rfl
  · exact h'

/-- Two names that are narrower than each other are the same. -/
theorem antisymm {n m : Option String} (h : NameNarrower n m) (h' : NameNarrower m n) :
    n = m := by
  rcases h with rfl | rfl
  · rcases h' with rfl | rfl <;> rfl
  · rfl

end NameNarrower

/-- Each name is narrower than the common one. -/
theorem nameNarrower_commonName? {n m k : Option String} (h : commonName? n m = some k) :
    NameNarrower n k ∧ NameNarrower m k := by
  unfold commonName? at h
  split at h
  · split at h
    · next hab => simp_all [NameNarrower]
    · cases h
  · simp_all [NameNarrower]
  · simp_all [NameNarrower]

/-- Names under one name have a common one under it. -/
theorem exists_commonName? {n m k : Option String} (hn : NameNarrower n k)
    (hm : NameNarrower m k) : ∃ j, commonName? n m = some j ∧ NameNarrower j k := by
  rcases hn with rfl | rfl
  · exact ⟨m, rfl, hm⟩
  · rcases hm with rfl | rfl
    · cases n with
      | none => exact ⟨none, rfl, .refl _⟩
      | some a => exact ⟨some a, rfl, .refl _⟩
    · cases m with
      | none => exact ⟨none, rfl, .refl _⟩
      | some a => exact ⟨some a, by simp [commonName?], .refl _⟩

/-! ## Types -/

namespace DataType

mutual

/-- The second type takes the values of the first, names of fields included. -/
inductive Narrower : DataType → DataType → Prop where
  | same (s : ScalarType) : Narrower (.scalar s) (.scalar s)
  | number : Narrower .integer .float
  | array {a b : DataType} (h : Narrower a b) : Narrower (.array a) (.array b)
  | struct {f g : List (Field DataType)} (h : NarrowerFields f g) :
    Narrower (.struct f) (.struct g)

/-- Field by field; a field without a type is narrower than every field of that name. -/
inductive NarrowerFields : List (Field DataType) → List (Field DataType) → Prop where
  | nil : NarrowerFields [] []
  | typed {n m : Option String} {a b : DataType} {f g : List (Field DataType)}
      (name : NameNarrower n m) (h : Narrower a b) (rest : NarrowerFields f g) :
      NarrowerFields (⟨n, some a⟩ :: f) (⟨m, some b⟩ :: g)
  | untyped {n m : Option String} {t : Option DataType} {f g : List (Field DataType)}
      (name : NameNarrower n m) (rest : NarrowerFields f g) :
      NarrowerFields (⟨n, none⟩ :: f) (⟨m, t⟩ :: g)

end

mutual

/-- A type is narrower than itself. -/
theorem Narrower.refl : ∀ a : DataType, a.Narrower a
  | .scalar s => .same s
  | .array a => .array (Narrower.refl a)
  | .struct f => .struct (NarrowerFields.refl f)

theorem NarrowerFields.refl : ∀ f : List (Field DataType), NarrowerFields f f
  | [] => .nil
  | ⟨n, some a⟩ :: f => .typed (.refl n) (Narrower.refl a) (NarrowerFields.refl f)
  | ⟨n, none⟩ :: f => .untyped (.refl n) (NarrowerFields.refl f)

end

mutual

/-- Narrower types go on: the relation is transitive. -/
theorem Narrower.trans : ∀ {a b c : DataType}, a.Narrower b → b.Narrower c → a.Narrower c
  | _, _, _, .same _, h => h
  | _, _, _, .number, .same _ => .number
  | _, _, _, .array h, .array h' => .array (h.trans h')
  | _, _, _, .struct h, .struct h' => .struct (h.trans h')

theorem NarrowerFields.trans : ∀ {f g h : List (Field DataType)},
    NarrowerFields f g → NarrowerFields g h → NarrowerFields f h
  | _, _, _, .nil, .nil => .nil
  | _, _, _, .typed hn h rest, .typed hn' h' rest' =>
    .typed (hn.trans hn') (h.trans h') (rest.trans rest')
  | _, _, _, .untyped hn rest, .typed hn' _ rest' => .untyped (hn.trans hn') (rest.trans rest')
  | _, _, _, .untyped hn rest, .untyped hn' rest' => .untyped (hn.trans hn') (rest.trans rest')

end

mutual

/-- Two types that are narrower than each other are the same. -/
theorem Narrower.antisymm : ∀ {a b : DataType}, a.Narrower b → b.Narrower a → a = b
  | _, _, .same _, _ => rfl
  | _, _, .array h, .array h' => by rw [h.antisymm h']
  | _, _, .struct h, .struct h' => by rw [h.antisymm h']

theorem NarrowerFields.antisymm : ∀ {f g : List (Field DataType)},
    NarrowerFields f g → NarrowerFields g f → f = g
  | _, _, .nil, _ => rfl
  | _, _, .typed hn h rest, .typed hn' h' rest' => by
    rw [hn.antisymm hn', h.antisymm h', rest.antisymm rest']
  | _, _, .untyped hn rest, .untyped hn' rest' => by
    rw [hn.antisymm hn', rest.antisymm rest']

end

/-- Every numeric type is narrower than FLOAT. -/
theorem narrower_float {s : ScalarType} (h : s.isNumeric) : Narrower (.scalar s) .float := by
  cases s with
  | integer => exact .number
  | float => exact .same _
  | _ => simp [ScalarType.isNumeric] at h

mutual

/-- A common type is above both sides. -/
theorem narrower_common? : ∀ {a b c : DataType}, a.common? b = some c →
    a.Narrower c ∧ b.Narrower c
  | .scalar s, .scalar t, c, h => by
    unfold common? at h
    split at h
    · next hst =>
      obtain rfl := Option.some.inj h
      exact ⟨.same s, hst ▸ .same s⟩
    · split at h
      · next hnumeric =>
        obtain rfl := Option.some.inj h
        rw [Bool.and_eq_true] at hnumeric
        exact ⟨narrower_float hnumeric.1, narrower_float hnumeric.2⟩
      · cases h
  | .array a, .array b, c, h => by
    simp only [common?, Option.map_eq_some_iff] at h
    obtain ⟨d, hd, rfl⟩ := h
    obtain ⟨ha, hb⟩ := narrower_common? hd
    exact ⟨.array ha, .array hb⟩
  | .struct f, .struct g, c, h => by
    simp only [common?, Option.map_eq_some_iff] at h
    obtain ⟨d, hd, rfl⟩ := h
    obtain ⟨hf, hg⟩ := narrower_commonFields? hd
    exact ⟨.struct hf, .struct hg⟩
  | .scalar _, .array _, _, h | .scalar _, .struct _, _, h | .array _, .scalar _, _, h
  | .array _, .struct _, _, h | .struct _, .scalar _, _, h | .struct _, .array _, _, h => by
    simp [common?] at h

/-- Each list of fields is narrower than the common one. -/
theorem narrower_commonFields? : ∀ {f g h : List (Field DataType)},
    commonFields? f g = some h → NarrowerFields f h ∧ NarrowerFields g h
  | [], [], h, heq => by
    obtain rfl := Option.some.inj heq
    exact ⟨.nil, .nil⟩
  | ⟨n, some a⟩ :: f, ⟨m, some b⟩ :: g, h, heq => by
    simp only [commonFields?, Option.bind_eq_bind, Option.bind_eq_some_iff, Option.pure_def,
      Option.some.injEq] at heq
    obtain ⟨k, hk, c, hc, rest, hrest, rfl⟩ := heq
    obtain ⟨hn, hm⟩ := nameNarrower_commonName? hk
    obtain ⟨ha, hb⟩ := narrower_common? hc
    obtain ⟨hf, hg⟩ := narrower_commonFields? hrest
    exact ⟨.typed hn ha hf, .typed hm hb hg⟩
  | ⟨n, some a⟩ :: f, ⟨m, none⟩ :: g, h, heq => by
    simp only [commonFields?, Option.bind_eq_bind, Option.bind_eq_some_iff, Option.pure_def,
      Option.some.injEq] at heq
    obtain ⟨k, hk, rest, hrest, rfl⟩ := heq
    obtain ⟨hn, hm⟩ := nameNarrower_commonName? hk
    obtain ⟨hf, hg⟩ := narrower_commonFields? hrest
    exact ⟨.typed hn (.refl a) hf, .untyped hm hg⟩
  | ⟨n, none⟩ :: f, ⟨m, b⟩ :: g, h, heq => by
    simp only [commonFields?, Option.bind_eq_bind, Option.bind_eq_some_iff, Option.pure_def,
      Option.some.injEq] at heq
    obtain ⟨k, hk, rest, hrest, rfl⟩ := heq
    obtain ⟨hn, hm⟩ := nameNarrower_commonName? hk
    obtain ⟨hf, hg⟩ := narrower_commonFields? hrest
    refine ⟨.untyped hn hf, ?_⟩
    cases b with
    | none => exact .untyped hm hg
    | some b => exact .typed hm (.refl b) hg
  | [], _ :: _, _, heq | _ :: _, [], _, heq => by simp [commonFields?] at heq

end

mutual

/-- Types with an upper bound have a common type, and it is below that bound. -/
theorem exists_common?_of_narrower : ∀ {a b d : DataType}, a.Narrower d → b.Narrower d →
    ∃ c, a.common? b = some c ∧ c.Narrower d
  | _, _, _, .same s, .same _ => ⟨.scalar s, by simp [common?], .same s⟩
  | _, _, _, .same _, .number => ⟨.float, rfl, .same _⟩
  | _, _, _, .number, .same _ => ⟨.float, rfl, .same _⟩
  | _, _, _, .number, .number => ⟨.integer, rfl, .number⟩
  | _, _, _, .array ha, .array hb =>
    have ⟨c, hc, hd⟩ := exists_common?_of_narrower ha hb
    ⟨.array c, by simp [common?, hc], .array hd⟩
  | _, _, _, .struct hf, .struct hg =>
    have ⟨h, hh, hd⟩ := exists_commonFields?_of_narrower hf hg
    ⟨.struct h, by simp [common?, hh], .struct hd⟩

/-- Lists of fields under one list have a common one under it. -/
theorem exists_commonFields?_of_narrower : ∀ {f g d : List (Field DataType)},
    NarrowerFields f d → NarrowerFields g d →
    ∃ h, commonFields? f g = some h ∧ NarrowerFields h d
  | _, _, _, .nil, .nil => ⟨[], rfl, .nil⟩
  | _, _, _, .typed hn ha hf, .typed hm hb hg =>
    have ⟨k, hk, hkd⟩ := exists_commonName? hn hm
    have ⟨c, hc, hcd⟩ := exists_common?_of_narrower ha hb
    have ⟨h, hh, hd⟩ := exists_commonFields?_of_narrower hf hg
    ⟨⟨k, some c⟩ :: h, by simp [commonFields?, hk, hc, hh], .typed hkd hcd hd⟩
  | _, _, _, .typed hn ha hf, .untyped hm hg =>
    have ⟨k, hk, hkd⟩ := exists_commonName? hn hm
    have ⟨h, hh, hd⟩ := exists_commonFields?_of_narrower hf hg
    ⟨⟨k, some _⟩ :: h, by simp [commonFields?, hk, hh], .typed hkd ha hd⟩
  | _, _, _, .untyped hn hf, .typed hm hb hg =>
    have ⟨k, hk, hkd⟩ := exists_commonName? hn hm
    have ⟨h, hh, hd⟩ := exists_commonFields?_of_narrower hf hg
    ⟨⟨k, some _⟩ :: h, by simp [commonFields?, hk, hh], .typed hkd hb hd⟩
  | _, _, _, .untyped hn hf, .untyped hm hg =>
    have ⟨k, hk, hkd⟩ := exists_commonName? hn hm
    have ⟨h, hh, hd⟩ := exists_commonFields?_of_narrower hf hg
    ⟨⟨k, none⟩ :: h, by simp [commonFields?, hk, hh], .untyped hkd hd⟩

end

end DataType

/-! ## Column types -/

namespace ColumnType

/-- The order of column types; the unknown type is the least. -/
inductive Narrower : ColumnType → ColumnType → Prop where
  | unknown (t : ColumnType) : Narrower none t
  | known {a b : DataType} (h : a.Narrower b) : Narrower (some a) (some b)

/-- A column type is narrower than itself. -/
theorem Narrower.refl : ∀ t : ColumnType, Narrower t t
  | none => .unknown none
  | some a => .known (.refl a)

theorem Narrower.trans : ∀ {s t u : ColumnType}, Narrower s t → Narrower t u → Narrower s u
  | _, _, _, .unknown _, _ => .unknown _
  | _, _, _, .known h, .known h' => .known (h.trans h')

theorem Narrower.antisymm : ∀ {s t : ColumnType}, Narrower s t → Narrower t s → s = t
  | _, _, .unknown _, .unknown _ => rfl
  | _, _, .known h, .known h' => by rw [h.antisymm h']

/-- Each type is narrower than the common one. -/
theorem narrower_common? : ∀ {s t u : ColumnType}, common? s t = some u →
    Narrower s u ∧ Narrower t u
  | none, t, u, h => by
    obtain rfl := Option.some.inj h
    exact ⟨.unknown t, .refl t⟩
  | some s, none, u, h => by
    obtain rfl := Option.some.inj h
    exact ⟨.refl _, .unknown _⟩
  | some s, some t, u, h => by
    simp only [common?, Option.map_eq_some_iff] at h
    obtain ⟨c, hc, rfl⟩ := h
    obtain ⟨hs, ht⟩ := DataType.narrower_common? hc
    exact ⟨.known hs, .known ht⟩

/-- Types under one type have a common one under it. -/
theorem exists_common?_of_narrower : ∀ {s t d : ColumnType}, Narrower s d → Narrower t d →
    ∃ u, common? s t = some u ∧ Narrower u d
  | none, t, _, _, ht => ⟨t, rfl, ht⟩
  | some s, none, _, hs, _ => ⟨some s, rfl, hs⟩
  | some _, some _, some _, .known hs, .known ht =>
    have ⟨c, hc, hd⟩ := DataType.exists_common?_of_narrower hs ht
    ⟨some c, by simp [common?, hc], .known hd⟩

/-! ## Joins -/

/-- In the order `r`, the type is above every type of the list. -/
def UpperBound (r : ColumnType → ColumnType → Prop) (ts : List ColumnType) (u : ColumnType) :
    Prop :=
  ∀ t ∈ ts, r t u

/-- In the order `r`, the type is above the list and below everything above the list. -/
def LeastUpperBound (r : ColumnType → ColumnType → Prop) (ts : List ColumnType)
    (u : ColumnType) : Prop :=
  UpperBound r ts u ∧ ∀ v, UpperBound r ts v → r u v

@[simp] theorem upperBound_nil (u : ColumnType) : UpperBound Narrower [] u := by simp [UpperBound]

@[simp] theorem upperBound_cons {t u : ColumnType} {ts : List ColumnType} :
    UpperBound Narrower (t :: ts) u ↔ Narrower t u ∧ UpperBound Narrower ts u := by
  simp [UpperBound]

/-- Joins depend on the members of the list only. -/
theorem leastUpperBound_congr {ts us : List ColumnType} (h : ∀ t, t ∈ ts ↔ t ∈ us)
    (v : ColumnType) :
    LeastUpperBound Narrower ts v ↔ LeastUpperBound Narrower us v := by
  simp only [LeastUpperBound, UpperBound, h]

/-- What joining a list gives is above the list and above the start. -/
theorem upperBound_of_commonFrom? : ∀ {ts : List ColumnType} {s v : ColumnType},
    commonFrom? s ts = some v → UpperBound Narrower (s :: ts) v
  | [], s, v, h => by
    obtain rfl := Option.some.inj h
    simpa using Narrower.refl s
  | t :: ts, s, v, h => by
    simp only [commonFrom?, Option.bind_eq_some_iff] at h
    obtain ⟨u, hu, h⟩ := h
    have ⟨hs, ht⟩ := narrower_common? hu
    have ⟨huv, hts⟩ := upperBound_cons.mp (upperBound_of_commonFrom? h)
    exact upperBound_cons.mpr ⟨hs.trans huv, upperBound_cons.mpr ⟨ht.trans huv, hts⟩⟩

/-- A list and a start with an upper bound join, and below that bound. -/
theorem exists_commonFrom? : ∀ {ts : List ColumnType} {s d : ColumnType},
    UpperBound Narrower (s :: ts) d → ∃ v, commonFrom? s ts = some v ∧ Narrower v d
  | [], s, d, h => ⟨s, rfl, (upperBound_cons.mp h).1⟩
  | t :: ts, s, d, h => by
    have ⟨hs, h⟩ := upperBound_cons.mp h
    have ⟨ht, hts⟩ := upperBound_cons.mp h
    obtain ⟨u, hu, hud⟩ := exists_common?_of_narrower hs ht
    obtain ⟨v, hv, hvd⟩ := exists_commonFrom? (upperBound_cons.mpr ⟨hud, hts⟩)
    exact ⟨v, by simp [commonFrom?, hu, hv], hvd⟩

/-- What joining a list gives is its join. -/
theorem commonFrom?_eq_some_iff {ts : List ColumnType} {s v : ColumnType} :
    commonFrom? s ts = some v ↔ LeastUpperBound Narrower (s :: ts) v := by
  constructor
  · intro h
    refine ⟨upperBound_of_commonFrom? h, fun d hd => ?_⟩
    obtain ⟨u, hu, hud⟩ := exists_commonFrom? hd
    obtain rfl := Option.some.inj (h.symm.trans hu)
    exact hud
  · intro h
    obtain ⟨u, hu, huv⟩ := exists_commonFrom? h.1
    rw [hu, huv.antisymm (h.2 u (upperBound_of_commonFrom? hu))]

/-- The unknown type adds nothing to a list. -/
theorem leastUpperBound_unknown_cons {ts : List ColumnType} {v : ColumnType} :
    LeastUpperBound Narrower (none :: ts) v ↔ LeastUpperBound Narrower ts v := by
  simp [LeastUpperBound, Narrower.unknown]

/-! ## Laws of coercion -/

/-- The common type is the least upper bound of the two. -/
theorem common?_eq_some_iff {s t u : ColumnType} :
    common? s t = some u ↔ LeastUpperBound Narrower [s, t] u := by
  rw [← commonFrom?_eq_some_iff]
  simp [commonFrom?]

/-- Common types do not depend on the order of the two. -/
theorem common?_comm (s t : ColumnType) : common? s t = common? t s := by
  refine Option.ext fun u => ?_
  rw [common?_eq_some_iff, common?_eq_some_iff]
  exact leastUpperBound_congr (by simp [or_comm]) u

theorem common?_self (t : ColumnType) : common? t t = some t :=
  common?_eq_some_iff.mpr ⟨by simpa using Narrower.refl t, fun _ h => (upperBound_cons.mp h).1⟩

/-- Two joins, one after the other, are the join of three types. -/
theorem common?_bind_eq_some_iff {s t u v : ColumnType} :
    (common? s t).bind (common? · u) = some v ↔ LeastUpperBound Narrower [s, t, u] v := by
  rw [← commonFrom?_eq_some_iff]
  simp [commonFrom?]

/-- Common types may be taken from the left or from the right. -/
theorem common?_assoc (s t u : ColumnType) :
    (common? s t).bind (common? · u) = (common? t u).bind (common? s ·) := by
  refine Option.ext fun v => ?_
  simp only [common?_comm s]
  rw [← common?_comm s t, common?_bind_eq_some_iff, common?_bind_eq_some_iff]
  refine leastUpperBound_congr (fun w => ?_) v
  simp only [List.mem_cons, List.not_mem_nil, or_false]
  exact or_rotate

/-- Coercion finds the common type and adds an error where there is none. -/
theorem toOption_coerce (s t : ColumnType) : (coerce s t).toOption = common? s t := by
  unfold coerce
  split <;> simp_all [Except.toOption]

/-- Coercion of a list finds the common type of all. -/
theorem toOption_coerceAll (ts : List ColumnType) :
    (coerceAll ts).toOption = commonFrom? none ts := by
  unfold coerceAll
  split <;> simp_all [Except.toOption]

theorem toOption_eq_some_iff {x : Except Error ColumnType} {t : ColumnType} :
    x.toOption = some t ↔ x = .ok t := by
  cases x <;> simp [Except.toOption]

theorem toOption_bind (x : Except Error ColumnType) (f : ColumnType → Except Error ColumnType) :
    (x.bind f).toOption = x.toOption.bind fun t => (f t).toOption := by
  cases x <;> rfl

/-- Coercion gives the least upper bound. -/
theorem coerce_eq_ok_iff {s t u : ColumnType} :
    coerce s t = .ok u ↔ LeastUpperBound Narrower [s, t] u := by
  rw [← toOption_eq_some_iff, toOption_coerce, common?_eq_some_iff]

/-- Coercion of a list gives its least upper bound. -/
theorem coerceAll_eq_ok_iff {ts : List ColumnType} {u : ColumnType} :
    coerceAll ts = .ok u ↔ LeastUpperBound Narrower ts u := by
  rw [← toOption_eq_some_iff, toOption_coerceAll, commonFrom?_eq_some_iff,
    leastUpperBound_unknown_cons]

/-- A list has a common type as soon as it has a bound. -/
theorem exists_coerceAll_iff {ts : List ColumnType} :
    (∃ u, coerceAll ts = .ok u) ↔ ∃ d, UpperBound Narrower ts d := by
  constructor
  · rintro ⟨u, hu⟩
    exact ⟨u, (coerceAll_eq_ok_iff.mp hu).1⟩
  · rintro ⟨d, hd⟩
    obtain ⟨u, hu, -⟩ := exists_commonFrom? (upperBound_cons.mpr ⟨.unknown d, hd⟩)
    exact ⟨u, coerceAll_eq_ok_iff.mpr
      (leastUpperBound_unknown_cons.mp (commonFrom?_eq_some_iff.mp hu))⟩

/-- What is above a join is above what it joins. -/
theorem upperBound_splice {ts us vs : List ColumnType} {t v : ColumnType}
    (h : LeastUpperBound Narrower us t) :
    UpperBound Narrower (ts ++ t :: vs) v ↔ UpperBound Narrower (ts ++ us ++ vs) v := by
  have hjoin : Narrower t v ↔ ∀ u ∈ us, Narrower u v :=
    ⟨fun ht u hu => (h.1 u hu).trans ht, fun hus => h.2 v hus⟩
  simp only [UpperBound, List.mem_append, List.mem_cons, or_imp, forall_and, forall_eq, hjoin,
    and_assoc]

/-- A common type in the place of its types makes no difference. -/
theorem coerceAll_splice {ts us vs : List ColumnType} {t v : ColumnType}
    (h : coerceAll us = .ok t) :
    coerceAll (ts ++ t :: vs) = .ok v ↔ coerceAll (ts ++ us ++ vs) = .ok v := by
  have hjoin := coerceAll_eq_ok_iff.mp h
  simp only [coerceAll_eq_ok_iff, LeastUpperBound, upperBound_splice hjoin]

/-- A list has the common type of its first type and the common type of the others. -/
theorem coerceAll_cons_eq_ok_iff {s u : ColumnType} {ts : List ColumnType} :
    coerceAll (s :: ts) = .ok u ↔ ∃ t, coerceAll ts = .ok t ∧ coerceAll [s, t] = .ok u := by
  constructor
  · intro h
    have hbound : UpperBound Narrower ts u := (upperBound_cons.mp (coerceAll_eq_ok_iff.mp h).1).2
    obtain ⟨t, ht⟩ := exists_coerceAll_iff.mpr ⟨u, hbound⟩
    exact ⟨t, ht, (@coerceAll_splice [s] ts [] t u ht).mpr (by simpa using h)⟩
  · rintro ⟨t, ht, h⟩
    simpa using (@coerceAll_splice [s] ts [] t u ht).mp h

/-- Coercion of a list depends on its members only. -/
theorem toOption_coerceAll_congr {ts us : List ColumnType} (h : ∀ t, t ∈ ts ↔ t ∈ us) :
    (coerceAll ts).toOption = (coerceAll us).toOption := by
  refine Option.ext fun v => ?_
  rw [toOption_eq_some_iff, toOption_eq_some_iff, coerceAll_eq_ok_iff, coerceAll_eq_ok_iff]
  exact leastUpperBound_congr h v

/-! ## The order read off coercion -/

/-- The first type is below the second: coercing the two gives the second. -/
def Coerces (t u : ColumnType) : Prop := coerce t u = .ok u

/-- A type coerces to the types that it is narrower than. -/
theorem coerces_eq_narrower : Coerces = Narrower := by
  funext t u
  refine propext ⟨fun h => ?_, fun h => ?_⟩
  · exact (upperBound_cons.mp (coerce_eq_ok_iff.mp h).1).1
  · have above : ∀ v, UpperBound Narrower [t, u] v → Narrower u v := fun v hv =>
      (upperBound_cons.mp (upperBound_cons.mp hv).2).1
    exact coerce_eq_ok_iff.mpr ⟨by simpa using ⟨h, .refl u⟩, above⟩

/-- Narrower types are a partial order. -/
theorem isPartialOrder_narrower : IsPartialOrder ColumnType Narrower where
  refl := .refl
  trans _ _ _ := .trans
  antisymm _ _ h := h.antisymm

/-- Coercion is a partial join: commutative, idempotent and associative, failures included;
its order is a partial order with the unknown type at the bottom, and what it gives is the
least upper bound, of two types as of a list. A list has a common type exactly when it has
an upper bound, and which one depends on its members only. -/
theorem coerce_semilattice :
    ((∀ t u, (coerce t u).toOption = (coerce u t).toOption) ∧
      (∀ t, coerce t t = .ok t) ∧
      ∀ s t u, ((coerce s t).bind (coerce · u)).toOption =
        ((coerce t u).bind (coerce s ·)).toOption) ∧
    (IsPartialOrder ColumnType Coerces ∧ ∀ t, Coerces none t) ∧
    (∀ t u v, coerce t u = .ok v ↔ LeastUpperBound Coerces [t, u] v) ∧
    (∀ ts v, coerceAll ts = .ok v ↔ LeastUpperBound Coerces ts v) ∧
    (∀ ts, (∃ v, coerceAll ts = .ok v) ↔ ∃ u, UpperBound Coerces ts u) ∧
    ∀ ts us : List ColumnType, (∀ t, t ∈ ts ↔ t ∈ us) →
      (coerceAll ts).toOption = (coerceAll us).toOption := by
  rw [coerces_eq_narrower]
  refine ⟨⟨fun t u => ?comm, fun t => ?idem, fun s t u => ?assoc⟩,
    ⟨isPartialOrder_narrower, .unknown⟩, fun _ _ _ => coerce_eq_ok_iff,
    fun _ _ => coerceAll_eq_ok_iff, fun _ => exists_coerceAll_iff,
    fun _ _ => toOption_coerceAll_congr⟩
  case comm => rw [toOption_coerce, toOption_coerce, common?_comm]
  case idem => rw [← toOption_eq_some_iff, toOption_coerce, common?_self]
  case assoc => simp only [toOption_bind, toOption_coerce, common?_assoc]

/-- Two structs that each lack a name and a type the other has, in another order and one of
them twice. -/
theorem coerce_semilattice_structs :
    let s : ColumnType := some (.struct [⟨some "a", some .integer⟩, ⟨none, none⟩])
    let t : ColumnType := some (.struct [⟨none, some .float⟩, ⟨some "b", some (.array .string)⟩])
    (∀ x, x ∈ [s, t] ↔ x ∈ [t, s, t]) ∧
      (coerceAll [s, t]).toOption = (coerceAll [t, s, t]).toOption ∧
      (coerceAll [s, t]).toOption =
        some (some (.struct [⟨some "a", some .float⟩, ⟨some "b", some (.array .string)⟩])) := by
  intro s t
  have members : ∀ x, x ∈ [s, t] ↔ x ∈ [t, s, t] := by
    intro x
    simp [or_comm, or_left_comm]
  exact ⟨members, coerce_semilattice.2.2.2.2.2 _ _ members, by decide⟩

end ColumnType

end ColumnarSql
