import ColumnarSql.Proofs.WrittenNumbers
import ColumnarSql.Value.Text

/-!
# Dates and moments read back from their text

A reader of the free form takes the text of a date or of a clock off the front and leaves what
follows it (`freeDate_render`, `freeClock_render`). A leap second at the end of a minute is written
as second 60 and read back as one; any other is written, and so read, as the next second
(`clockOf?_shown`). The texts have no blanks at their ends, so trimming leaves
them as they are. A timestamp is written with the offset `+00`. That is no offset of the strict
form, which has minutes, so the strict form does not apply (`strictMoment_shortOffset`) and the
free form reads what stands before the offset (`timestamp?_renderTimestamp`).
-/

set_option autoImplicit false

namespace ColumnarSql

open Calendar

/-- A date is made again of its own parts. -/
theorem Date.ofParts?_self (d : Date) : Date.ofParts? d.year d.month d.day = some d :=
  dif_pos d.isDate

namespace Clock

/-- A clock is made again of its own parts, unless its leap second comes early. -/
theorem ofParts?_self {c : Clock} (h : ¬c.LeapsEarly) :
    ofParts? c.hour c.minute c.second c.nano = some c := by
  rw [ofParts?, dif_pos c.isClock]
  exact if_neg h

/-- The second after an early leap second is one of the clock. -/
theorem isClock_next {c : Clock} (h : c.LeapsEarly) :
    IsClock c.hour c.minute (c.second + 1) (c.nano - nanosPerSecond) := by
  obtain ⟨hhour, hminute, hsecond, hnano⟩ := c.isClock
  obtain ⟨-, hlast⟩ := h
  exact ⟨hhour, hminute, by omega, by omega⟩

/-- The clock that the text of a clock names: an early leap second is the second after it. -/
def asWritten (c : Clock) : Clock :=
  if h : c.LeapsEarly then ⟨c.hour, c.minute, c.second + 1, c.nano - nanosPerSecond, isClock_next h⟩
  else c

/-- Only early leap seconds are written as another time. -/
theorem asWritten_eq_self_iff {c : Clock} : c.asWritten = c ↔ ¬c.LeapsEarly := by
  refine ⟨fun heq h => ?_, fun h => dif_neg h⟩
  rw [asWritten, dif_pos h] at heq
  exact absurd (congrArg Clock.second heq) (Nat.succ_ne_self c.second)

end Clock

/-- The moment that the text of a moment names. -/
def Moment.asWritten (m : Moment) : Moment := ⟨m.date, m.clock.asWritten⟩

/-- So it is for moments. -/
theorem Moment.asWritten_eq_self_iff {m : Moment} : m.asWritten = m ↔ ¬m.clock.LeapsEarly := by
  rw [← Clock.asWritten_eq_self_iff]
  exact ⟨congrArg Moment.clock, fun h => by rw [asWritten, h]⟩

/-- Months and days have at most two digits. -/
theorem Date.month_lt_and_day_lt (d : Date) : d.month < 100 ∧ d.day < 100 := by
  obtain ⟨-, -, hpos, hday⟩ := d.isDate
  have hbound : 0 < daysInMonth d.year d.month →
      d.month < 100 ∧ daysInMonth d.year d.month < 100 := by
    unfold daysInMonth
    split <;> (try split) <;> omega
  have := hbound (by omega)
  omega

namespace Calendar

open Text

/-! ## Marks -/

@[simp] theorem mark_self (c : Char) (r : List Char) : mark c (c :: r) = some r := by
  simp [mark]

/-- A mark is not found where another character stands. -/
theorem mark_of_ne {c d : Char} (h : d ≠ c) (r : List Char) : mark c (d :: r) = none := by
  simp [mark, h]

/-- A reader of digits refuses a text that begins with anything else. -/
theorem number_of_not_digit {c : Char} (h : c.isDigit = false) (least most : Nat)
    (r : List Char) : number least most (c :: r) = none := by
  have hnone : ((c :: r).take most).takeWhile Char.isDigit = [] := (unjoined_cons h r).take most
  simp [number, hnone]

/-! ## Dates and clocks -/

/-- The text of a date, field by field. -/
theorem toList_render_date (d : Date) (r : List Char) : d.render.toList ++ r =
    (yearText d.year).toList ++ '-' :: ((padded 2 d.month).toList ++
      '-' :: ((padded 2 d.day).toList ++ r)) := by
  simp [Date.render]

/-- The text of a clock, field by field. -/
theorem toList_render_clock (c : Clock) (r : List Char) : c.render.toList ++ r =
    (padded 2 c.hour).toList ++ ':' :: ((padded 2 c.minute).toList ++
      ':' :: ((padded 2 c.shownSecond).toList ++ ((fractionText c.shownNano).toList ++ r))) := by
  simp [Clock.render]

/-- A date is read back from its text, whatever follows. -/
theorem freeDate_render (d : Date) (r : List Char) :
    freeDate (d.render.toList ++ r) = some (d, r) := by
  obtain ⟨hmonth, hday⟩ := d.month_lt_and_day_lt
  simp only [freeDate, toList_render_date, year_yearText _ (unjoined_cons (c := '-') rfl _),
    mark_self, field_padded hmonth, field_padded hday, Date.ofParts?_self, Option.bind_eq_bind,
    Option.bind_some, Option.pure_def]

/-- The second of a written clock has two digits. -/
theorem shownSecond_lt (c : Clock) : c.shownSecond < 100 := by
  obtain ⟨-, -, hsecond, hnano⟩ := c.isClock
  simp only [Clock.shownSecond, nanosPerSecond] at *
  omega

theorem shownNano_lt (c : Clock) : c.shownNano < nanosPerSecond := Nat.mod_lt _ (by decide)

/-- The seconds as written are those of the clock, or the next ones in a leap second. -/
theorem clockOf?_shown (c : Clock) :
    clockOf? c.hour c.minute c.shownSecond c.shownNano = some c.asWritten := by
  obtain ⟨-, -, hsecond, hnano⟩ := c.isClock
  rcases Nat.lt_or_ge c.nano nanosPerSecond with hplain | hleap
  · have hregular : ¬c.LeapsEarly := fun h => absurd h.1 (Nat.not_le_of_lt hplain)
    have hs : c.shownSecond = c.second := by
      rw [Clock.shownSecond, Nat.div_eq_of_lt hplain, Nat.add_zero]
    have hn : c.shownNano = c.nano := Nat.mod_eq_of_lt hplain
    rw [clockOf?, hs, hn, if_neg (by omega), Clock.ofParts?_self hregular,
      Clock.asWritten_eq_self_iff.mpr hregular]
  · have hs : c.shownSecond = c.second + 1 := by
      simp only [Clock.shownSecond, nanosPerSecond] at *
      omega
    have hn : c.shownNano = c.nano - nanosPerSecond := by
      simp only [Clock.shownNano, nanosPerSecond] at *
      omega
    by_cases hlast : c.second = 59
    · have hregular : ¬c.LeapsEarly := fun h => h.2 hlast
      rw [clockOf?, hs, hn, if_pos (by omega), Nat.sub_add_cancel hleap, ← hlast,
        Clock.ofParts?_self hregular, Clock.asWritten_eq_self_iff.mpr hregular]
    · have hearly : c.LeapsEarly := ⟨hleap, hlast⟩
      have hnext : ¬c.asWritten.LeapsEarly := by
        rw [Clock.asWritten, dif_pos hearly]
        exact fun h => absurd h.1 (by simp only [nanosPerSecond] at *; omega)
      rw [clockOf?, hs, hn, if_neg (by omega), ← Clock.ofParts?_self hnext, Clock.asWritten,
        dif_pos hearly]

/-- The text of a clock is read as the clock that it names. -/
theorem freeClock_render (c : Clock) {r : List Char} (hr : Unjoined r) (hpoint : Pointless r) :
    freeClock (c.render.toList ++ r) = some (c.asWritten, r) := by
  obtain ⟨hhour, hminute, -⟩ := c.isClock
  simp only [freeClock, toList_render_clock, field_padded (show c.hour < 100 by omega),
    field_padded (show c.minute < 100 by omega), field_padded (shownSecond_lt c), mark_self,
    fraction_fractionText (shownNano_lt c) hr hpoint, clockOf?_shown, Option.bind_eq_bind,
    Option.bind_some, Option.pure_def]

/-! ## Trimmed texts -/

theorem endsInDigit_date (d : Date) : EndsInDigit d.render.toList := by
  rw [← List.append_nil d.render.toList, toList_render_date, List.append_nil]
  exact ((((endsInDigit_padded 2 d.day).cons _).append _).cons _).append _

/-- A text that ends in a digit does so with a fraction after it, too. -/
theorem endsInDigit_fraction {s : List Char} (h : EndsInDigit s) (nano : Nat) :
    EndsInDigit (s ++ (fractionText nano).toList) := by
  unfold fractionText
  split_ifs <;> simp only [String.toList_empty, List.append_nil, String.toList_append]
  · exact h
  all_goals exact ((endsInDigit_padded _ _).append _).append _

theorem endsInDigit_clock (c : Clock) : EndsInDigit c.render.toList := by
  rw [← List.append_nil c.render.toList, toList_render_clock, List.append_nil]
  exact (((endsInDigit_fraction (endsInDigit_padded 2 _) _).cons _).append _ |>.cons _).append _

theorem trimLeft_date (d : Date) (r : List Char) :
    trimLeft (d.render.toList ++ r) = d.render.toList ++ r := by
  rw [toList_render_date, trimLeft_yearText]

theorem trimLeft_clock (c : Clock) (r : List Char) :
    trimLeft (c.render.toList ++ r) = c.render.toList ++ r := by
  rw [toList_render_clock, trimLeft_padded]

/-- A text that starts with a date and ends in a digit has no blanks at its ends. -/
theorem trim_date_append (d : Date) {r : List Char} (h : EndsInDigit (d.render.toList ++ r)) :
    trim (d.render.toList ++ r) = d.render.toList ++ r :=
  h.trim_eq (trimLeft_date d r)

/-! ## Whole texts -/

/-- A date is read back from its text. -/
theorem date?_render (d : Date) : date? d.render.toList = some d := by
  have htrim := trim_date_append d (r := []) (by simpa using endsInDigit_date d)
  have hread := freeDate_render d []
  rw [List.append_nil] at htrim hread
  rw [date?, htrim, whole, hread]

/-- A moment is written as its date, a blank and its clock. -/
theorem toList_render (m : Moment) :
    (m.render " ").toList = m.date.render.toList ++ ' ' :: m.clock.render.toList := by
  simp [Moment.render]

theorem endsInDigit_moment (m : Moment) : EndsInDigit (m.render " ").toList := by
  rw [toList_render]
  exact ((endsInDigit_clock m.clock).cons _).append _

/-- The text of a moment is read as the moment that it names. -/
theorem datetime?_render (m : Moment) : datetime? (m.render " ").toList = some m.asWritten := by
  have htrim : trim (m.render " ").toList = (m.render " ").toList := by
    have hend := endsInDigit_moment m
    rw [toList_render] at hend ⊢
    exact trim_date_append m.date hend
  have hread : freeMoment (fun r => some (trimLeft r)) (m.render " ").toList =
      some (m.asWritten, []) := by
    have hclock := freeClock_render m.clock unjoined_nil (r := []) (by simp [Pointless])
    have hblank : trimLeft (' ' :: m.clock.render.toList) = m.clock.render.toList := by
      have hskip := trimLeft_clock m.clock []
      rw [List.append_nil] at hskip
      rw [trimLeft, List.dropWhile_cons_of_pos (by decide), ← trimLeft, hskip]
    rw [List.append_nil] at hclock
    simp only [freeMoment, toList_render, freeDate_render, hblank, hclock, Option.bind_eq_bind,
      Option.bind_some, Option.pure_def, Moment.asWritten]
  rw [datetime?, htrim, whole, hread]
  rfl

/-! ## Timestamps -/

/-- A reader goes on from what the step before it has read. -/
theorem bind_of_read {α β : Type} {x : Option α} {k : α → Option β} {a : α} (h : x = some a) :
    (x >>= k) = k a := by
  rw [h]
  rfl

/-- A text that does not start with a digit is no moment in the strict format. -/
theorem strictMoment_of_not_digit {c : Char} (h : c.isDigit = false) (r : List Char) :
    strictMoment (c :: r) = none := by
  rw [strictMoment, number_of_not_digit h]
  rfl

/-- The strict form has minutes in its offset. -/
theorem strictMoment_shortOffset (m : Moment) :
    strictMoment ((m.render " ").toList ++ ['+', '0', '0']) = none := by
  rw [toList_render, List.append_assoc, toList_render_date, List.cons_append,
    toList_render_clock]
  rcases toList_yearText_cases m.date.year with ⟨htext, -⟩ | ⟨htext, -⟩ | ⟨htext, -, hyear⟩
  · rw [htext]
    exact strictMoment_of_not_digit rfl _
  · rw [htext]
    exact strictMoment_of_not_digit rfl _
  · obtain ⟨hmonth, hday⟩ := m.date.month_lt_and_day_lt
    obtain ⟨hhour, hminute, -⟩ := m.clock.isClock
    have hfraction := fraction_fractionText (shownNano_lt m.clock) (r := ['+', '0', '0'])
      (unjoined_cons rfl _) (by simp [Pointless])
    have htwo : ∀ {n : Nat}, n < 100 → ∀ r, number 2 2 ((padded 2 n).toList ++ r) = some (n, r) :=
      fun h r => number_padded (by decide) h (Nat.le_refl 2) r
    have hblank : ∀ r, ((mark 'T' (' ' :: r)).or ((mark 't' (' ' :: r)).or
        (mark ' ' (' ' :: r)))) = some r := fun r => by
      rw [mark_of_ne (by decide), mark_of_ne (by decide), mark_self, Option.none_or,
        Option.none_or]
    rw [htext, strictMoment]
    refine (bind_of_read (number_padded (by decide) hyear (Nat.le_refl 4) _)).trans ?_
    refine (bind_of_read (mark_self '-' _)).trans ?_
    refine (bind_of_read (htwo hmonth _)).trans ?_
    refine (bind_of_read (mark_self '-' _)).trans ?_
    refine (bind_of_read (htwo hday _)).trans ?_
    refine (bind_of_read (hblank _)).trans ?_
    refine (bind_of_read (htwo (Nat.lt_trans hhour (by decide)) _)).trans ?_
    refine (bind_of_read (mark_self ':' _)).trans ?_
    refine (bind_of_read (htwo (Nat.lt_trans hminute (by decide)) _)).trans ?_
    refine (bind_of_read (mark_self ':' _)).trans ?_
    refine (bind_of_read (htwo (shownSecond_lt m.clock) _)).trans ?_
    -- the offset ends after its hours
    exact bind_of_read hfraction

/-- An ending that was appended is dropped. -/
theorem dropEnding?_append (s ending : List Char) :
    dropEnding? (s ++ ending) ending = some s := by
  simp [dropEnding?, List.isSuffixOf_iff_suffix.mpr (List.suffix_append s ending)]

/-- The text of a timestamp is read as the moment that it names. -/
theorem timestamp?_renderTimestamp (m : Moment) :
    timestamp? (Value.renderTimestamp m).toList = some m.asWritten := by
  have htext : (Value.renderTimestamp m).toList = (m.render " ").toList ++ ['+', '0', '0'] := by
    simp [Value.renderTimestamp]
  have htrim : trim ((m.render " ").toList ++ ['+', '0', '0']) =
      (m.render " ").toList ++ ['+', '0', '0'] := by
    have hend : EndsInDigit ((m.render " ").toList ++ ['+', '0', '0']) :=
      EndsInDigit.append ⟨['+', '0'], '0', rfl, rfl⟩ _
    rw [toList_render, List.append_assoc] at hend ⊢
    exact trim_date_append m.date hend
  have hutc : dropEnding? ((m.render " ").toList ++ ['+', '0', '0']) " UTC".toList = none := by
    simp [dropEnding?, List.isSuffixOf]
  rw [htext, timestamp?, htrim]
  simp only [whole, strictMoment_shortOffset, hutc, Option.none_or]
  rw [show "+00".toList = ['+', '0', '0'] from rfl, dropEnding?_append, Option.getD_some,
    datetime?_render]

end Calendar

end ColumnarSql
