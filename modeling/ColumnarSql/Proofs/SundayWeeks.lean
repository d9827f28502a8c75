import Mathlib.Data.List.Nodup
import ColumnarSql.Calendar.Part
import ColumnarSql.Proofs.EqualValues
import ColumnarSql.Proofs.WrittenMoments

/-!
# Weeks begun on a Sunday

The dates of a year are its days numbered from `1` on (`map_ordinal_datesOfYear`), in the order
of the dates (`orderKey_le_iff`), and a day is a Sunday if seven divides its number. So the week
of a date, which EXTRACT computes by one division, is a count of days in a row (`countP_sundays`):
the number of Sundays of the year that are not after the date (`extract_week`).
-/

set_option autoImplicit false

namespace ColumnarSql

open Calendar

namespace Date

/-! ## Days of a year -/

theorem ofParts?_eq_some_iff {year : Int} {month day : Nat} {d : Date} :
    ofParts? year month day = some d ↔ d.year = year ∧ d.month = month ∧ d.day = day := by
  constructor
  · intro h
    unfold ofParts? at h
    split at h
    · obtain rfl := Option.some.inj h
      exact ⟨rfl, rfl, rfl⟩
    · cases h
  · rintro ⟨rfl, rfl, rfl⟩
    exact ofParts?_self d

theorem daysBeforeMonth_succ (year : Int) (month : Nat) :
    daysBeforeMonth year (month + 1) = daysBeforeMonth year month + daysInMonth year month := by
  simp [daysBeforeMonth, List.range_succ]

theorem daysBeforeMonth_mono (year : Int) {month later : Nat} (h : month ≤ later) :
    daysBeforeMonth year month ≤ daysBeforeMonth year later := by
  induction h with
  | refl => exact Nat.le_refl _
  | step _ ih =>
    rw [Nat.succ_eq_add_one, daysBeforeMonth_succ]
    omega

/-- A date of an earlier month is an earlier day of the year. -/
theorem lt_of_month_lt {s d : Date} (hyear : s.year = d.year) (h : s.month < d.month) :
    s.ordinal < d.ordinal ∧ s.orderKey < d.orderKey := by
  obtain ⟨-, -, -, hday⟩ := s.isDate
  obtain ⟨-, -, hpos, -⟩ := d.isDate
  have hle := daysInMonth_le s.year s.month
  have hmono := daysBeforeMonth_mono d.year (Nat.succ_le_of_lt h)
  rw [Nat.succ_eq_add_one, daysBeforeMonth_succ] at hmono
  simp only [ordinal, orderKey, hyear] at *
  omega

/-- The days of a year are in the order of their numbers. -/
theorem orderKey_le_iff {s d : Date} (hyear : s.year = d.year) :
    s.orderKey ≤ d.orderKey ↔ s.ordinal ≤ d.ordinal := by
  rcases Nat.lt_trichotomy s.month d.month with h | h | h
  · have hlt := lt_of_month_lt hyear h
    omega
  · simp only [orderKey, ordinal, hyear, h]
    omega
  · have hlt := lt_of_month_lt hyear.symm h
    omega

/-- The dates of a year in their order. -/
def datesOfYear (year : Int) : List Date :=
  (List.range' 1 12).flatMap fun month =>
    (List.range' 1 (daysInMonth year month)).filterMap fun day => ofParts? year month day

theorem mem_datesOfYear {year : Int} {d : Date} : d ∈ datesOfYear year ↔ d.year = year := by
  simp only [datesOfYear, List.mem_flatMap, List.mem_filterMap, ofParts?_eq_some_iff]
  constructor
  · rintro ⟨_, -, _, -, hyear, -⟩
    exact hyear
  · rintro rfl
    obtain ⟨-, -, hpos, hday⟩ := d.isDate
    obtain ⟨hfirst, hlast⟩ := month_of_days (Nat.lt_of_lt_of_le hpos hday)
    exact ⟨d.month, by simp; omega, d.day, by simp; omega, rfl, rfl, rfl⟩

/-- The dates of a month are its days in a row. -/
theorem map_ordinal_datesOfMonth {year : Int} (hyear : minYear ≤ year ∧ year ≤ maxYear)
    (month : Nat) :
    ((List.range' 1 (daysInMonth year month)).filterMap fun day =>
      (ofParts? year month day).map ordinal) =
        List.range' (daysBeforeMonth year month + 1) (daysInMonth year month) := by
  have hday : ∀ day ∈ List.range' 1 (daysInMonth year month),
      (ofParts? year month day).map ordinal = some (daysBeforeMonth year month + day) := by
    intro day hday
    have hdate : IsDate year month day := by
      simp only [List.mem_range'_1] at hday
      exact ⟨hyear.1, hyear.2, hday.1, by omega⟩
    simp [ofParts?, hdate, ordinal]
  rw [List.filterMap_eq_map_iff_forall_eq_some.mpr hday, List.map_add_range']

/-- The dates of a year are its days in a row. -/
theorem map_ordinal_datesOfYear {year : Int} (hyear : minYear ≤ year ∧ year ≤ maxYear) :
    (datesOfYear year).map ordinal = List.range' 1 (daysBeforeMonth year 13) := by
  have hmonths : ∀ months : Nat, (List.range' 1 months).flatMap (fun month =>
      List.range' (daysBeforeMonth year month + 1) (daysInMonth year month)) =
        List.range' 1 (daysBeforeMonth year (months + 1)) := by
    intro months
    induction months with
    | zero => rfl
    | succ months ih =>
      rw [List.range'_1_concat, List.flatMap_append, ih, List.flatMap_singleton,
        Nat.add_comm 1 months, Nat.add_comm (daysBeforeMonth year (months + 1)) 1,
        List.range'_append_1, ← daysBeforeMonth_succ]
  rw [datesOfYear, List.map_flatMap, ← hmonths]
  simp only [List.map_filterMap, map_ordinal_datesOfMonth hyear]

theorem nodup_datesOfYear (year : Int) : (datesOfYear year).Nodup := by
  cases h : datesOfYear year with
  | nil => exact List.nodup_nil
  | cons d ds =>
    obtain rfl : d.year = year := mem_datesOfYear.mp (h ▸ List.mem_cons_self)
    obtain ⟨hmin, hmax, -⟩ := d.isDate
    have hdays := map_ordinal_datesOfYear ⟨hmin, hmax⟩
    rw [← h]
    exact List.Nodup.of_map _ (hdays ▸ List.nodup_range')

/-! ## Sundays -/

/-- The Sundays of the year of a date that are not after the date. -/
def sundaysThrough (d : Date) : List Date :=
  (datesOfYear d.year).filter fun s =>
    s.orderKey ≤ d.orderKey && DatePart.extract s .dayOfWeek = 1

theorem dayOfWeek_eq_one_iff (d : Date) :
    DatePart.extract d .dayOfWeek = 1 ↔ (daysBeforeYear d.year + d.ordinal) % 7 = 0 := by
  simp only [DatePart.extract, daysFromSunday, dayNumber]
  omega

theorem mem_sundaysThrough {s d : Date} :
    s ∈ sundaysThrough d ↔
      s.year = d.year ∧ s.orderKey ≤ d.orderKey ∧ DatePart.extract s .dayOfWeek = 1 := by
  simp [sundaysThrough, mem_datesOfYear]

/-- Sundays among days in a row: of the first `days` after `before` days, those up to the day `n`
whose number seven divides. -/
theorem countP_sundays (before : Int) (n : Nat) : ∀ days : Nat,
    (List.range' 1 days).countP (fun k => k ≤ n && (before + k) % 7 = 0) =
      (min n days + 6 - ((before + (min n days : Nat)) % 7).toNat) / 7
  | 0 => by simp; omega
  | days + 1 => by
    rw [List.range'_1_concat, List.countP_append, countP_sundays before n days,
      List.countP_singleton]
    simp only [Bool.and_eq_true, decide_eq_true_eq]
    rcases Nat.lt_or_ge days n with hlt | hle
    · rw [Nat.min_eq_right hlt, Nat.min_eq_right hlt.le]
      split <;> omega
    · rw [Nat.min_eq_left hle, Nat.min_eq_left (Nat.le_succ_of_le hle), if_neg (by omega),
        Nat.add_zero]

/-- The number of the week is the number of Sundays that have begun one. -/
theorem weekOfYear_eq (d : Date) : d.weekOfYear = (sundaysThrough d).length := by
  have hcount : ((datesOfYear d.year).map ordinal).countP (fun k : Nat =>
      k ≤ d.ordinal && (daysBeforeYear d.year + k) % 7 = 0) =
        (datesOfYear d.year).countP fun s =>
          s.orderKey ≤ d.orderKey && DatePart.extract s .dayOfWeek = 1 := by
    rw [List.countP_map]
    refine List.countP_congr fun s hs => ?_
    have hyear := mem_datesOfYear.mp hs
    simp [orderKey_le_iff hyear, dayOfWeek_eq_one_iff, hyear]
  obtain ⟨hmin, hmax, -⟩ := d.isDate
  have hmap := map_ordinal_datesOfYear ⟨hmin, hmax⟩
  have hlast : d.ordinal ≤ daysBeforeMonth d.year 13 := by
    have hmem : d.ordinal ∈ (datesOfYear d.year).map ordinal :=
      List.mem_map_of_mem (mem_datesOfYear.mpr rfl)
    rw [hmap, List.mem_range'_1] at hmem
    omega
  rw [sundaysThrough, ← List.countP_eq_length_filter, ← hcount, hmap, countP_sundays,
    Nat.min_eq_left hlast]
  rfl

theorem weekOfYear_first {d : Date} (hmonth : d.month = 1) (hday : d.day = 1) :
    d.weekOfYear = if DatePart.extract d .dayOfWeek = 1 then 1 else 0 := by
  have hordinal : d.ordinal = 1 := by
    rw [ordinal, hmonth, hday]
    rfl
  simp only [DatePart.extract, weekOfYear, daysFromSunday, dayNumber, hordinal]
  split <;> omega

/-! ## From one day to the next -/

/-- The next day is in the same year, or it is 1 January and the year is over. -/
theorem next_cases {d d' : Date} (h : d.next? = some d') :
    d'.year = d.year ∧ d'.ordinal = d.ordinal + 1 ∨
      d'.year = d.year + 1 ∧ d'.ordinal = 1 ∧ d.ordinal = daysBeforeMonth d.year 13 := by
  obtain ⟨-, -, hpos, hday⟩ := d.isDate
  obtain ⟨-, hlast⟩ := month_of_days (Nat.lt_of_lt_of_le hpos hday)
  unfold next? at h
  split at h
  · obtain ⟨hy, hm, hd⟩ := ofParts?_eq_some_iff.mp h
    exact .inl ⟨hy, by simp only [ordinal, hy, hm, hd]; omega⟩
  · split at h
    · obtain ⟨hy, hm, hd⟩ := ofParts?_eq_some_iff.mp h
      refine .inl ⟨hy, ?_⟩
      simp only [ordinal, hy, hm, hd, daysBeforeMonth_succ]
      omega
    · obtain ⟨hy, hm, hd⟩ := ofParts?_eq_some_iff.mp h
      have hmonth : d.month = 12 := by omega
      have hend : d.day = daysInMonth d.year d.month := by omega
      exact .inr ⟨hy, by rw [ordinal, hm, hd]; rfl,
        by rw [ordinal, hend, hmonth, ← daysBeforeMonth_succ]⟩

/-- The days of a year end where those of the next one begin. -/
theorem daysBeforeYear_succ (year : Int) :
    daysBeforeYear (year + 1) = daysBeforeYear year + daysBeforeMonth year 13 := by
  have hdays : daysBeforeMonth year 13 = if isLeapYear year then 366 else 365 := by
    cases h : isLeapYear year <;> simp [daysBeforeMonth, daysInMonth, List.range_succ, h]
  have hleap : isLeapYear year = true ↔
      year % 4 = 0 ∧ (year % 100 ≠ 0 ∨ year % 400 = 0) := by
    simp [isLeapYear]
  simp only [hdays, hleap, daysBeforeYear]
  split <;> omega

/-- Days are numbered without a gap, also from one year to the next. -/
theorem dayNumber_next {d d' : Date} (h : d.next? = some d') :
    d'.dayNumber = d.dayNumber + 1 := by
  rcases next_cases h with ⟨hyear, hordinal⟩ | ⟨hyear, hfirst, hlast⟩
  · simp only [dayNumber, hyear, hordinal]
    omega
  · simp only [dayNumber, hyear, hfirst, hlast, daysBeforeYear_succ]
    omega

/-- The week goes on by one at a Sunday and at no other day. -/
theorem weekOfYear_next {d d' : Date} (h : d.next? = some d') (hyear : d'.year = d.year) :
    d'.weekOfYear = d.weekOfYear + if DatePart.extract d' .dayOfWeek = 1 then 1 else 0 := by
  have hordinal : d'.ordinal = d.ordinal + 1 := by
    rcases next_cases h with ⟨-, hordinal⟩ | ⟨hnew, -⟩
    · exact hordinal
    · omega
  simp only [DatePart.extract, weekOfYear, daysFromSunday, dayNumber_next h, hordinal]
  split <;> omega

theorem weekOfYear_mono {d d' : Date} (hyear : d'.year = d.year) (h : d.orderKey ≤ d'.orderKey) :
    d.weekOfYear ≤ d'.weekOfYear := by
  rw [weekOfYear_eq, weekOfYear_eq, sundaysThrough, sundaysThrough, hyear]
  refine (List.monotone_filter_right _ fun s hs => ?_).length_le
  simp only [Bool.and_eq_true, decide_eq_true_eq] at hs ⊢
  exact ⟨Int.le_trans hs.1 h, hs.2⟩

/-- EXTRACT(WEEK) counts the Sundays from 1 January through the date. So it is `0` or `1` on
1 January, never goes back along a year, and goes on by one on the days where DAYOFWEEK is `1`. -/
theorem extract_week (d : Date) :
    (sundaysThrough d).Nodup ∧
    (∀ s, s ∈ sundaysThrough d ↔
      s.year = d.year ∧ s.orderKey ≤ d.orderKey ∧ DatePart.extract s .dayOfWeek = 1) ∧
    DatePart.extract d .week = (sundaysThrough d).length ∧
    (d.month = 1 ∧ d.day = 1 →
      DatePart.extract d .week = if DatePart.extract d .dayOfWeek = 1 then 1 else 0) ∧
    (∀ d', d'.year = d.year → d.orderKey ≤ d'.orderKey →
      DatePart.extract d .week ≤ DatePart.extract d' .week) ∧
    ∀ d', d.next? = some d' → d'.year = d.year →
      DatePart.extract d' .week =
        DatePart.extract d .week + if DatePart.extract d' .dayOfWeek = 1 then 1 else 0 := by
  refine ⟨(nodup_datesOfYear _).filter _, fun s => mem_sundaysThrough,
    congrArg Nat.cast d.weekOfYear_eq, fun hfirst => ?_, fun d' hyear h => ?_,
    fun d' h hyear => ?_⟩
  · change (d.weekOfYear : Int) = _
    rw [weekOfYear_first hfirst.1 hfirst.2]
    split <;> simp
  · exact Int.ofNat_le.mpr (weekOfYear_mono hyear h)
  · change (d'.weekOfYear : Int) = d.weekOfYear + _
    rw [weekOfYear_next h hyear]
    split <;> simp

/-- 1 January of the year `-6`. -/
def saturdayOfYear : Date := ⟨-6, 1, 1, by decide⟩

def sundayOfYear : Date := ⟨-6, 1, 2, by decide⟩

/-- A year that begins on a Saturday has one day before its first week. -/
theorem extract_week_saturday :
    (saturdayOfYear.month = 1 ∧ saturdayOfYear.day = 1) ∧
      saturdayOfYear.next? = some sundayOfYear ∧ sundayOfYear.year = saturdayOfYear.year ∧
      saturdayOfYear.orderKey ≤ sundayOfYear.orderKey ∧
      DatePart.extract saturdayOfYear .week = 0 ∧ DatePart.extract sundayOfYear .week = 1 := by
  have hnext : saturdayOfYear.next? = some sundayOfYear := by decide
  obtain ⟨-, -, -, hfirst, -, hstep⟩ := extract_week saturdayOfYear
  have hzero : DatePart.extract saturdayOfYear .week = 0 := hfirst ⟨rfl, rfl⟩
  exact ⟨⟨rfl, rfl⟩, hnext, rfl, by decide, hzero,
    (hstep sundayOfYear hnext rfl).trans (by rw [hzero]; decide)⟩

end Date

end ColumnarSql
