import ColumnarSql.Proofs.DecodedText
import ColumnarSql.Proofs.IntegerSums
import ColumnarSql.Proofs.WrittenMoments
import ColumnarSql.Value.Cast

/-!
# Casts to text and back

A cast to STRING writes a value as its text, and a cast of the text reads it. For BOOLEAN,
INTEGER, DATE, DATETIME and TIMESTAMP the text is read as the value that it names
(`Value.readAs?_render`). That is the value itself, whatever the year and also in the leap second at
the end of a minute. A leap second after any other second has the text of the next second, as which
it is read (`Value.leap_second_reads_as_next`). A text is the text of its own bytes. So these casts
to STRING, and the cast of a text to BYTES, lose nothing else (`Value.cast_text_cast`).
-/

set_option autoImplicit false

namespace ColumnarSql

theorem Integer.ofInt?_toInt (i : Int64) : ofInt? i.toInt = some i := by
  cases h : ofInt? i.toInt with
  | none => exact absurd (inRange_toInt i) (ofInt?_eq_none h)
  | some j => rw [Int64.toInt_inj.mp (ofInt?_eq_some h)]

namespace Value

variable {v : Value} {t : ScalarType}

/-- A value that is not of the target type is cast to its image. -/
theorem cast_of_convert? {w : Value} (hnull : v.isNull = false)
    (htype : v.scalarType? ≠ some t) (h : v.convert? t = some w) : v.cast t = .ok w := by
  simp [cast, hnull, htype, h]

theorem cast_string (hnull : v.isNull = false) (htype : v.scalarType? ≠ some .string) :
    v.cast .string = .ok (.string v.render) :=
  cast_of_convert? hnull htype (by cases v <;> rfl)

/-- A text is read as a member of another type. -/
theorem cast_of_readAs? {s : String} {w : Value} (htype : t ≠ .string)
    (h : readAs? s t = some w) : (Value.string s).cast t = .ok w := by
  refine cast_of_convert? rfl (by simpa [scalarType?] using htype.symm) ?_
  cases t <;> exact h

/-- The types whose texts are read as what they name. -/
def writtenTypes : List ScalarType := [.boolean, .integer, .date, .datetime, .timestamp]

/-- The value that the text of a value names. -/
def asWritten : Value → Value
  | datetime m => datetime m.asWritten
  | timestamp m => timestamp m.asWritten
  | v => v

/-- In a leap second that does not end a minute. -/
def LeapsEarly (v : Value) : Prop := ∃ m, (v = datetime m ∨ v = timestamp m) ∧ m.clock.LeapsEarly

/-- A text names the value that was written, except in an early leap second. -/
theorem asWritten_eq_self_iff : v.asWritten = v ↔ ¬v.LeapsEarly := by
  cases v with
  | datetime m | timestamp m => simp [asWritten, LeapsEarly, Moment.asWritten_eq_self_iff]
  | _ => simp [asWritten, LeapsEarly]

/-- A text is read as the value that it names. -/
theorem readAs?_render (ht : t ∈ writtenTypes) (hv : v.scalarType? = some t) :
    readAs? v.render t = some v.asWritten := by
  cases v with
  | boolean b =>
    obtain rfl := Option.some.inj hv
    cases b <;> rfl
  | integer i =>
    obtain rfl := Option.some.inj hv
    obtain ⟨hread, htrim⟩ := Reading.integer?_repr i.toInt
    simp only [readAs?, render, Int.toString_eq_repr, htrim, hread, Option.bind_some,
      Integer.ofInt?_toInt, Option.map_some, asWritten]
  | date d =>
    obtain rfl := Option.some.inj hv
    simp only [readAs?, render, Calendar.date?_render, Option.map_some, asWritten]
  | datetime m =>
    obtain rfl := Option.some.inj hv
    simp only [readAs?, render, Calendar.datetime?_render, Option.map_some, asWritten]
  | timestamp m =>
    obtain rfl := Option.some.inj hv
    simp only [readAs?, render, Calendar.timestamp?_renderTimestamp, Option.map_some, asWritten]
  | float x =>
    obtain rfl := Option.some.inj hv
    exact absurd ht (by decide)
  | string s =>
    obtain rfl := Option.some.inj hv
    exact absurd ht (by decide)
  | bytes b =>
    obtain rfl := Option.some.inj hv
    exact absurd ht (by decide)
  | null => cases hv
  | array vs => cases hv
  | struct vs => cases hv

/-- A cast of a BOOLEAN, INTEGER, DATE, DATETIME or TIMESTAMP to STRING gives its text, and the
cast back gives the value that the text names: the value itself, except in a leap second that does
not end a minute. A cast of a STRING to BYTES gives its UTF-8 bytes, and the cast back gives it
again. -/
theorem cast_text_cast :
    (∀ (v : Value) (t : ScalarType), t ∈ writtenTypes → v.scalarType? = some t →
      v.cast .string = .ok (.string v.render) ∧ (string v.render).cast t = .ok v.asWritten ∧
        (v.asWritten = v ↔ ¬v.LeapsEarly)) ∧
    ∀ s : String, (string s).cast .bytes = .ok (.bytes (Utf8.encode s)) ∧
      (bytes (Utf8.encode s)).cast .string = .ok (.string s) := by
  refine ⟨fun v t ht hv => ?_, fun s => ⟨cast_of_readAs? (by decide) rfl, ?_⟩⟩
  · have hstring : t ≠ .string := by
      rintro rfl
      exact absurd ht (by decide)
    have hnull : v.isNull = false := by cases v <;> first | rfl | cases hv
    refine ⟨cast_string hnull ?_, cast_of_readAs? hstring (readAs?_render ht hv),
      asWritten_eq_self_iff⟩
    rw [hv]
    exact fun h => hstring (Option.some.inj h)
  · rw [cast_string rfl (by simp [scalarType?]), render, Utf8.decodeLossy_encode]

/-- Half a second into the leap second at the end of 29 February of the year -44. -/
def leapSecond : Moment := ⟨⟨-44, 2, 29, by decide⟩, ⟨23, 59, 59, 1500000000, by decide⟩⟩

theorem cast_text_cast_leapSecond :
    ScalarType.timestamp ∈ writtenTypes ∧
      (timestamp leapSecond).scalarType? = some .timestamp ∧ ¬(timestamp leapSecond).LeapsEarly ∧
      (timestamp leapSecond).cast .string = .ok (.string "-0044-02-29 23:59:60.500+00") ∧
      (string "-0044-02-29 23:59:60.500+00").cast .timestamp = .ok (.timestamp leapSecond) := by
  have htext : (timestamp leapSecond).render = "-0044-02-29 23:59:60.500+00" := by decide +kernel
  have hlast : ¬(timestamp leapSecond).LeapsEarly := by
    rintro ⟨m, hm, -, hsecond⟩
    obtain rfl := Value.timestamp.inj (hm.resolve_left (by simp))
    exact hsecond rfl
  obtain ⟨hwrite, hread, hsame⟩ :=
    cast_text_cast.1 (timestamp leapSecond) .timestamp (by decide) rfl
  exact ⟨by decide, rfl, hlast, htext ▸ hwrite, htext ▸ hsame.mpr hlast ▸ hread⟩

/-- Half a second into a leap second after 12:00:30. -/
def noonLeapSecond : Moment := ⟨⟨2016, 12, 31, by decide⟩, ⟨12, 0, 30, 1500000000, by decide⟩⟩

/-- The text of a leap second after second 30 is that of second 31, which is another value. -/
theorem leap_second_reads_as_next :
    let next : Moment := ⟨⟨2016, 12, 31, by decide⟩, ⟨12, 0, 31, 500000000, by decide⟩⟩
    (datetime noonLeapSecond).cast .string = .ok (.string "2016-12-31 12:00:31.500") ∧
      (string "2016-12-31 12:00:31.500").cast .datetime = .ok (.datetime next) ∧
      datetime noonLeapSecond ≠ .datetime next := by
  intro next
  have htext : (datetime noonLeapSecond).render = "2016-12-31 12:00:31.500" := by decide +kernel
  have hread : readAs? (datetime noonLeapSecond).render .datetime = some (.datetime next) :=
    readAs?_render (by decide) rfl
  have hnext : noonLeapSecond ≠ next := by decide
  refine ⟨htext ▸ cast_string rfl (by simp [scalarType?]), ?_,
    fun h => hnext (Value.datetime.inj h)⟩
  exact cast_of_readAs? (by decide) (htext ▸ hread)

end Value

end ColumnarSql
