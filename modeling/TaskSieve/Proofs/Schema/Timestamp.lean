import TaskSieve.Calendar.Print
import TaskSieve.Proofs.Calendar.Iso
import TaskSieve.Proofs.Number.Layout
import TaskSieve.Proofs.Text.Blank
import TaskSieve.Schema.Timestamp

set_option autoImplicit false

/-! # Written stamps are read back

A stamp is read back from its short form as the same stamp, whatever its fraction of a second and
its offset, if that is one of whole minutes: `timestamp_shortText`. Each group of digits has a fixed
width, which the number in it does not exceed. -/

namespace TaskSieve.Schema.Timestamp

open TaskSieve.Calendar
open TaskSieve.Calendar.Iso (digits? digits?_append)

/-! ## Groups of digits -/

theorem length_paddedText {width n : Nat} (hwidth : 0 < width) (h : n < 10 ^ width) :
    (paddedText width n).toList.length = width := by
  have hlength := (Nat.length_toDigits_le_iff (b := 10) (by decide) hwidth).2 h
  rw [paddedText, String.toList_ofList, List.length_append, List.length_replicate]
  omega

/-- A padded number fills its group of digits. -/
theorem digits?_paddedText (width n : Nat) (hwidth : 0 < width) (h : n < 10 ^ width)
    (rest : List Char) : digits? width ((paddedText width n).toList ++ rest) = some (n, rest) := by
  rw [digits?_append (length_paddedText hwidth h) (Decimal.isDigits_paddedText width n).all,
    Decimal.digitsValue_paddedText]

/-! ## Dates -/

/-- A date that exists is read back. -/
theorem date?_text {d : CivilDate} (h : d.isValid = true) (rest : List Char) :
    date? (d.text.toList ++ rest) = some (d.dayNumber, rest) := by
  obtain ⟨-, hyear, hfirst, hday⟩ := CivilDate.isValid_iff.1 h
  obtain ⟨-, hmonth, hlast⟩ := CivilDate.daysInMonth_bounds hfirst hday
  have year (rest : List Char) := digits?_paddedText 4 d.year (by decide)
    (Nat.lt_succ_of_le hyear) rest
  have month (rest : List Char) := digits?_paddedText 2 d.month (by decide) (by omega) rest
  have day := digits?_paddedText 2 d.day (by decide) (by omega) rest
  have htext : d.text.toList ++ rest = (paddedText 4 d.year).toList ++ '-' ::
      ((paddedText 2 d.month).toList ++ '-' :: ((paddedText 2 d.day).toList ++ rest)) := by
    simp [CivilDate.text]
  rw [htext, date?, year]
  simp only [Option.bind_eq_bind, Option.bind_some, skip?, BEq.rfl, ↓reduceIte, month, day]
  exact if_pos h

/-! ## Times -/

/-- Whether a text can stand after a time of day: it is empty, or starts with what is neither a
digit nor the mark of a fraction. -/
def EndsTime (rest : List Char) : Prop :=
  ∀ c ∈ rest.head?, c.isDigit = false ∧ c ≠ '.' ∧ c ≠ ','

/-- The seconds and the fraction of a time of day. -/
def secondsText (seconds micros : Nat) : List Char :=
  (paddedText 2 seconds).toList ++ if micros = 0 then [] else '.' :: (paddedText 6 micros).toList

theorem seconds?_secondsText (seconds micros : Nat) (hseconds : seconds < 60)
    (hmicros : micros < 1000000) {rest : List Char} (ends : EndsTime rest) :
    seconds? (secondsText seconds micros ++ rest) = some (seconds * 1000000 + micros, rest) := by
  have digits := digits?_paddedText 2 seconds (by decide) (by omega)
  have hlate : ¬ 59 < seconds := by omega
  rw [secondsText, List.append_assoc, seconds?, digits]
  simp only [Option.bind_eq_bind, Option.bind_some, if_neg hlate]
  by_cases hzero : micros = 0
  · rw [if_pos hzero, List.nil_append]
    cases rest with
    | nil => simp [hzero]
    | cons c tail => simp [hzero, (ends c rfl).2]
  · have fraction := Decimal.isDigits_paddedText 6 micros
    have hlength : (paddedText 6 micros).toList.length = 6 := length_paddedText (by decide) hmicros
    have hstop : ∀ c ∈ rest.head?, c.isDigit = false := fun c hc => (ends c hc).1
    simp [hzero, Text.takeWhile_append_of_head? fraction.all hstop,
      Text.dropWhile_append_of_head? fraction.all hstop, fraction.ne_nil,
      List.take_of_length_le (Nat.le_of_eq hlength), hlength,
      Decimal.digitsValue_paddedText]

theorem toList_timeText (ticks : Nat) :
    (timeText ticks).toList = (paddedText 2 (ticks / 1000000 / 3600)).toList ++ ':' ::
      ((paddedText 2 (ticks / 1000000 / 60 % 60)).toList ++ ':' ::
        secondsText (ticks / 1000000 % 60) (ticks % 1000000)) := by
  rw [timeText, secondsText]
  by_cases hzero : ticks % 1000000 = 0 <;> simp [hzero]

/-- A time of day is read back, in front of what can stand after it. -/
theorem time?_timeText {ticks : Nat} (h : ticks < 86400000000) {rest : List Char}
    (ends : EndsTime rest) : time? ((timeText ticks).toList ++ rest) = some (ticks, rest) := by
  have hours := digits?_paddedText 2 (ticks / 1000000 / 3600) (by decide) (by omega)
  have minutes := digits?_paddedText 2 (ticks / 1000000 / 60 % 60) (by decide) (by omega)
  have seconds := seconds?_secondsText (ticks / 1000000 % 60) (ticks % 1000000) (by omega)
    (by omega) ends
  have hlate : ¬ (23 < ticks / 1000000 / 3600 ∨ 59 < ticks / 1000000 / 60 % 60) := by omega
  rw [toList_timeText]
  simp only [List.append_assoc, List.cons_append, time?, hours, Option.bind_eq_bind,
    Option.bind_some, skip?, BEq.rfl, ↓reduceIte, minutes, if_neg hlate, seconds,
    Option.some.injEq, Prod.mk.injEq, and_true]
  omega

/-! ## Offsets -/

/-- An offset of whole minutes, less than a day in size. -/
def IsOffset (offset : Int) : Prop := ∃ m : Int, m.natAbs < 1440 ∧ offset = m * minuteTicks

theorem isOffset_zero : IsOffset 0 := ⟨0, by decide, rfl⟩

/-- What is written of an offset of whole minutes: its letter if it is none, or else its sign, its
hours and its minutes. -/
theorem toList_shortOffsetText {m : Int} {offset : Int} (h : offset = m * minuteTicks) :
    (shortOffsetText offset).toList = if m = 0 then ['Z'] else
      (if m < 0 then '-' else '+') :: ((paddedText 2 (m.natAbs / 60)).toList ++
        ':' :: (paddedText 2 (m.natAbs % 60)).toList) := by
  have hseconds : offset / secondTicks = 60 * m := by
    rw [h, minuteTicks, secondTicks]
    omega
  have hminutes : (60 * m).natAbs / 60 = m.natAbs := by omega
  have hzero : 60 * m = 0 ↔ m = 0 := by omega
  have hnegative : 60 * m < 0 ↔ m < 0 := by omega
  rw [shortOffsetText, hseconds]
  simp only [hminutes, hzero, hnegative]
  split
  · rfl
  · split <;> simp

/-- An offset is read back. -/
theorem offset?_shortOffsetText {offset : Int} (h : IsOffset offset) :
    offset? (shortOffsetText offset).toList = some (some offset) := by
  obtain ⟨m, hsize, h⟩ := h
  rw [toList_shortOffsetText h]
  split
  · next hzero =>
    rw [h, hzero]
    rfl
  next hzero =>
  have hours := digits?_paddedText 2 (m.natAbs / 60) (by decide) (by omega)
  have minutes := digits?_paddedText 2 (m.natAbs % 60) (by decide) (by omega) []
  rw [List.append_nil] at minutes
  have hday : minuteTicks = 60000000 := rfl
  have hlate : ¬ 23 < m.natAbs / 60 := by omega
  have hlate' : ¬ 59 < m.natAbs % 60 := by omega
  split
  · next hnegative =>
    rw [offset?.eq_4 _ _ (by simp) (by simp)]
    simp [hours, minutes, hlate, hlate', h, hday, -Nat.cast_natAbs]
    omega
  · next hnegative =>
    rw [offset?.eq_4 _ _ (by simp) (by simp)]
    simp [hours, minutes, hlate, hlate', h, hday, -Nat.cast_natAbs]
    omega

/-! ## Stamps -/

/-- A stamp that a text can write: a reading in the years 1 to 9999, without an offset or with one of
whole minutes. -/
structure IsWritten (s : Stamp) : Prop where
  range : Stamp.inRange s.ticks = true
  offset : ∀ o ∈ s.offset, IsOffset o

/-- Whether a stamp is the reading of a clock in universal time, in the years 1 to 9999. -/
def IsUniversal (s : Stamp) : Prop := s.offset = some 0 ∧ Stamp.inRange s.ticks = true

theorem IsUniversal.isWritten {s : Stamp} (h : IsUniversal s) : IsWritten s where
  range := h.2
  offset := by
    intro o ho
    rw [h.1] at ho
    obtain rfl := Option.mem_some_iff.1 ho
    exact isOffset_zero

/-- The offset at the end of a stamp's short form; nothing is written for a clock without one. -/
def zoneText (offset : Option Int) : List Char := ((offset.map shortOffsetText).getD "").toList

theorem toList_shortText (s : Stamp) : s.shortText.toList =
    s.date.text.toList ++ 'T' :: ((timeText s.timeOfDay).toList ++ zoneText s.offset) := by
  simp [Stamp.shortText, Stamp.clockText, zoneText]

theorem offset?_zoneText {offset : Option Int} (h : ∀ o ∈ offset, IsOffset o) :
    offset? (zoneText offset) = some offset := by
  cases offset with
  | none => rfl
  | some o => exact offset?_shortOffsetText (h o rfl)

theorem endsTime_zoneText {offset : Option Int} (h : ∀ o ∈ offset, IsOffset o) :
    EndsTime (zoneText offset) := by
  cases offset with
  | none => exact fun c hc => absurd hc (by simp [zoneText])
  | some o =>
    obtain ⟨m, -, ho⟩ := h o rfl
    have htext : zoneText (some o) = _ := toList_shortOffsetText ho
    rw [htext, EndsTime]
    split
    · simp
    · split <;> simp

/-- The day and the time of day that a stamp in the years 1 to 9999 shows make it up. -/
theorem parts_of_inRange {s : Stamp} (h : Stamp.inRange s.ticks = true) :
    s.dayNumber.toNat < dayCount ∧ s.timeOfDay < 86400000000 ∧
      Stamp.ofParts s.dayNumber.toNat s.timeOfDay s.offset = s := by
  obtain ⟨ticks, offset⟩ := s
  have hday : dayTicks = 86400000000 := rfl
  simp only [Stamp.inRange, Bool.and_eq_true, decide_eq_true_eq] at h
  obtain ⟨hlow, hhigh⟩ := h
  refine ⟨?_, ?_, ?_⟩
  · simp only [Stamp.dayNumber, hday] at hhigh ⊢
    omega
  · simp only [Stamp.timeOfDay, hday]
    omega
  · simp only [Stamp.ofParts, Stamp.dayNumber, Stamp.timeOfDay, hday, Stamp.mk.injEq, and_true]
    omega

/-- A stamp is read back from its short form. -/
theorem written?_shortText {s : Stamp} (h : IsWritten s) :
    written? s.shortText.toList = some s := by
  obtain ⟨hnumber, htime, hparts⟩ := parts_of_inRange h.range
  have hdate := date?_text (CivilDate.isValid_ofDayNumber hnumber)
    ('T' :: ((timeText s.timeOfDay).toList ++ zoneText s.offset))
  rw [CivilDate.dayNumber_ofDayNumber] at hdate
  rw [toList_shortText, written?, Stamp.date, hdate]
  simp [isSeparator, time?_timeText htime (endsTime_zoneText h.offset),
    offset?_zoneText h.offset, hparts]

end TaskSieve.Schema.Timestamp

namespace TaskSieve.Schema

/-- A stamp is read back from the text that payloads and files carry. -/
theorem timestamp_shortText {s : Calendar.Stamp} (h : Timestamp.IsWritten s) :
    timestamp (.text s.shortText) = .valid s := by
  rw [timestamp, Timestamp.ofText?, Timestamp.written?_shortText h]
  rfl

end TaskSieve.Schema
