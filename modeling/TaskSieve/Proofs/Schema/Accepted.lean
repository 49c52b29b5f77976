import Mathlib.Tactic.NormNum
import TaskSieve.Proofs.Number.Scaling
import TaskSieve.Proofs.Schema.Timestamp

set_option autoImplicit false

/-! # What is accepted as a time stamp

A text that is accepted as a date and a time starts with a date that exists, and what was read from
it can be written again; so can every moment that a number counts: `isWritten_of_timestamp`. Of the
texts without a minus in front, only those that start with a date can stand for a day before 1970:
`prefix_or_epochDay_le`. -/

namespace TaskSieve.Calendar.Iso

open TaskSieve.Text (digitsValue)

/-! ## Groups of digits -/

/-- What is split off as a group of digits is that many digits with their value. -/
theorem digits?_eq_some_iff {count n : Nat} {cs rest : List Char} :
    digits? count cs = some (n, rest) ↔ ∃ ds, ds.length = count ∧ (∀ c ∈ ds, c.isDigit = true) ∧
      cs = ds ++ rest ∧ n = digitsValue ds := by
  constructor
  · intro h
    unfold digits? at h
    dsimp only at h
    split at h
    · next hds =>
      cases h
      exact ⟨cs.take count, hds.1, List.all_eq_true.1 hds.2, (List.take_append_drop count cs).symm,
        rfl⟩
    · cases h
  · rintro ⟨ds, hlength, hall, rfl, rfl⟩
    exact digits?_append hlength hall rest

theorem digitsValue_concat {ds : List Char} {c : Char} (h : c.isDigit = true) :
    digitsValue (ds ++ [c]) = 10 * digitsValue ds + (c.toNat - '0'.toNat) := by
  rw [digitsValue, List.foldl_append, List.foldl_cons, List.foldl_nil,
    Text.digitValue?_of_isDigit h]
  rfl

theorem toNat_of_isDigit {c : Char} (h : c.isDigit = true) :
    '0'.toNat ≤ c.toNat ∧ c.toNat - '0'.toNat < 10 := by
  simp only [Char.isDigit, Bool.and_eq_true, decide_eq_true_eq, UInt32.le_iff_toNat_le,
    ge_iff_le] at h
  have hlow : '0'.toNat ≤ c.toNat := h.1
  have hhigh : c.toNat ≤ '9'.toNat := h.2
  have hzero : '0'.toNat = 48 := rfl
  have hnine : '9'.toNat = 57 := rfl
  omega

/-- Groups of one width with one value are the same digits. -/
theorem eq_of_digitsValue_eq {ds es : List Char} (hds : ∀ c ∈ ds, c.isDigit = true)
    (hes : ∀ c ∈ es, c.isDigit = true) (hlength : ds.length = es.length)
    (hvalue : digitsValue ds = digitsValue es) : ds = es := by
  induction ds using List.reverseRecOn generalizing es with
  | nil => exact (List.length_eq_zero_iff.1 hlength.symm).symm
  | append_singleton ds c ih =>
    obtain rfl | ⟨es, e, rfl⟩ := List.eq_nil_or_concat' es
    · simp at hlength
    have hc : c.isDigit = true := hds c (by simp)
    have he : e.isDigit = true := hes e (by simp)
    have hcvalue := toNat_of_isDigit hc
    have hevalue := toNat_of_isDigit he
    rw [digitsValue_concat hc, digitsValue_concat he] at hvalue
    have hchar : c = e := Char.toNat_inj.1 (by omega)
    have hsame : ds = es := ih (fun d hd => hds d (List.mem_append_left _ hd))
      (fun d hd => hes d (List.mem_append_left _ hd)) (by simpa using hlength) (by omega)
    rw [hchar, hsame]

/-- A date has one spelling. -/
theorem DateText.eq_text {date : CivilDate} {cs : List Char} (h : DateText date cs) :
    cs = date.text.toList := by
  obtain ⟨year, month, day, digits⟩ := h
  next y m d =>
  simp only [List.mem_append] at digits
  have group {ds : List Char} {width : Nat} (hwidth : 0 < width) (hlength : ds.length = width)
      (hds : ∀ c ∈ ds, c.isDigit = true) : ds = (paddedText width (digitsValue ds)).toList := by
    have hlt : digitsValue ds < 10 ^ width := hlength ▸ Text.digitsValue_lt ds
    refine eq_of_digitsValue_eq hds (Decimal.isDigits_paddedText width _).all ?_ ?_
    · rw [hlength, Schema.Timestamp.length_paddedText hwidth hlt]
    · rw [Decimal.digitsValue_paddedText]
  have hy := group (by decide) year fun c hc => digits c (.inl (.inl hc))
  have hm := group (by decide) month fun c hc => digits c (.inl (.inr hc))
  have hd := group (by decide) day fun c hc => digits c (.inr hc)
  simp only [CivilDate.text, String.toList_append]
  rw [← hy, ← hm, ← hd]
  simp

end TaskSieve.Calendar.Iso

namespace TaskSieve.Schema.Timestamp

open TaskSieve.Calendar
open TaskSieve.Calendar.Iso (digits? DateText digits?_eq_some_iff)

/-! ## Texts -/

theorem skip?_eq_some_iff {p : Char → Bool} {cs rest : List Char} :
    skip? p cs = some rest ↔ ∃ c, p c = true ∧ cs = c :: rest := by
  cases cs with
  | nil => simp [skip?]
  | cons c tail =>
    rw [skip?]
    by_cases h : p c = true <;> simp [h]

/-- What is split off as a date is the text of a date that exists. -/
theorem date?_eq_some {cs rest : List Char} {day : Nat} (h : date? cs = some (day, rest)) :
    ∃ date text, DateText date text ∧ date.isValid = true ∧ cs = text ++ rest ∧
      day = date.dayNumber := by
  simp only [date?, Option.bind_eq_bind, Option.bind_eq_some_iff, Prod.exists] at h
  obtain ⟨_, _, hyear, _, hfirst, _, _, hmonth, _, hsecond, _, _, hday, h⟩ := h
  obtain ⟨y, hy, ydigits, rfl, rfl⟩ := digits?_eq_some_iff.1 hyear
  obtain ⟨_, hyphen, rfl⟩ := skip?_eq_some_iff.1 hfirst
  obtain rfl := beq_iff_eq.1 hyphen
  obtain ⟨m, hm, mdigits, rfl, rfl⟩ := digits?_eq_some_iff.1 hmonth
  obtain ⟨_, hyphen, rfl⟩ := skip?_eq_some_iff.1 hsecond
  obtain rfl := beq_iff_eq.1 hyphen
  obtain ⟨d, hd, ddigits, rfl, rfl⟩ := digits?_eq_some_iff.1 hday
  split at h
  · next hvalid =>
    cases h
    refine ⟨_, _, .mk hy hm hd ?_, hvalid, by simp, rfl⟩
    simp only [List.mem_append]
    rintro c ((hc | hc) | hc)
    · exact ydigits c hc
    · exact mdigits c hc
    · exact ddigits c hc
  · cases h

/-- Seconds and their fraction are less than a minute. -/
theorem seconds?_lt {cs rest : List Char} {micros : Nat} (h : seconds? cs = some (micros, rest)) :
    micros < 60000000 := by
  simp only [seconds?, Option.bind_eq_bind, Option.bind_eq_some_iff, Prod.exists] at h
  obtain ⟨seconds, tail, -, h⟩ := h
  split at h
  · cases h
  next hlate =>
  split at h
  · next c tail =>
    split at h
    · split at h
      · cases h
      · -- six digits at most count, so the fraction stays below a second
        cases h
        have hlength := List.length_take_le 6 (tail.takeWhile Char.isDigit)
        generalize (tail.takeWhile Char.isDigit).take 6 = shown at hlength ⊢
        have hlt := Nat.mul_lt_mul_of_pos_right (Text.digitsValue_lt shown)
          (Nat.pow_pos (n := 6 - shown.length) (by decide : 0 < 10))
        rw [← Nat.pow_add, Nat.add_sub_cancel' hlength] at hlt
        simp only [Nat.pow_eq] at hlt ⊢
        omega
    · cases h
      omega
  · cases h
    omega

/-- A time of day is less than a day. -/
theorem time?_lt {cs rest : List Char} {ticks : Nat} (h : time? cs = some (ticks, rest)) :
    ticks < 86400000000 := by
  simp only [time?, Option.bind_eq_bind, Option.bind_eq_some_iff, Prod.exists] at h
  obtain ⟨hours, _, -, _, -, minutes, _, -, h⟩ := h
  split at h
  · cases h
  next hlate =>
  split at h
  · obtain ⟨⟨micros, tail⟩, hmicros, h⟩ := Option.bind_eq_some_iff.1 h
    cases h
    have := seconds?_lt hmicros
    omega
  · cases h
    omega

theorem isOffset_of_parts (negative : Prop) [Decidable negative] {hours minutes : Nat}
    (hhours : hours ≤ 23) (hminutes : minutes ≤ 59) {size : Int}
    (hsize : size = (hours * 60 + minutes : Nat) * minuteTicks) :
    IsOffset (if negative then -size else size) := by
  rw [hsize]
  split
  · exact ⟨-(hours * 60 + minutes : Nat), by omega, by rw [Int.neg_mul]⟩
  · exact ⟨(hours * 60 + minutes : Nat), by omega, rfl⟩

/-- An offset that is read is one of whole minutes, less than a day in size. -/
theorem isOffset_of_offset? {cs : List Char} {offset : Option Int}
    (h : offset? cs = some offset) : ∀ o ∈ offset, IsOffset o := by
  unfold offset? at h
  split at h
  · cases h
    simp
  · cases h
    simpa using isOffset_zero
  · cases h
    simpa using isOffset_zero
  · simp only [Option.bind_eq_bind] at h
    split at h
    swap
    split at h
    -- behind each of the signs stand the same parts
    all_goals simp only [Option.bind_some, Option.bind_none, Option.bind_eq_some_iff, Prod.exists,
      reduceCtorEq] at h
    all_goals
      obtain ⟨hours, _, -, minutes, rest, -, h⟩ := h
      split at h
      · cases h
      next hlate =>
      simp only [Bool.or_eq_true, decide_eq_true_eq, not_or, Nat.not_lt] at hlate
      intro o ho
      rw [← Option.some.inj h, Option.mem_some_iff] at ho
      exact ho ▸ isOffset_of_parts _ hlate.1.2 hlate.2 rfl

/-- What is accepted as a date and a time starts with the text of its date. -/
theorem written?_eq_some {cs : List Char} {s : Stamp} (h : written? cs = some s) :
    ∃ date text rest, DateText date text ∧ date.isValid = true ∧ cs = text ++ rest ∧
      s.dayNumber = date.dayNumber ∧ IsWritten s := by
  have hday : dayTicks = 86400000000 := rfl
  simp only [written?, Option.bind_eq_bind, Option.bind_eq_some_iff, Prod.exists] at h
  obtain ⟨day, rest, hdate, h⟩ := h
  obtain ⟨date, text, htext, hvalid, rfl, rfl⟩ := date?_eq_some hdate
  have hcount := CivilDate.dayNumber_lt_dayCount hvalid
  -- a time within the day leaves the day as it is
  have stamped {ticks : Nat} {offset : Option Int} (hticks : ticks < 86400000000)
      (hoffset : ∀ o ∈ offset, IsOffset o) :
      (Stamp.ofParts date.dayNumber ticks offset).dayNumber = date.dayNumber ∧
        IsWritten (Stamp.ofParts date.dayNumber ticks offset) := by
    refine ⟨?_, ?_, hoffset⟩
    · simp only [Stamp.dayNumber, Stamp.ofParts, hday]
      omega
    · simp only [Stamp.inRange, Stamp.ofParts, hday, Bool.and_eq_true, decide_eq_true_eq]
      omega
  refine ⟨date, text, rest, htext, hvalid, rfl, ?_⟩
  split at h
  · cases h
    have hmidnight : ∀ o ∈ (none : Option Int), IsOffset o := by simp
    simpa [Stamp.ofParts, Stamp.ofDay] using stamped (by decide : 0 < 86400000000) hmidnight
  split at h
  · cases h
  · simp only [Option.bind_eq_some_iff, Prod.exists] at h
    obtain ⟨ticks, tail, hticks, offset, hoffset, h⟩ := h
    cases h
    exact stamped (time?_lt hticks) (isOffset_of_offset? hoffset)

/-! ## Numbers -/

theorem isWritten_of_afterEpoch? {micros : Int} {s : Stamp} (h : afterEpoch? micros = some s) :
    IsWritten s := by
  rw [afterEpoch?] at h
  split at h
  · next hrange =>
    cases h
    exact IsUniversal.isWritten ⟨rfl, hrange⟩
  · cases h

theorem isWritten_of_ofNumber? {x : Binary64} {s : Stamp} (h : ofNumber? x = some s) :
    IsWritten s := by
  obtain ⟨q, -, hq⟩ := Option.bind_eq_some_iff.1 h
  exact isWritten_of_afterEpoch? hq

theorem isWritten_of_ofDigits? {cs : List Char} {s : Stamp} (h : ofDigits? cs = some s) :
    IsWritten s := by
  unfold ofDigits? at h
  dsimp only at h
  split at h
  · split at h
    · cases h
    · exact isWritten_of_afterEpoch? h
  · split at h
    · cases h
    · exact isWritten_of_ofNumber? h
  · cases h

/-! ## The day of a text -/

/-- The date of a reading in the years 1 to 9999 is written and read as its day. -/
theorem date?_date_text {s : Stamp} (h : Stamp.inRange s.ticks = true) (rest : List Char) :
    date? (s.date.text.toList ++ rest) = some (s.dayNumber.toNat, rest) := by
  have hnumber := (parts_of_inRange h).1
  have hread := date?_text (CivilDate.isValid_ofDayNumber hnumber) rest
  rwa [CivilDate.dayNumber_ofDayNumber] at hread

theorem epochDay_le_of_afterEpoch? {micros : Int} {s : Stamp} (h : afterEpoch? micros = some s)
    (hmicros : 0 ≤ micros) : epochDay ≤ s.dayNumber := by
  have hday : dayTicks = 86400000000 := rfl
  rw [afterEpoch?] at h
  split at h
  · cases h
    simp only [Stamp.dayNumber, hday]
    omega
  · cases h

theorem epochDay_le_of_ofNumber? {x : Binary64} {s : Stamp} (h : ofNumber? x = some s)
    (hx : x.isNegative = false) : epochDay ≤ s.dayNumber := by
  obtain ⟨q, hq, h⟩ := Option.bind_eq_some_iff.1 h
  have hfloor : 0 ≤ q.floor := Rat.le_floor_iff.2 (by exact_mod_cast Binary64.toRat?_nonneg hx hq)
  have hrest : 0 ≤ q - q.floor := (Rat.le_iff_sub_nonneg _ _).1 (Rat.floor_le q)
  -- neither the part below a unit nor the unit has a minus
  have hpart : (Binary64.ofRat (q - q.floor) * (unitMicros q : Binary64)).isNegative = false := by
    apply Binary64.isNegative_mul
    · rw [Binary64.ofRat, Binary64.isNegative_ofQuotient, decide_eq_false_iff_not]
      exact Int.not_lt.2 (Rat.num_nonneg.2 hrest)
    · show (Binary64.ofInt _).isNegative = false
      rw [Binary64.ofInt, Binary64.isNegative_ofQuotient, decide_eq_false_iff_not]
      exact Int.not_lt.2 (Int.natCast_nonneg _)
  have hvalue : 0 ≤ (Binary64.ofRat (q - q.floor) * (unitMicros q : Binary64)).toRat?.getD 0 := by
    cases hq : (Binary64.ofRat (q - q.floor) * (unitMicros q : Binary64)).toRat? with
    | none => exact le_refl 0
    | some p => exact Binary64.toRat?_nonneg hpart hq
  refine epochDay_le_of_afterEpoch? h (Int.add_nonneg (Int.mul_nonneg hfloor
    (Int.natCast_nonneg _)) (Rat.le_floor_iff.2 ?_))
  exact Rat.add_nonneg hvalue (by norm_num)

theorem epochDay_le_of_ofDigits? {cs : List Char} {s : Stamp} (h : ofDigits? cs = some s)
    (hsign : cs.head? ≠ some '-') : epochDay ≤ s.dayNumber := by
  have hplus : (Decimal.takeSign cs).1 = false := by
    unfold Decimal.takeSign
    split
    · exact absurd rfl hsign
    · rfl
    · rfl
  unfold ofDigits? at h
  simp only [hplus, Bool.false_eq_true, if_false] at h
  split at h
  · split at h
    · cases h
    · exact epochDay_le_of_afterEpoch? h (by positivity)
  · split at h
    · cases h
    · exact epochDay_le_of_ofNumber? h (Decimal.isNegative_toBinary64 _)
  · cases h

/-- An accepted text without a minus in front starts with the date of what it is read as, unless
that is a moment since the start of 1970. -/
theorem prefix_or_epochDay_le {cs : List Char} {s : Stamp} (h : ofText? cs = some s)
    (hsign : cs.head? ≠ some '-') :
    (∃ rest, cs = s.date.text.toList ++ rest) ∨ epochDay ≤ s.dayNumber := by
  rw [ofText?, Option.or_eq_some_iff] at h
  rcases h with h | ⟨-, h⟩
  · obtain ⟨date, text, rest, htext, hvalid, rfl, hday, -⟩ := written?_eq_some h
    left
    have hdate : s.date = date := by
      rw [Stamp.date, hday, Int.toNat_natCast]
      exact CivilDate.ofDayNumber_dayNumber hvalid
    exact ⟨rest, by rw [hdate, htext.eq_text]⟩
  · exact .inr (epochDay_le_of_ofDigits? h hsign)

/-! ## Values -/

theorem timestamp_text_eq_valid_iff {text : String} {s : Stamp} :
    timestamp (.text text) = .valid s ↔ ofText? text.toList = some s := by
  rw [timestamp]
  cases ofText? text.toList <;> simp [Checked.complain]

/-- What is accepted as a time stamp can be written, unless it was a stamp or a day before. -/
theorem isWritten_of_timestamp {d : Datum} {s : Stamp} (h : timestamp d = .valid s)
    (hstamp : ∀ t, d ≠ .stamp t) (hday : ∀ n, d ≠ .day n) : IsWritten s := by
  cases d with
  | stamp t => exact absurd rfl (hstamp t)
  | day n => exact absurd rfl (hday n)
  | text t =>
    rw [timestamp_text_eq_valid_iff, ofText?, Option.or_eq_some_iff] at h
    rcases h with h | ⟨-, h⟩
    · obtain ⟨_, _, _, _, _, _, _, hwritten⟩ := written?_eq_some h
      exact hwritten
    · exact isWritten_of_ofDigits? h
  | int n =>
    rw [timestamp] at h
    split at h
    · cases h
    split at h
    · next hread =>
      cases h
      exact isWritten_of_afterEpoch? hread
    · cases h
  | num x =>
    rw [timestamp] at h
    split at h
    · next hread =>
      cases h
      exact isWritten_of_ofNumber? hread
    · cases h
  | null | bool | list | record => cases h

end TaskSieve.Schema.Timestamp
