import TaskSieve.Proofs.Calendar.Iso
import TaskSieve.Proofs.Text.Blank

set_option autoImplicit false

/-! # Times are read

A time of day in the long form is `HH:MM:SS` in ASCII digits, with up to six digits of a fraction
behind a point, and an offset in the long form is a sign and `HH:MM`. Behind a date they are read as
the stamp that they write. -/

namespace TaskSieve.Calendar.Iso

open TaskSieve.Text (digitsValue)

/-! ## Spellings -/

/-- Two digits and the number that they write. -/
structure Pair (n : Nat) (cs : List Char) : Prop where
  length : cs.length = 2
  digits : ∀ c ∈ cs, c.isDigit = true
  value : digitsValue cs = n

/-- The fraction of a second, and its value in microseconds. -/
inductive FractionText : Nat → List Char → Prop
  | whole : FractionText 0 []
  | digits {ds : List Char} (ne_nil : ds ≠ []) (length : ds.length ≤ 6)
      (digits : ∀ c ∈ ds, c.isDigit = true) :
      FractionText (digitsValue ds * Nat.pow 10 (6 - ds.length)) ('.' :: ds)

/-- A time of day, and what it reads. -/
inductive ClockText : Reading → List Char → Prop
  | mk {hours minutes seconds micros : Nat} {h m s f : List Char} (hour : Pair hours h)
      (minute : Pair minutes m) (second : Pair seconds s) (fraction : FractionText micros f) :
      ClockText ⟨hours, minutes, seconds, micros, false⟩ (h ++ ':' :: (m ++ ':' :: (s ++ f)))

/-- The size of an offset, by its sign, its hours and its minutes. -/
def offsetTicks (negative : Bool) (hours minutes : Nat) : Int :=
  if negative then -((hours * 60 + minutes : Nat) * minuteTicks)
  else (hours * 60 + minutes : Nat) * minuteTicks

/-- An offset: whether it is negative, its hours and its minutes. -/
inductive OffsetText : Bool → Nat → Nat → List Char → Prop
  | mk {hours minutes : Nat} {sign : Char} {h m : List Char} (signed : sign = '+' ∨ sign = '-')
      (hour : Pair hours h) (minute : Pair minutes m) :
      OffsetText (sign == '-') hours minutes (sign :: (h ++ ':' :: m))

/-! ## Readings -/

theorem Pair.digits?_append {n : Nat} {cs : List Char} (h : Pair n cs) (rest : List Char) :
    digits? 2 (cs ++ rest) = some (n, rest) := by
  rw [Iso.digits?_append h.length h.digits, h.value]

theorem Pair.exists_cons {n : Nat} {cs : List Char} (h : Pair n cs) :
    ∃ c d, cs = [c, d] ∧ c.isDigit = true ∧ d.isDigit = true := by
  obtain ⟨c, cs, rfl⟩ := List.exists_cons_of_length_eq_add_one h.length
  obtain ⟨d, rfl⟩ := List.length_eq_one_iff.1 (Nat.succ.inj h.length)
  exact ⟨c, d, rfl, h.digits c (by simp), h.digits d (by simp)⟩

theorem Pair.append_ne_nil {n : Nat} {cs : List Char} (h : Pair n cs) (rest : List Char) :
    cs ++ rest ≠ [] := by
  obtain ⟨c, d, rfl, -⟩ := h.exists_cons
  exact List.cons_ne_nil _ _

/-- Pairs that colons join are read one by one. -/
theorem readPairs?_colon {n : Nat} {cs more : List Char} (h : Pair n cs) {colons : Option Bool}
    (hcolons : colons.getD true = true) (count : Nat) (hmore : more ≠ []) :
    readPairs? colons (count + 1) (cs ++ ':' :: more) =
      (readPairs? (some true) count more).map fun r => (n :: r.1, r.2) := by
  obtain ⟨c, more, rfl⟩ := List.exists_cons_of_ne_nil hmore
  rw [readPairs?, h.digits?_append]
  simp only [Option.bind_eq_bind, Option.bind_some, BEq.rfl, hcolons, Bool.and_self, ↓reduceIte]
  cases readPairs? (some true) count (c :: more) <;> rfl

/-- Behind the last pair there is nothing, or a point and the fraction. -/
theorem readPairs?_last {n micros : Nat} {cs f : List Char} (h : Pair n cs)
    (fraction : FractionText micros f) (count : Nat) :
    readPairs? (some true) (count + 1) (cs ++ f) = some ([n], !f.isEmpty, f.drop 1) := by
  rw [readPairs?, h.digits?_append]
  cases fraction with
  | whole => rfl
  | digits ne_nil length digits =>
    obtain ⟨d, ds, rfl⟩ := List.exists_cons_of_ne_nil ne_nil
    rfl

theorem readFraction?_eq {micros : Nat} {f : List Char} (fraction : FractionText micros f)
    (hf : f ≠ []) : readFraction? (f.drop 1) = some (micros, []) := by
  cases fraction with
  | whole => exact absurd rfl hf
  | digits ne_nil length digits =>
    rw [List.drop_one, List.tail_cons, readFraction?, List.take_of_length_le length,
      List.drop_of_length_le length]
    exact if_pos (List.all_eq_true.2 digits)

/-- A time of day is read. -/
theorem ClockText.readReading?_eq {r : Reading} {cs : List Char} (h : ClockText r cs) :
    readReading? cs = some r := by
  obtain ⟨hour, minute, second, fraction⟩ := h
  next h m s f =>
  rw [readReading?, readPairs?_colon hour rfl 2 (minute.append_ne_nil _),
    readPairs?_colon minute rfl 1 (second.append_ne_nil _), readPairs?_last second fraction 0]
  by_cases hf : f = []
  · subst hf
    cases fraction
    rfl
  · have hfraction := readFraction?_eq fraction hf
    rw [← List.isEmpty_iff, Bool.not_eq_true] at hf
    simp only [Option.map_some, Option.bind_eq_bind, Option.bind_some, hf, Bool.not_false, if_true,
      hfraction]
    rfl

/-- An offset of less than a day is read. -/
theorem readOffset?_eq {hours minutes : Nat} {h m : List Char} (hour : Pair hours h)
    (minute : Pair minutes m) (hhours : hours ≤ 23) (hminutes : minutes ≤ 59) (negative : Bool) :
    readOffset? negative (h ++ ':' :: m) = some (offsetTicks negative hours minutes) := by
  have hread : readReading? (h ++ ':' :: m) = some ⟨hours, minutes, 0, 0, false⟩ := by
    have hlast := readPairs?_last minute .whole 1
    have hne := minute.append_ne_nil []
    rw [List.append_nil] at hlast hne
    rw [readReading?, readPairs?_colon hour rfl 2 hne, hlast]
    rfl
  have hsize : ((Reading.ticks ⟨hours, minutes, 0, 0, false⟩ : Nat) : Int) =
      (hours * 60 + minutes : Nat) * minuteTicks := by
    simp only [Reading.ticks, minuteTicks, secondTicks]
    omega
  have hlate : ¬ dayTicks ≤ ((hours * 60 + minutes : Nat) : Int) * minuteTicks := by
    rw [dayTicks, hourTicks, minuteTicks, secondTicks]
    omega
  rw [readOffset?, hread, Option.bind_eq_bind, Option.bind_some]
  simp only [hsize, Bool.false_or, decide_eq_true_eq, if_neg hlate]
  split
  · next hnone =>
    obtain ⟨rfl, rfl⟩ : hours = 0 ∧ minutes = 0 := by
      rw [minuteTicks, secondTicks] at hnone
      omega
    cases negative <;> rfl
  · rfl

/-! ## Times -/

/-- Whether a reading is a time of day. -/
def Reading.IsTime (r : Reading) : Prop :=
  r.hours ≤ 23 ∧ r.minutes ≤ 59 ∧ r.seconds ≤ 59

/-- A time of day is written in digits, colons and points. -/
theorem ClockText.isDigit_or_mark {r : Reading} {cs : List Char} (h : ClockText r cs) :
    ∀ c ∈ cs, c.isDigit = true ∨ c = ':' ∨ c = '.' := by
  obtain ⟨hour, minute, second, fraction⟩ := h
  simp only [List.mem_append, List.mem_cons]
  rintro c (hc | rfl | hc | rfl | hc | hc)
  · exact .inl (hour.digits c hc)
  · exact .inr (.inl rfl)
  · exact .inl (minute.digits c hc)
  · exact .inr (.inl rfl)
  · exact .inl (second.digits c hc)
  · cases fraction with
    | whole => exact absurd hc List.not_mem_nil
    | digits ne_nil length digits =>
      rcases List.mem_cons.1 hc with rfl | hc
      · exact .inr (.inr rfl)
      · exact .inl (digits c hc)

/-- An offset is written in digits and a colon behind its sign. -/
theorem OffsetText.isDigit_or_mark {negative : Bool} {hours minutes : Nat} {cs : List Char}
    (h : OffsetText negative hours minutes cs) :
    ∀ c ∈ cs, c.isDigit = true ∨ c = '+' ∨ c = '-' ∨ c = ':' := by
  obtain ⟨signed, hour, minute⟩ := h
  simp only [List.mem_append, List.mem_cons]
  rintro c (rfl | hc | rfl | hc)
  · rcases signed with rfl | rfl
    · exact .inr (.inl rfl)
    · exact .inr (.inr (.inl rfl))
  · exact .inl (hour.digits c hc)
  · exact .inr (.inr (.inr rfl))
  · exact .inl (minute.digits c hc)

/-- A time of day and its offset are read. -/
theorem readTime?_eq {r : Reading} {clock zone : List Char} (h : ClockText r clock)
    (time : r.IsTime) {negative : Bool} {hours minutes : Nat} (offset : OffsetText negative hours minutes zone)
    (hhours : hours ≤ 23) (hminutes : minutes ≤ 59) :
    readTime? (clock ++ zone) = some (r.ticks, some (offsetTicks negative hours minutes)) := by
  obtain ⟨signed, hour, minute⟩ := offset
  next sign hh mm =>
  have hclock : ∀ c ∈ clock, (!(c == '+' || c == '-')) = true := by
    intro c hc
    rw [Bool.not_eq_true', Bool.or_eq_false_iff, beq_eq_false_iff_ne, beq_eq_false_iff_ne]
    constructor
    all_goals
      rintro rfl
      exact absurd (h.isDigit_or_mark _ hc) (by decide)
  have hstop : ∀ c ∈ (sign :: (hh ++ ':' :: mm)).head?, (!(c == '+' || c == '-')) = false := by
    intro c hc
    obtain rfl := Option.some.inj hc
    rcases signed with rfl | rfl <;> rfl
  have hlate : ¬ (23 < r.hours ∨ 59 < r.minutes ∨ 59 < r.seconds) := by
    obtain ⟨h₁, h₂, h₃⟩ := time
    omega
  simp only [readTime?, Text.takeWhile_append_of_head? hclock hstop,
    Text.dropWhile_append_of_head? hclock hstop, h.readReading?_eq, Option.bind_eq_bind,
    Option.bind_some, if_neg hlate, readOffset?_eq hour minute hhours hminutes]

/-! ## Stamps -/

/-- A date with a time behind it is read as the stamp that they write. -/
theorem DateText.read?_append {date : CivilDate} {cs : List Char} (h : DateText date cs)
    (hvalid : date.isValid = true) {time : List Char} {ticks : Nat} {offset : Option Int}
    (htime : readTime? time = some (ticks, offset)) (c : Char) :
    read? (cs ++ c :: time) = some (.ofParts date.dayNumber ticks offset) := by
  rw [read?, h.dateLength?_append]
  simp only [Option.bind_eq_bind, Option.bind_some]
  rw [List.take_left' h.length_eq, h.readDate?_eq hvalid, List.drop_left' h.length_eq]
  simp only [Option.bind_some, htime]

end TaskSieve.Calendar.Iso
