import TaskSieve.Proofs.Calendar.Clock
import TaskSieve.Proofs.Schema.Accepted

set_option autoImplicit false

/-! # Times in a schema

A date with a time and an offset in the long form is accepted only if all of its parts are in
range, and it stands for the stamp that they write: `written?_eq_some_of_clockText`. -/

namespace TaskSieve.Schema.Timestamp

open TaskSieve.Calendar
open TaskSieve.Calendar.Iso (DateText ClockText FractionText OffsetText Pair offsetTicks)

theorem date?_of_dateText {date : CivilDate} {cs : List Char} (h : DateText date cs)
    (rest : List Char) :
    date? (cs ++ rest) = if date.isValid then some (date.dayNumber, rest) else none := by
  obtain ⟨year, month, day, digits⟩ := h
  next y m d =>
  simp only [List.mem_append] at digits
  have hy := Iso.digits?_append year fun c hc => digits c (.inl (.inl hc))
  have hm := Iso.digits?_append month fun c hc => digits c (.inl (.inr hc))
  have hd := Iso.digits?_append day fun c hc => digits c (.inr hc)
  simp only [List.append_assoc, List.cons_append, date?, hy, hm, hd, skip?, BEq.rfl, if_true,
    Option.bind_eq_bind, Option.bind_some]

/-- The seconds and the fraction of a time of day are read. -/
theorem seconds?_of_pair {seconds micros : Nat} {s f rest : List Char} (second : Pair seconds s)
    (fraction : FractionText micros f) (ends : EndsTime rest) :
    seconds? (s ++ (f ++ rest)) =
      if 59 < seconds then none else some (seconds * 1000000 + micros, rest) := by
  rw [seconds?, second.digits?_append]
  simp only [Option.bind_eq_bind, Option.bind_some]
  by_cases hlate : 59 < seconds
  · rw [if_pos hlate, if_pos hlate]
  rw [if_neg hlate, if_neg hlate]
  cases fraction with
  | whole =>
    rw [List.nil_append, Nat.add_zero]
    cases rest with
    | nil => rfl
    | cons c tail =>
      obtain ⟨-, hpoint, hcomma⟩ := ends c rfl
      exact if_neg (not_or.2 ⟨hpoint, hcomma⟩)
  | @digits ds ne_nil length digits =>
    have hstop : ∀ c ∈ rest.head?, c.isDigit = false := fun c hc => (ends c hc).1
    simp [Text.takeWhile_append_of_head? digits hstop, Text.dropWhile_append_of_head? digits hstop,
      ne_nil, List.take_of_length_le length]

/-- A time of day is accepted only if it is one. -/
theorem time?_eq_some_of_clockText {r : Iso.Reading} {cs rest : List Char} (h : ClockText r cs)
    (ends : EndsTime rest) {p : Nat × List Char} (hread : time? (cs ++ rest) = some p) :
    r.IsTime ∧ p = (r.ticks, rest) := by
  obtain ⟨hour, minute, second, fraction⟩ := h
  next hours minutes seconds micros h m s f =>
  simp only [List.append_assoc, List.cons_append, time?, hour.digits?_append,
    minute.digits?_append, skip?, BEq.rfl, if_true, Option.bind_eq_bind, Option.bind_some,
    seconds?_of_pair second fraction ends] at hread
  split at hread
  · cases hread
  next hlate =>
  split at hread
  · cases hread
  next hlate' =>
  simp only [Option.bind_some, Option.some.injEq] at hread
  obtain ⟨hhours, hminutes⟩ := not_or.1 hlate
  refine ⟨⟨Nat.not_lt.1 hhours, Nat.not_lt.1 hminutes, Nat.not_lt.1 hlate'⟩, hread.symm.trans ?_⟩
  rw [Prod.mk.injEq]
  simp only [Iso.Reading.ticks, and_true]
  omega

/-- An offset is accepted only if it is less than a day. -/
theorem offset?_eq_some_of_offsetText {negative : Bool} {hours minutes : Nat} {cs : List Char}
    (h : OffsetText negative hours minutes cs) {offset : Option Int}
    (hread : offset? cs = some offset) :
    hours ≤ 23 ∧ minutes ≤ 59 ∧ offset = some (offsetTicks negative hours minutes) := by
  obtain ⟨signed, hour, minute⟩ := h
  next sign h m =>
  have hlast := minute.digits?_append []
  rw [List.append_nil] at hlast
  rw [offset?.eq_4 _ _ (by rcases signed with rfl | rfl <;> simp)
    (by rcases signed with rfl | rfl <;> simp)] at hread
  rcases signed with rfl | rfl
  all_goals
    simp only [reduceCtorEq, if_true, if_false, Option.bind_eq_bind, Option.bind_some,
      hour.digits?_append, hlast, List.isEmpty_nil, Bool.not_true, Bool.false_or, Char.reduceEq,
      true_or] at hread
    split at hread
    · cases hread
    next hlate =>
    simp only [Bool.or_eq_true, decide_eq_true_eq, not_or, Nat.not_lt] at hlate
    refine ⟨hlate.1, hlate.2, ?_⟩
    rw [← Option.some.inj hread, offsetTicks]
    simp only [BEq.rfl, if_true, Bool.false_eq_true, if_false, Char.reduceBEq]

/-- A date with a time and an offset stands for the stamp that they write, if it is accepted. -/
theorem written?_eq_some_of_clockText {date : CivilDate} {r : Iso.Reading}
    {day clock zone : List Char} (hday : DateText date day) (hclock : ClockText r clock)
    (ends : EndsTime zone) {s : Stamp}
    (h : written? (day ++ 'T' :: (clock ++ zone)) = some s) :
    date.isValid = true ∧ r.IsTime ∧
      ∃ offset, offset? zone = some offset ∧ s = .ofParts date.dayNumber r.ticks offset := by
  rw [written?, date?_of_dateText hday] at h
  split at h
  case isFalse => cases h
  case isTrue hvalid =>
  simp only [Option.bind_eq_bind, Option.bind_some, isSeparator, BEq.rfl, Bool.true_or,
    Bool.not_true, Bool.false_eq_true, if_false, Option.bind_eq_some_iff, Prod.exists] at h
  obtain ⟨ticks, rest, htime, offset, hoffset, hs⟩ := h
  obtain ⟨isTime, hparts⟩ := time?_eq_some_of_clockText hclock ends htime
  obtain ⟨rfl, rfl⟩ := Prod.mk.inj hparts
  exact ⟨hvalid, isTime, offset, hoffset, (Option.some.inj hs).symm⟩

/-- A text with a hyphen behind its first digits writes no number. -/
theorem ofDigits?_of_dateText {date : CivilDate} {cs : List Char} (h : DateText date cs)
    (rest : List Char) : ofDigits? (cs ++ rest) = none := by
  obtain ⟨year, month, day, digits⟩ := h
  next y m d =>
  have hy : ∀ c ∈ y, c.isDigit = true := fun c hc => digits c (by simp [hc])
  have hstop : ∀ c ∈ ('-' :: (m ++ '-' :: d) ++ rest).head?, c.isDigit = false := by
    intro c hc
    obtain rfl := Option.some.inj hc
    rfl
  have hsign : Decimal.takeSign (y ++ ('-' :: (m ++ '-' :: d) ++ rest)) =
      (false, y ++ ('-' :: (m ++ '-' :: d) ++ rest)) := by
    obtain ⟨c, y, rfl⟩ := List.exists_cons_of_length_eq_add_one year
    have hc := hy c List.mem_cons_self
    unfold Decimal.takeSign
    split
    · next heq =>
      obtain ⟨rfl, -⟩ := List.cons.inj heq
      cases hc
    · next heq =>
      obtain ⟨rfl, -⟩ := List.cons.inj heq
      cases hc
    · rfl
  rw [List.append_assoc, ofDigits?, hsign]
  dsimp only
  rw [Text.dropWhile_append_of_head? hy hstop]
  rfl

end TaskSieve.Schema.Timestamp
