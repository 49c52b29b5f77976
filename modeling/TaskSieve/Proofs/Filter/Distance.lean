import TaskSieve.Filter.Coercion
import TaskSieve.Proofs.Calendar.Civil
import TaskSieve.Proofs.Filter.Moment

set_option autoImplicit false

/-! # Where a distance from now leads

A text that tells a moment from now means now itself, or the instant so many units later or earlier.
However large an amount is that can be read, that instant is exact: it is found if it lies in the
years 1 to 9999, and there is no moment otherwise. Only an amount of too many digits and the long s,
which is taken for a unit and has no length, make the reading fail: `moment_eq_iff_told`. -/

namespace TaskSieve.Calendar

/-! ## Readings that have a date -/

/-- A reading of a clock falls on a date that exists, which lies in the years 1 to 9999. -/
def IsDated (ticks : Int) : Prop :=
  ∃ d : CivilDate, d.isValid = true ∧ d.dayNumber * dayTicks ≤ ticks ∧
    ticks < (d.dayNumber + 1) * dayTicks

namespace Stamp

/-- The readings in range are those with a date. -/
theorem inRange_iff_isDated {ticks : Int} : inRange ticks = true ↔ IsDated ticks := by
  have hday : dayTicks = 86400000000 := rfl
  simp only [inRange, IsDated, Bool.and_eq_true, decide_eq_true_eq, hday]
  constructor
  · rintro ⟨hlow, hhigh⟩
    have hnumber : (ticks / 86400000000).toNat < dayCount := by omega
    refine ⟨.ofDayNumber (ticks / 86400000000).toNat, CivilDate.isValid_ofDayNumber hnumber, ?_⟩
    rw [CivilDate.dayNumber_ofDayNumber]
    omega
  · rintro ⟨d, valid, hlow, hhigh⟩
    have hnumber := CivilDate.dayNumber_lt_dayCount valid
    omega

/-- On one clock an instant has one reading. -/
theorem eq_of_instant {s t : Stamp} (hoffset : s.offset = t.offset)
    (hinstant : s.instant = t.instant) : s = t := by
  obtain ⟨ticks, offset⟩ := s
  obtain ⟨ticks', offset'⟩ := t
  obtain rfl : offset = offset' := hoffset
  simp only [instant] at hinstant
  obtain rfl : ticks = ticks' := by omega
  rfl

theorem shift?_eq_some_iff {s t : Stamp} {ticks : Int} (utc : s.offset = some 0) :
    s.shift? ticks = some t ↔
      t.offset = some 0 ∧ t.instant = s.instant + ticks ∧ IsDated t.instant := by
  obtain ⟨reading, offset⟩ := s
  obtain rfl : offset = some 0 := utc
  rw [shift?, ← inRange_iff_isDated]
  constructor
  · intro h
    split at h
    · next dated =>
      obtain rfl := Option.some.inj h
      simpa [instant] using dated
    · exact absurd h (by simp)
  · rintro ⟨hoffset, hinstant, dated⟩
    have hreading : t.instant = reading + ticks := by simpa [instant] using hinstant
    rw [← hreading, if_pos dated]
    exact congrArg some (eq_of_instant hoffset.symm (by simp [instant]))

theorem shift?_eq_none_iff {s : Stamp} {ticks : Int} (utc : s.offset = some 0) :
    s.shift? ticks = none ↔ ¬ IsDated (s.instant + ticks) := by
  obtain ⟨reading, offset⟩ := s
  obtain rfl : offset = some 0 := utc
  simp [shift?, instant, ← inRange_iff_isDated]

end Stamp

end TaskSieve.Calendar

namespace TaskSieve.Filter.Moment

open TaskSieve.Calendar

/-! ## What is told -/

/-- The lengths of the units in seconds, by their small letters. -/
def unitLengths : List (Char × Nat) :=
  [('s', 1), ('m', 60), ('h', 3600), ('d', 86400), ('w', 604800)]

/-- The length of a distance in microseconds, if its unit lasts some seconds; it is negative towards
the past. -/
def Distance.ticks (d : Distance) (seconds : Nat) : Int :=
  let length : Int := (d.amount * seconds : Nat) * secondTicks
  if d.negative then -length else length

/-- What becomes of a moment that is told from now, by a clock of universal time. -/
inductive Told (now : Stamp) : Option Distance → Except Fault (Option Stamp) → Prop
  | now : Told now none (.ok (some now))
  | reached {d : Distance} {t : Stamp} {seconds : Nat} (short : d.digits.length ≤ digitLimit)
      (unit : (d.unit.toLower, seconds) ∈ unitLengths) (universal : t.offset = some 0)
      (instant : t.instant = now.instant + d.ticks seconds) (dated : IsDated t.instant) :
      Told now (some d) (.ok (some t))
  | beyond {d : Distance} {seconds : Nat} (short : d.digits.length ≤ digitLimit)
      (unit : (d.unit.toLower, seconds) ∈ unitLengths)
      (undated : ¬ IsDated (now.instant + d.ticks seconds)) : Told now (some d) (.ok none)
  | faulty {d : Distance} {f : Fault} (fault : DistanceFault d f) : Told now (some d) (.error f)

/-! ## Units -/

theorem unitSeconds_eq_ok_iff {unit : Char} {seconds : Nat} :
    unitSeconds unit = .ok seconds ↔ (unit.toLower, seconds) ∈ unitLengths := by
  unfold unitSeconds
  generalize unit.toLower = c
  split <;> simp_all [unitLengths, eq_comm]

/-! ## Distances -/

theorem Distance.from?_of_length {now : Stamp} {d : Distance} {n : Nat}
    (short : d.digits.length ≤ digitLimit) (unit : (d.unit.toLower, n) ∈ unitLengths) :
    d.from? now = .ok (now.shift? (d.ticks n)) := by
  rw [Distance.from?_of_short short, unitSeconds_eq_ok_iff.2 unit]
  rfl

/-- A distance leads where it is told to lead. -/
theorem Distance.from?_eq_iff_told {now : Stamp} {d : Distance}
    {found : Except Fault (Option Stamp)} (utc : now.offset = some 0)
    (letter : isUnitLetter d.unit = true) : d.from? now = found ↔ Told now (some d) found := by
  constructor
  · rintro rfl
    cases hfound : d.from? now with
    | error f => exact .faulty ((Distance.from?_eq_error_iff letter).1 hfound)
    | ok found =>
      -- there is an answer, so neither fault can be there
      have sound (f : Fault) : ¬ DistanceFault d f := fun h => by
        cases hfound.symm.trans ((Distance.from?_eq_error_iff letter).2 h)
      have short : d.digits.length ≤ digitLimit := Nat.not_lt.1 fun long => sound _ (.overlong long)
      obtain ⟨n, hn⟩ := (exists_unitSeconds_iff letter).2 fun long => sound _ (.timeless short long)
      have unit := unitSeconds_eq_ok_iff.1 hn
      rw [Distance.from?_of_length short unit] at hfound
      obtain rfl := Except.ok.inj hfound
      cases hshift : now.shift? (d.ticks n) with
      | none => exact .beyond short unit ((Stamp.shift?_eq_none_iff utc).1 hshift)
      | some t =>
        obtain ⟨universal, instant, dated⟩ := (Stamp.shift?_eq_some_iff utc).1 hshift
        exact .reached short unit universal instant dated
  · intro told
    cases told with
    | reached short unit universal instant dated =>
      rw [Distance.from?_of_length short unit,
        (Stamp.shift?_eq_some_iff utc).2 ⟨universal, instant, dated⟩]
    | beyond short unit undated =>
      rw [Distance.from?_of_length short unit, (Stamp.shift?_eq_none_iff utc).2 undated]
    | faulty fault => exact (Distance.from?_eq_error_iff letter).2 fault

/-! ## Texts -/

theorem isBlank_of_now {word : List Char} (spells : word.map Char.toLower = "now".toList) :
    ∀ c ∈ word, Text.isBlank c = false :=
  Text.isBlank_of_map_toLower (by rw [spells]; decide)

/-- A text that tells a moment has no blanks around it. -/
theorem RelativeText.trim_eq {cs : List Char} {r : Option Distance} (h : RelativeText r cs) :
    Text.trim cs = cs := by
  cases h with
  | now spells => exact Text.trimWhile_of_none (isBlank_of_now spells)
  | @away d word t spells distance =>
    obtain ⟨a, b, c, rfl, -⟩ := exists_letters spells
    refine Text.trimWhile_of_ends (fun x hx => ?_) fun x hx => ?_
    · obtain rfl := Option.some.inj hx
      exact isBlank_of_now spells a List.mem_cons_self
    · -- the last character is the unit
      cases distance with
      | @mk sign unit g₁ g₂ ds g₃ _ _ _ _ _ _ letter =>
        have hend : [a, b, c] ++ (g₁ ++ sign :: (g₂ ++ (ds ++ (g₃ ++ [unit])))) =
            ([a, b, c] ++ g₁ ++ sign :: (g₂ ++ ds ++ g₃)) ++ [unit] := by simp
        rw [hend, List.getLast?_concat] at hx
        obtain rfl := Option.some.inj hx
        exact (of_isUnitLetter letter).1

/-- A moment told from now is read as what is told, and nothing else: now itself, or the instant so
many units later or earlier if it lies in the years 1 to 9999, or no moment if it does not. Only
with an amount of too many digits, or else the long s as its unit, the reading fails. -/
theorem moment_eq_iff_told {now : Stamp} {s : String} {r : Option Distance}
    {found : Except Fault (Option Stamp)} (utc : now.offset = some 0)
    (text : RelativeText r s.toList) :
    Coercion.moment now (.text s) = found ↔ Told now r found := by
  rw [Coercion.moment, ofText, text.trim_eq, if_neg text.not_isPrefixOf,
    relative?_eq_some_iff.2 text]
  cases r with
  | none =>
    constructor
    · rintro rfl
      exact .now
    · rintro ⟨⟩
      rfl
  | some d => exact Distance.from?_eq_iff_told utc text.isUnitLetter

/-- Three weeks before the first of April 2024, told in mixed letter cases and digits. -/
theorem moment_eq_iff_told_of_weeks :
    (Stamp.ofDay 738976 (some 0)).offset = some 0 ∧
    RelativeText (some ⟨true, ['٣'], 'W'⟩) "nOw -\t٣ W".toList ∧
    Told (Stamp.ofDay 738976 (some 0)) (some ⟨true, ['٣'], 'W'⟩)
      (.ok (some (Stamp.ofDay 738955 (some 0)))) := by
  have text : RelativeText (some ⟨true, ['٣'], 'W'⟩) "nOw -\t٣ W".toList :=
    relative?_eq_some_iff.1 (by decide +kernel)
  exact ⟨rfl, text, (moment_eq_iff_told rfl text).1 (by decide +kernel)⟩

end TaskSieve.Filter.Moment
