import TaskSieve.Proofs.Calendar.Iso
import TaskSieve.Proofs.Filter.Coherence
import TaskSieve.Proofs.Filter.Moment
import TaskSieve.Proofs.Filter.Rereading
import TaskSieve.Proofs.Number.Digits

set_option autoImplicit false

/-! # Whole days

A date without a time in a filter stands for its whole day in universal time. A moment lies within
the day from its midnight until just before the next one, whatever offset the moment was written
with, and every operator goes by that: `matches_wholeDay`. -/

namespace TaskSieve.Calendar

/-- The start of a date in universal time. -/
def CivilDate.midnight (d : CivilDate) : Stamp := .ofDay d.dayNumber (some 0)

theorem Stamp.dayNumber_ofDay (n : Nat) (offset : Option Int) : (ofDay n offset).dayNumber = n :=
  Int.mul_ediv_cancel _ (by decide)

theorem Stamp.date_ofDay {d : CivilDate} (h : d.isValid = true) (offset : Option Int) :
    (ofDay d.dayNumber offset).date = d := by
  rw [date, dayNumber_ofDay, Int.toNat_natCast, CivilDate.ofDayNumber_dayNumber h]

/-- A clock in universal time shows the date at its midnight, and no time of day. -/
theorem CivilDate.midnight_spec {d : CivilDate} (h : d.isValid = true) :
    d.midnight.date = d ∧ d.midnight.timeOfDay = 0 :=
  ⟨Stamp.date_ofDay h _, by simp [midnight, Stamp.ofDay, Stamp.timeOfDay]⟩

theorem CivilDate.inRange_midnight {d : CivilDate} (h : d.isValid = true) :
    Stamp.inRange (d.dayNumber * dayTicks) = true := by
  have hlt := CivilDate.dayNumber_lt_dayCount h
  have hday : dayTicks = 86400000000 := rfl
  simp only [Stamp.inRange, Bool.and_eq_true, decide_eq_true_eq, hday]
  omega

/-- A clock in universal time shows an earlier day than a date just if it has not reached the
date's midnight, and a later day just if it has reached the next midnight. -/
theorem dayNumber_lt_iff {s : Stamp} (h : s.offset = some 0) (d : CivilDate) :
    (s.dayNumber < d.dayNumber ↔ s.instant < d.midnight.instant) ∧
      (d.dayNumber < s.dayNumber ↔ d.midnight.instant + dayTicks ≤ s.instant) := by
  have hday : dayTicks = 86400000000 := rfl
  simp only [Stamp.dayNumber, Stamp.instant, h, CivilDate.midnight, Stamp.ofDay, hday,
    Option.getD_some]
  omega

end TaskSieve.Calendar

namespace TaskSieve.Filter

open TaskSieve.Calendar

/-! ## Dates as filter values -/

section

open TaskSieve.Calendar.Iso (DateText)

variable {date : CivilDate} {cs : List Char}

theorem trim_of_dateText (h : DateText date cs) : Text.trim cs = cs := by
  refine Text.trimWhile_of_none fun c hc => ?_
  rcases h.isDigit_or_hyphen c hc with hdigit | rfl
  · exact Text.isBlank_of_isDigit (Text.isDigit_of_isDigit hdigit)
  · decide

theorem spellOffsets_of_dateText (h : DateText date cs) : Moment.spellOffsets cs = cs := by
  refine Moment.spellOffsets_of_ne ?_
  rintro c hc rfl
  exact absurd (h.isDigit_or_hyphen _ hc) (by decide)

/-- A date has no letters, so it is not told from now. -/
theorem relative?_of_dateText (h : DateText date cs) : Moment.relative? cs = none := by
  obtain ⟨c, rest, rfl, hc⟩ := h.exists_digit
  exact Moment.relative?_of_isDigit hc rest

/-- A date after year 1 is not the one that stands for no date. -/
theorem not_unset_of_dateText (h : DateText date cs) (hyear : 1 < date.year) :
    (cs.isEmpty || "0001-01-01".toList.isPrefixOf cs) = false := by
  have hlength := h.length_eq
  rw [← Bool.not_eq_true, Bool.or_eq_true, List.isEmpty_iff, List.isPrefixOf_iff_prefix]
  rintro (rfl | hset)
  · exact absurd hlength (by decide)
  · have hone : date.year = 1 := by
      rw [h.year_eq, ← hset.eq_of_length hlength.symm]
      decide
    exact absurd hyear (by omega)

theorem isDateOnly_of_dateText (h : DateText date cs) : Moment.isDateOnly cs = true := by
  rw [Moment.isDateOnly, trim_of_dateText h]
  obtain ⟨year, month, day, digits⟩ := h
  next y m d =>
  match y, m, d, year, month, day, digits with
  | [_, _, _, _], [_, _], [_, _], _, _, _, digits =>
    exact List.all_eq_true.2 fun c hc => Text.isDigit_of_isDigit (digits c hc)

/-- The start of a day after year 1 is a moment, and without an offset it is universal time. -/
theorem ofStamp_ofDay (hvalid : date.isValid = true) (hyear : 1 < date.year) :
    Moment.ofStamp (.ofDay date.dayNumber none) = some date.midnight := by
  have hdate : (Stamp.ofDay date.dayNumber none).date.year ≠ 1 := by
    rw [Stamp.date_ofDay hvalid]
    exact Nat.ne_of_gt hyear
  have hinstant : (Stamp.ofDay date.dayNumber none).instant = date.dayNumber * dayTicks :=
    Int.sub_zero _
  rw [Moment.ofStamp, if_neg hdate, Stamp.toUniversal?, hinstant,
    if_pos (CivilDate.inRange_midnight hvalid)]
  rfl

/-- A date after year 1 is read as its midnight in universal time. -/
theorem ofText_of_dateText (h : DateText date cs) (hvalid : date.isValid = true)
    (hyear : 1 < date.year) (now : Stamp) : Moment.ofText now cs = .ok (some date.midnight) := by
  have hset := Bool.eq_false_iff.1 (not_unset_of_dateText h hyear)
  rw [Moment.ofText, trim_of_dateText h, if_neg hset, relative?_of_dateText h,
    spellOffsets_of_dateText h, h.read?_eq hvalid]
  -- the bind is rewritten, not reduced: reducing it would compute the date of an unknown day
  change Except.ok (Option.bind (some _) Moment.ofStamp) = _
  rw [Option.bind_some, ofStamp_ofDay hvalid hyear]

end

/-! ## Moments in universal time -/

namespace Moment

theorem ofStamp_eq_some {x s : Stamp} (h : ofStamp x = some s) :
    s.offset = some 0 ∧ s.instant = x.instant := by
  rw [ofStamp, Stamp.toUniversal?] at h
  split at h
  · cases h
  split at h
  · obtain rfl := Option.some.inj h
    exact ⟨rfl, Int.sub_zero _⟩
  · cases h

theorem offset_of_shift? {x s : Stamp} {ticks : Int} (h : x.shift? ticks = some s) :
    s.offset = x.offset := by
  rw [Stamp.shift?] at h
  split at h
  · obtain rfl := Option.some.inj h
    rfl
  · cases h

/-- With a clock in universal time every moment is in universal time. -/
theorem offset_of_moment {now s : Stamp} (hnow : now.offset = some 0) {d : Datum}
    (h : Coercion.moment now d = .ok (some s)) : s.offset = some 0 := by
  cases d with
  | stamp x => exact (ofStamp_eq_some (Except.ok.inj h)).1
  | day n => exact (ofStamp_eq_some (Except.ok.inj h)).1
  | text t =>
    rw [Coercion.moment] at h
    unfold ofText at h
    dsimp only at h
    split at h
    · cases h
    split at h
    · cases h
      exact hnow
    · obtain ⟨amount, -, h⟩ := bind_eq_ok_iff.1 h
      obtain ⟨unit, -, h⟩ := bind_eq_ok_iff.1 h
      exact (offset_of_shift? (Except.ok.inj h)).trans hnow
    · obtain ⟨x, -, hx⟩ := Option.bind_eq_some_iff.1 (Except.ok.inj h)
      exact (ofStamp_eq_some hx).1
  | null | bool _ | int _ | num _ | list _ | record _ => cases h

end Moment

/-! ## Comparing with a day -/

namespace Evaluation

open TaskSieve.Calendar.Iso (DateText)

variable {now s : Stamp} {task : Fields} {f : Field} {d : Datum} {date : CivilDate} {D : String}

/-- A field is compared with a date by the days of both. -/
theorem answers_day (hkind : f.kind = .date)
    (hvalue : taskValue? task f = some d) (hmoment : Coercion.moment now d = .ok (some s))
    (htext : DateText date D.toList) (hvalid : date.isValid = true) (hyear : 1 < date.year)
    {op : Operator} (hop : op.isMembership = false) :
    answers now task f (.one (.text D)) op =
      holds op (some (compare s.dayNumber date.dayNumber)) := by
  have hdays : asksDays (.one (.text D)) = true := by
    simp [asksDays, Literal.values, Scalar.toDatum, Coercion.isDateOnly,
      isDateOnly_of_dateText htext]
  have hscale : Scale.of? now task f (asksDays (.one (.text D))) = some (.date now true) := by
    rw [Scale.of?, hkind, hdays]
  have hactual : (Scale.date now true).actual d = .ok (some s.dayNumber) :=
    bind_eq_ok_iff.2 ⟨some s, hmoment, rfl⟩
  have hwanted : (Scale.date now true).wanted (.text D) = .ok (some (date.dayNumber : Int)) :=
    bind_eq_ok_iff.2 ⟨some date.midnight, ofText_of_dateText htext hvalid hyear now,
      congrArg (fun n => Except.ok (some n)) (Stamp.dayNumber_ofDay _ _)⟩
  exact answers_of_compares hvalue hscale (Scale.compares_one hactual hwanted hop)

/-- The operators on two numbers that have an order. -/
theorem holds_compare_iff (m n : Int) :
    (holds .eq (some (compare m n)) = true ↔ m = n) ∧
      (holds .ne (some (compare m n)) = true ↔ m ≠ n) ∧
      (holds .lt (some (compare m n)) = true ↔ m < n) ∧
      (holds .le (some (compare m n)) = true ↔ m ≤ n) ∧
      (holds .gt (some (compare m n)) = true ↔ n < m) ∧
      (holds .ge (some (compare m n)) = true ↔ n ≤ m) := by
  rcases lt_trichotomy m n with h | rfl | h
  · simp [holds, compare_lt_iff_lt.2 h, h.ne, h, h.le, h.not_gt, h.not_ge]
  · simp [holds]
  · simp [holds, compare_gt_iff_gt.2 h, h.ne', h, h.le, h.not_gt, h.not_ge]

/-- A date after year 1 stands for its whole day in universal time. The day starts at midnight and
lasts for 24 hours, and a field whose value is a moment is compared with the date by where the
moment lies: before the day, within it, or after it. What the filter calls now is universal time; a
stamp may come from a clock with any offset. -/
theorem matches_wholeDay (hnow : now.offset = some 0) (hkind : f.kind = .date)
    (hvalue : taskValue? task f = some d) (hmoment : Coercion.moment now d = .ok (some s))
    (htext : DateText date D.toList) (hvalid : date.isValid = true) (hyear : 1 < date.year) :
    let start := date.midnight.instant
    let u := s.instant
    let holds (op : Operator) := (Expr.leaf ⟨f, op, .one (.text D)⟩).matches now task = true
    (date.midnight.date = date ∧ date.midnight.timeOfDay = 0) ∧
      (∀ x, d = .stamp x → u = x.instant) ∧
      (holds .eq ↔ start ≤ u ∧ u < start + dayTicks) ∧
      (holds .ne ↔ ¬ (start ≤ u ∧ u < start + dayTicks)) ∧
      (holds .lt ↔ u < start) ∧
      (holds .le ↔ u < start + dayTicks) ∧
      (holds .gt ↔ start + dayTicks ≤ u) ∧
      (holds .ge ↔ start ≤ u) := by
  intro start u holds'
  have hanswers (op : Operator) (hop : op.isMembership = false) : holds' op ↔
      holds op (some (compare s.dayNumber date.dayNumber)) = true :=
    iff_of_eq (congrArg (· = true)
      (answers_day hkind hvalue hmoment htext hvalid hyear hop))
  obtain ⟨heq, hne, hlt, hle, hgt, hge⟩ := holds_compare_iff s.dayNumber date.dayNumber
  obtain ⟨before, after⟩ := dayNumber_lt_iff (Moment.offset_of_moment hnow hmoment) date
  refine ⟨CivilDate.midnight_spec hvalid, ?_, ?_⟩
  · rintro x rfl
    exact (Moment.ofStamp_eq_some (Except.ok.inj hmoment)).2
  · rw [hanswers .eq rfl, hanswers .ne rfl, hanswers .lt rfl, hanswers .le rfl, hanswers .gt rfl,
      hanswers .ge rfl, heq, hne, hlt, hle, hgt, hge]
    omega

/-- An evening west of Greenwich is already the next day in universal time, in another month. -/
theorem matches_wholeDay_of_evening :
    let now := Stamp.ofDay 738000 (some 0)
    let task := [("due_date", .text "2024-02-29T23:30:00-05:00")]
    let leaf (op : Operator) (D : String) := Expr.leaf ⟨.dueDate, op, .one (.text D)⟩
    (leaf .eq "2024-03-01").matches now task = true ∧
      (leaf .gt "2024-02-29").matches now task = true := by
  intro now task leaf
  have hmoment : Coercion.moment now (.text "2024-02-29T23:30:00-05:00") =
      .ok (some ⟨63844864200000000, some 0⟩) := by decide +kernel
  have march : DateText ⟨2024, 3, 1⟩ "2024-03-01".toList :=
    .mk (y := "2024".toList) (m := "03".toList) (d := "01".toList) rfl rfl rfl
      (List.all_eq_true.1 (by decide))
  have february : DateText ⟨2024, 2, 29⟩ "2024-02-29".toList :=
    .mk (y := "2024".toList) (m := "02".toList) (d := "29".toList) rfl rfl rfl
      (List.all_eq_true.1 (by decide))
  have hnow : now.offset = some 0 := rfl
  have hvalue : taskValue? task .dueDate = some (.text "2024-02-29T23:30:00-05:00") := rfl
  obtain ⟨-, -, heq, -⟩ :=
    matches_wholeDay hnow rfl hvalue hmoment march (by decide) (by decide)
  obtain ⟨-, -, -, -, -, -, hgt, -⟩ :=
    matches_wholeDay hnow rfl hvalue hmoment february (by decide) (by decide)
  exact ⟨heq.2 (by decide), hgt.2 (by decide)⟩

end Evaluation

end TaskSieve.Filter
