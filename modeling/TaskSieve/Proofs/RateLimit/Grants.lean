import Mathlib.Algebra.Order.Field.Rat
import Mathlib.Tactic.FieldSimp
import Mathlib.Tactic.Linarith
import Mathlib.Tactic.Positivity
import Mathlib.Tactic.Ring
import TaskSieve.RateLimit.Bucket

set_option autoImplicit false

/-! # What a bucket grants

A bucket is used again and again: tokens are taken with and without patience, they are counted, and
time passes. Counted in exact rationals a bucket never holds less than nothing or more than its
capacity, patience ends after one sleep, and in any window of time at most as many tokens are
granted as the bucket can hold and earns meanwhile. -/

namespace TaskSieve.Bucket

/-! ## Using a bucket -/

/-- What happens to a bucket. -/
inductive Action (α : Type) where
  /-- A token is taken if one is there. -/
  | tryTake
  /-- A token is taken, after a sleep if need be. -/
  | take
  /-- The tokens are counted. -/
  | look
  /-- Time passes. -/
  | wait (seconds : α)

/-- A bucket and the time. -/
structure Moment (α : Type) where
  bucket : Bucket α
  clock : α

namespace Moment

variable {α : Type} [Measure α]

/-- Does an action: the times at which it was granted a token, and the moment after it. -/
def step (m : Moment α) : Action α → List α × Moment α
  | .tryTake =>
    let (taken, b) := m.bucket.tryTake m.clock
    (if taken then [m.clock] else [], ⟨b, m.clock⟩)
  | .take =>
    let served := m.bucket.take m.clock
    ([served.clock], ⟨served.bucket, served.clock⟩)
  | .look => ([], ⟨m.bucket.refill m.clock, m.clock⟩)
  | .wait seconds => ([], { m with clock := m.clock + seconds })

/-- Does actions one after the other. -/
def run (m : Moment α) : List (Action α) → List α × Moment α
  | [] => ([], m)
  | a :: rest =>
    let (granted, next) := m.step a
    let (later, last) := next.run rest
    (granted ++ later, last)

theorem run_cons (m : Moment α) (a : Action α) (rest : List (Action α)) :
    m.run (a :: rest) =
      ((m.step a).1 ++ ((m.step a).2.run rest).1, ((m.step a).2.run rest).2) := rfl

theorem run_append (m : Moment α) (before after : List (Action α)) :
    m.run (before ++ after) =
      ((m.run before).1 ++ ((m.run before).2.run after).1, ((m.run before).2.run after).2) := by
  induction before generalizing m with
  | nil => rfl
  | cons a rest ih => rw [List.cons_append, run_cons, ih, run_cons, List.append_assoc]

end Moment

/-! ## Patience -/

section
variable {α : Type} [Measure α] {b : Bucket α} {now : α} {served : Served α}

/-- Patience as it is meant: until a token is there, the time in which the missing part is earned is
slept, and then the token is taken. -/
inductive Awaits : Bucket α → α → Served α → Prop
  | ready {b : Bucket α} {now : α} (there : (b.refill now).ready = true) :
      Awaits b now
        ⟨{ b.refill now with tokens := (b.refill now).tokens - ((1 : Nat) : α) }, now, []⟩
  | short {b : Bucket α} {now : α} {served : Served α} (missing : (b.refill now).ready = false)
      (later : Awaits (b.refill now) (now + (b.refill now).shortfall) served) :
      Awaits b now { served with slept := (b.refill now).shortfall :: served.slept }

theorem await_of_ready (there : (b.refill now).ready = true) (slept : List α) :
    b.await now slept =
      ⟨{ b.refill now with tokens := (b.refill now).tokens - ((1 : Nat) : α) }, now, slept⟩ := by
  rw [await.eq_def, tryTake, if_pos there]

theorem await_of_short (missing : (b.refill now).ready = false) (slept : List α) :
    b.await now slept = (b.refill now).await (now + (b.refill now).shortfall)
      (slept ++ [(b.refill now).shortfall]) := by
  rw [await.eq_def, tryTake, missing, if_neg Bool.false_ne_true]

theorem take_eq_await (b : Bucket α) (now : α) : b.take now = b.await now [] := by
  rw [take, await.eq_def]
  rfl

/-- If the sleeps end, the loop has come to that end. -/
theorem Awaits.await_eq (h : Awaits b now served) (slept : List α) :
    b.await now slept = { served with slept := slept ++ served.slept } := by
  -- the loop has nothing that gets smaller, so the induction is on its sleeps
  induction h generalizing slept with
  | ready there => rw [await_of_ready there, List.append_nil]
  | short missing _ ih => rw [await_of_short missing, ih, List.append_assoc, List.singleton_append]

theorem Awaits.take_eq (h : Awaits b now served) : b.take now = served := by
  rw [take_eq_await, h.await_eq, List.nil_append]

/-- What tokens cost: one is taken with patience, and another one after each pause. -/
inductive Takes : List α → Moment α → Moment α → Prop
  | last {m : Moment α} {served : Served α} (paid : Awaits m.bucket m.clock served) :
      Takes [] m ⟨served.bucket, served.clock⟩
  | again {pause : α} {pauses : List α} {m m' : Moment α} {served : Served α}
      (paid : Awaits m.bucket m.clock served)
      (later : Takes pauses ⟨served.bucket, served.clock + pause⟩ m') :
      Takes (pause :: pauses) m m'

end

/-! ## One action in exact arithmetic -/

theorem rate_eq (b : Bucket Rat) : b.rate = (b.limits.rpm : Rat) / 60 := by
  change (b.limits.rpm : Rat) / ((60 : Nat) : Rat) = _
  norm_num

theorem rate_pos (b : Bucket Rat) : 0 < b.rate := by
  have := b.limits.rpm_pos
  rw [rate_eq]
  positivity

/-- A bucket that was filled up no later than now, to between nothing and its capacity. -/
structure Sound (b : Bucket Rat) (now : Rat) : Prop where
  nonneg : 0 ≤ b.tokens
  le_burst : b.tokens ≤ b.limits.burst
  refilled_le : b.refilled ≤ now

variable {b : Bucket Rat} {now : Rat}

theorem Sound.full (limits : Limits) (now : Rat) : Sound (full limits now) now where
  nonneg := Nat.cast_nonneg (α := Rat) limits.burst
  le_burst := le_refl _
  refilled_le := le_refl now

theorem limits_refill : (b.refill now).limits = b.limits := by
  simp only [refill]
  split <;> rfl

/-- A refill adds what was earned since the last one, as far as there is room. -/
theorem Sound.refill_eq (h : Sound b now) : b.refill now =
    { b with
      tokens := min (b.limits.burst : Rat) (b.tokens + (now - b.refilled) * b.rate)
      refilled := now } := by
  have earned : b.earned (now - b.refilled) =
      min (b.limits.burst : Rat) (b.tokens + (now - b.refilled) * b.rate) := by
    rw [Bucket.earned, Measure.least, min_def]
    split_ifs with hlt hle hle
    · exact absurd hle (not_le.2 hlt)
    · rfl
    · rfl
    · exact absurd (not_lt.1 hlt) hle
  simp only [refill]
  split
  · rw [earned]
  · next hstill =>
    -- the clock has not moved, so nothing is earned
    have hnow : now = b.refilled := by
      have still : ¬ (0 : Rat) < now - b.refilled := hstill
      have := h.refilled_le
      linarith
    have hfull : min (b.limits.burst : Rat) (b.tokens + (now - b.refilled) * b.rate) =
        b.tokens := by
      rw [hnow, sub_self, zero_mul, add_zero, min_eq_right h.le_burst]
    rw [hfull, hnow]

theorem Sound.refill (h : Sound b now) : Sound (b.refill now) now := by
  have burst : (0 : Rat) ≤ b.limits.burst := Nat.cast_nonneg _
  have earned : 0 ≤ (now - b.refilled) * b.rate :=
    mul_nonneg (sub_nonneg.2 h.refilled_le) (rate_pos b).le
  rw [h.refill_eq]
  exact ⟨le_min burst (add_nonneg h.nonneg earned), min_le_left _ _, le_refl now⟩

theorem ready_iff : b.ready = true ↔ 1 ≤ b.tokens := by
  have : b.ready = !decide (b.tokens < ((1 : Nat) : Rat)) := rfl
  rw [this, Bool.not_eq_true', decide_eq_false_iff_not, not_lt, Nat.cast_one]

/-- A token is taken exactly if one is there after the refill. -/
theorem tryTake_of_ready (h : 1 ≤ (b.refill now).tokens) :
    b.tryTake now = (true, { b.refill now with tokens := (b.refill now).tokens - 1 }) := by
  rw [tryTake, if_pos (ready_iff.2 h)]
  congr 2

theorem tryTake_of_short (h : (b.refill now).tokens < 1) :
    b.tryTake now = (false, b.refill now) :=
  if_neg fun hready => absurd (ready_iff.1 hready) (not_le.2 h)

/-- The missing part of a token is earned in this time. -/
theorem shortfall_eq : b.shortfall = (1 - b.tokens) * 60 / b.limits.rpm := by
  have : b.shortfall = (((1 : Nat) : Rat) - b.tokens) / b.rate := rfl
  rw [this, Nat.cast_one, rate_eq, div_div_eq_mul_div]

theorem shortfall_mul_rate : b.shortfall * b.rate = 1 - b.tokens := by
  have : b.shortfall = (((1 : Nat) : Rat) - b.tokens) / b.rate := rfl
  rw [this, Nat.cast_one, div_mul_cancel₀ _ (rate_pos b).ne']

/-- After the sleep that a short bucket asks for there is exactly one token. -/
theorem Sound.tokens_after_shortfall (h : Sound b now) (short : b.tokens < 1) :
    Sound b (now + b.shortfall) ∧ 1 ≤ (b.refill (now + b.shortfall)).tokens := by
  have earned := shortfall_mul_rate (b := b)
  have slept : 0 < b.shortfall := by
    by_contra hle
    have := mul_nonpos_of_nonpos_of_nonneg (not_lt.1 hle) (rate_pos b).le
    linarith
  have later : Sound b (now + b.shortfall) :=
    ⟨h.nonneg, h.le_burst, by have := h.refilled_le; linarith⟩
  refine ⟨later, ?_⟩
  rw [later.refill_eq]
  refine le_min ?_ ?_
  · exact_mod_cast b.limits.burst_pos
  · -- the sleep earns the missing part; what was earned before it only adds to that
    have since : 0 ≤ (now - b.refilled) * b.rate :=
      mul_nonneg (sub_nonneg.2 h.refilled_le) (rate_pos b).le
    calc (1 : Rat) = b.tokens + b.shortfall * b.rate := by rw [earned]; ring
      _ ≤ b.tokens + (now - b.refilled) * b.rate + b.shortfall * b.rate := by linarith
      _ = b.tokens + (now + b.shortfall - b.refilled) * b.rate := by ring

/-- Patience ends after one sleep at most, which is as long as the missing part of a token takes to
be earned, and with a token. -/
theorem Sound.awaits_cases (h : Sound b now) :
    (1 ≤ (b.refill now).tokens ∧
      Awaits b now ⟨{ b.refill now with tokens := (b.refill now).tokens - 1 }, now, []⟩) ∨
    ((b.refill now).tokens < 1 ∧ ∃ b', b' = (b.refill now).refill (now + (b.refill now).shortfall) ∧
      1 ≤ b'.tokens ∧ Awaits b now ⟨{ b' with tokens := b'.tokens - 1 },
        now + (b.refill now).shortfall, [(b.refill now).shortfall]⟩) := by
  rcases le_or_gt 1 (b.refill now).tokens with hready | hshort
  · exact .inl ⟨hready, .ready (ready_iff.2 hready)⟩
  · obtain ⟨-, hlater⟩ := h.refill.tokens_after_shortfall hshort
    have missing : (b.refill now).ready = false :=
      Bool.eq_false_iff.2 (mt ready_iff.1 (not_le.2 hshort))
    exact .inr ⟨hshort, _, rfl, hlater, .short missing (.ready (ready_iff.2 hlater))⟩

theorem Sound.take_cases (h : Sound b now) :
    (1 ≤ (b.refill now).tokens ∧
      b.take now = ⟨{ b.refill now with tokens := (b.refill now).tokens - 1 }, now, []⟩) ∨
    ((b.refill now).tokens < 1 ∧ ∃ b', b' = (b.refill now).refill (now + (b.refill now).shortfall) ∧
      1 ≤ b'.tokens ∧ b.take now = ⟨{ b' with tokens := b'.tokens - 1 },
        now + (b.refill now).shortfall, [(b.refill now).shortfall]⟩) := by
  rcases h.awaits_cases with ⟨hready, hawaits⟩ | ⟨hshort, b', hb', hready, hawaits⟩
  · exact .inl ⟨hready, hawaits.take_eq⟩
  · exact .inr ⟨hshort, b', hb', hready, hawaits.take_eq⟩

/-- What is taken with patience is taken as patience is meant. -/
theorem Sound.awaits_take (h : Sound b now) : Awaits b now (b.take now) := by
  rcases h.awaits_cases with ⟨-, hawaits⟩ | ⟨-, _, -, -, hawaits⟩
  · exact hawaits.take_eq.symm ▸ hawaits
  · exact hawaits.take_eq.symm ▸ hawaits

/-! ## What an action does -/

/-- An action that is granted tokens gets them at its end, from a bucket that was filled up then.
They are paid for by what the bucket held and what it earned since. -/
structure Advance (m : Moment Rat) (granted : List Rat) (m' : Moment Rat) : Prop where
  limits : m'.bucket.limits = m.bucket.limits
  sound : Sound m'.bucket m'.clock
  clock_le : m.clock ≤ m'.clock
  refilled_le : m.bucket.refilled ≤ m'.bucket.refilled
  at_end : ∀ t ∈ granted, t = m'.clock ∧ m'.bucket.refilled = m'.clock
  paid : granted.length + m'.bucket.tokens ≤
    m.bucket.tokens + (m'.bucket.refilled - m.bucket.refilled) * m.bucket.rate
  capped : granted.length + m'.bucket.tokens ≤ m.bucket.limits.burst

/-- Time does not run backwards. -/
def Action.Forward : Action Rat → Prop
  | .wait seconds => 0 ≤ seconds
  | _ => True

theorem advance_look {m : Moment Rat} (h : Sound m.bucket m.clock) :
    Advance m [] ⟨m.bucket.refill m.clock, m.clock⟩ := by
  have sound := h.refill
  have limits : (m.bucket.refill m.clock).limits = m.bucket.limits := limits_refill
  have eq := h.refill_eq
  refine ⟨limits, sound, le_refl _, ?_, by simp, ?_, ?_⟩
  · rw [eq]
    exact h.refilled_le
  · rw [eq]
    simp
  · simpa [limits] using sound.le_burst

/-- Taking a token that is there. -/
theorem advance_taken {m : Moment Rat} (h : Sound m.bucket m.clock)
    (ready : 1 ≤ (m.bucket.refill m.clock).tokens) :
    Advance m [m.clock] ⟨{ m.bucket.refill m.clock with
      tokens := (m.bucket.refill m.clock).tokens - 1 }, m.clock⟩ := by
  have look := advance_look h
  have paid := look.paid
  have capped := look.capped
  have le_burst := look.sound.le_burst
  simp only [List.length_nil, Nat.cast_zero, zero_add] at paid capped
  refine ⟨look.limits, ⟨?_, ?_, look.sound.refilled_le⟩, le_refl _, look.refilled_le, ?_, ?_, ?_⟩
  · simpa using ready
  · dsimp only at le_burst ⊢
    linarith
  · intro t ht
    rw [List.mem_singleton.1 ht]
    exact ⟨rfl, by rw [h.refill_eq]⟩
  · simpa using paid
  · simpa using capped

theorem Advance.trans {m m' m'' : Moment Rat} {granted : List Rat} (h : Advance m [] m')
    (h' : Advance m' granted m'') : Advance m granted m'' where
  limits := h'.limits.trans h.limits
  sound := h'.sound
  clock_le := h.clock_le.trans h'.clock_le
  refilled_le := h.refilled_le.trans h'.refilled_le
  at_end := h'.at_end
  paid := by
    have first := h.paid
    have second := h'.paid
    rw [rate_eq, h.limits, ← rate_eq] at second
    simp only [List.length_nil, Nat.cast_zero, zero_add] at first
    linarith
  capped := h.limits ▸ h'.capped

theorem advance_wait {m : Moment Rat} (h : Sound m.bucket m.clock) {seconds : Rat}
    (forward : 0 ≤ seconds) : Advance m [] { m with clock := m.clock + seconds } where
  limits := rfl
  sound := ⟨h.nonneg, h.le_burst, by have := h.refilled_le; dsimp only; linarith⟩
  clock_le := by dsimp only; linarith
  refilled_le := le_refl _
  at_end := by simp
  paid := by simp
  capped := by simpa using h.le_burst

theorem shortfall_nonneg (short : b.tokens < 1) : 0 ≤ b.shortfall := by
  rw [shortfall_eq]
  have : (0 : Rat) ≤ 1 - b.tokens := by linarith
  positivity

/-- Every action advances a bucket. -/
theorem Sound.advance {m : Moment Rat} (h : Sound m.bucket m.clock) {a : Action Rat}
    (forward : a.Forward) : Advance m (m.step a).1 (m.step a).2 := by
  cases a with
  | tryTake =>
    rcases le_or_gt 1 (m.bucket.refill m.clock).tokens with hready | hshort
    · rw [Moment.step, tryTake_of_ready hready]
      exact advance_taken h hready
    · rw [Moment.step, tryTake_of_short hshort]
      exact advance_look h
  | take =>
    rcases h.take_cases with ⟨hready, htake⟩ | ⟨hshort, b', rfl, hready, htake⟩
    · rw [Moment.step, htake]
      exact advance_taken h hready
    · rw [Moment.step, htake]
      -- the tokens are counted, the missing part is slept for, and then a token is there
      have look := advance_look h
      have slept := advance_wait look.sound (shortfall_nonneg hshort)
      exact (look.trans slept).trans (advance_taken slept.sound hready)
  | look => exact advance_look h
  | wait seconds => exact advance_wait h forward

/-- Counted exactly, the sleeps for one token after another always end. -/
theorem Sound.exists_takes {m : Moment Rat} (h : Sound m.bucket m.clock) {pauses : List Rat}
    (forward : ∀ pause ∈ pauses, 0 ≤ pause) : ∃ m', Takes pauses m m' := by
  induction pauses generalizing m with
  | nil => exact ⟨_, .last h.awaits_take⟩
  | cons pause rest ih =>
    obtain ⟨hpause, hrest⟩ := List.forall_mem_cons.1 forward
    have taken := (h.advance (a := .take) trivial).sound
    obtain ⟨m', later⟩ := ih (advance_wait taken hpause).sound hrest
    exact ⟨m', .again h.awaits_take later⟩

/-! ## Runs -/

/-- How many of the times lie in a window, both its ends included. -/
def countWithin (t₁ t₂ : Rat) (times : List Rat) : Nat :=
  times.countP fun t => t₁ ≤ t ∧ t ≤ t₂

theorem countWithin_append (t₁ t₂ : Rat) (times times' : List Rat) :
    countWithin t₁ t₂ (times ++ times') = countWithin t₁ t₂ times + countWithin t₁ t₂ times' :=
  List.countP_append

theorem countWithin_le_length (t₁ t₂ : Rat) (times : List Rat) :
    countWithin t₁ t₂ times ≤ times.length := List.countP_le_length

theorem countWithin_of_outside {t₁ t₂ : Rat} {times : List Rat}
    (h : ∀ t ∈ times, t < t₁ ∨ t₂ < t) : countWithin t₁ t₂ times = 0 := by
  rw [countWithin, List.countP_eq_zero]
  intro t ht
  rcases h t ht with hlt | hlt <;> simp [not_le.2 hlt]

variable {m : Moment Rat}

theorem Sound.run (h : Sound m.bucket m.clock) {actions : List (Action Rat)}
    (forward : ∀ a ∈ actions, a.Forward) :
    Sound (m.run actions).2.bucket (m.run actions).2.clock ∧
      (m.run actions).2.bucket.limits = m.bucket.limits ∧
      ∀ t ∈ (m.run actions).1, m.clock ≤ t := by
  induction actions generalizing m with
  | nil => exact ⟨h, rfl, by simp [Moment.run]⟩
  | cons a rest ih =>
    have one := h.advance (forward a List.mem_cons_self)
    obtain ⟨sound, limits, times⟩ := ih one.sound fun a ha => forward a (List.mem_cons_of_mem _ ha)
    rw [Moment.run_cons]
    refine ⟨sound, limits.trans one.limits, fun t ht => ?_⟩
    rcases List.mem_append.1 ht with ht | ht
    · exact (one.at_end t ht).1 ▸ one.clock_le
    · exact one.clock_le.trans (times t ht)

/-- Up to a time no more is granted than what is there and what is earned until then. -/
theorem Sound.count_le_earned (h : Sound m.bucket m.clock) {actions : List (Action Rat)}
    (forward : ∀ a ∈ actions, a.Forward) (t₁ : Rat) {t₂ : Rat} (hle : m.bucket.refilled ≤ t₂) :
    (countWithin t₁ t₂ (m.run actions).1 : Rat) ≤
      m.bucket.tokens + (t₂ - m.bucket.refilled) * m.bucket.rate := by
  induction actions generalizing m with
  | nil =>
    have earned := mul_nonneg (sub_nonneg.2 hle) (rate_pos m.bucket).le
    have := h.nonneg
    simp only [Moment.run, countWithin, List.countP_nil, Nat.cast_zero]
    linarith
  | cons a rest ih =>
    have one := h.advance (forward a List.mem_cons_self)
    have forward' : ∀ a ∈ rest, a.Forward := fun a ha => forward a (List.mem_cons_of_mem _ ha)
    rcases le_or_gt (m.step a).2.bucket.refilled t₂ with hle' | hlt
    · have later := ih one.sound forward' hle'
      have first : (countWithin t₁ t₂ (m.step a).1 : Rat) ≤ (m.step a).1.length := by
        exact_mod_cast countWithin_le_length _ _ _
      have paid := one.paid
      rw [rate_eq, one.limits, ← rate_eq] at later
      rw [Moment.run_cons, countWithin_append]
      push_cast
      linarith
    · -- the bucket was filled up after the window, so nothing is granted inside of it any more
      have outside : countWithin t₁ t₂ (m.run (a :: rest)).1 = 0 := by
        refine countWithin_of_outside fun t ht => .inr ?_
        have hclock := hlt.trans_le one.sound.refilled_le
        rw [Moment.run_cons] at ht
        rcases List.mem_append.1 ht with ht | ht
        · exact (one.at_end t ht).1 ▸ hclock
        · exact hclock.trans_le ((one.sound.run forward').2.2 t ht)
      have earned := mul_nonneg (sub_nonneg.2 hle) (rate_pos m.bucket).le
      have := h.nonneg
      rw [outside, Nat.cast_zero]
      linarith

/-- In a window no more is granted than what a bucket can hold and what is earned meanwhile. -/
theorem Sound.count_le (h : Sound m.bucket m.clock) {actions : List (Action Rat)}
    (forward : ∀ a ∈ actions, a.Forward) {t₁ t₂ : Rat} (hle : t₁ ≤ t₂) :
    (countWithin t₁ t₂ (m.run actions).1 : Rat) ≤
      m.bucket.limits.burst + (t₂ - t₁) * m.bucket.rate := by
  have window := mul_nonneg (sub_nonneg.2 hle) (rate_pos m.bucket).le
  induction actions generalizing m with
  | nil =>
    simp only [Moment.run, countWithin, List.countP_nil, Nat.cast_zero]
    positivity
  | cons a rest ih =>
    have one := h.advance (forward a List.mem_cons_self)
    have forward' : ∀ a ∈ rest, a.Forward := fun a ha => forward a (List.mem_cons_of_mem _ ha)
    have rate : (m.step a).2.bucket.rate = m.bucket.rate := by rw [rate_eq, one.limits, ← rate_eq]
    rw [Moment.run_cons, countWithin_append]
    push_cast
    by_cases hgrant : ∃ t ∈ (m.step a).1, t₁ ≤ t ∧ t ≤ t₂
    · -- from the first grant in the window on, what is there and what is earned bounds the rest
      obtain ⟨t, ht, h₁, h₂⟩ := hgrant
      obtain ⟨rfl, hfilled⟩ := one.at_end t ht
      have later := one.sound.count_le_earned forward' t₁ (hfilled ▸ h₂)
      have first : (countWithin t₁ t₂ (m.step a).1 : Rat) ≤ (m.step a).1.length := by
        exact_mod_cast countWithin_le_length _ _ _
      have capped := one.capped
      have shorter : (t₂ - (m.step a).2.clock) * m.bucket.rate ≤ (t₂ - t₁) * m.bucket.rate :=
        mul_le_mul_of_nonneg_right (by linarith) (rate_pos _).le
      rw [rate, hfilled] at later
      linarith
    · have first : countWithin t₁ t₂ (m.step a).1 = 0 := by
        rw [countWithin, List.countP_eq_zero]
        intro t ht
        simpa using fun h₁ h₂ => hgrant ⟨t, ht, h₁, h₂⟩
      have later := ih one.sound forward' (by rw [rate]; exact window)
      rw [rate, one.limits] at later
      rw [first, Nat.cast_zero, zero_add]
      exact later

end TaskSieve.Bucket
