import TaskSieve.Number.Layout
import TaskSieve.Number.Measure

set_option autoImplicit false

/-! # The token bucket

A bucket holds at most `burst` tokens and earns `rpm / 60` of them a second. Each request takes one
token, and a caller that finds less than one sleeps just long enough for the missing part. The
bucket never reads a clock: every operation is told the time, and taking a token with patience
answers the sleeps it asked for and the time at which it was served. -/

namespace TaskSieve

/-- Why a pair of limits is refused. -/
inductive LimitError where
  /-- The rate is not positive. -/
  | rate
  /-- The capacity is not positive. -/
  | capacity
  /-- A limit lies beyond the largest number that tokens are counted in. -/
  | overflow
deriving DecidableEq, Repr

/-- A rate in requests per minute and a capacity, both positive. -/
structure Limits where
  rpm : Nat
  burst : Nat
  rpm_pos : 0 < rpm
  burst_pos : 0 < burst
deriving DecidableEq, Repr

/-- The limits with this rate and capacity; the rate is checked first. -/
def Limits.ofInts (rpm burst : Int) : Except LimitError Limits :=
  if hr : rpm ≤ 0 then .error .rate
  else if hb : burst ≤ 0 then .error .capacity
  else if (Binary64.ofInt? rpm).isNone || (Binary64.ofInt? burst).isNone then .error .overflow
  else .ok ⟨rpm.toNat, burst.toNat, by omega, by omega⟩

/-- A bucket: its limits, the tokens it held when it was last refilled, and when that was. -/
structure Bucket (α : Type) where
  limits : Limits
  tokens : α
  refilled : α

/-- What patience led to: the bucket, the time, and the sleeps in between, in order. -/
structure Served (α : Type) where
  bucket : Bucket α
  clock : α
  slept : List α

namespace Bucket

variable {α : Type} [Measure α]

instance : Nonempty (Served α) :=
  ⟨⟨⟨⟨1, 1, Nat.one_pos, Nat.one_pos⟩, ((0 : Nat) : α), ((0 : Nat) : α)⟩, ((0 : Nat) : α), []⟩⟩

/-- A full bucket. -/
def full (limits : Limits) (now : α) : Bucket α :=
  ⟨limits, (limits.burst : α), now⟩

/-- Tokens earned in a second. -/
def rate (b : Bucket α) : α := (b.limits.rpm : α) / ((60 : Nat) : α)

/-- The tokens held at a time that lies `elapsed` after the last refill. -/
def earned (b : Bucket α) (elapsed : α) : α :=
  Measure.least (b.limits.burst : α) (b.tokens + elapsed * b.rate)

/-- Adds the tokens earned since the last refill; a clock that has not moved adds none. -/
def refill (b : Bucket α) (now : α) : Bucket α :=
  let elapsed := now - b.refilled
  if ((0 : Nat) : α) < elapsed then { b with tokens := b.earned elapsed, refilled := now } else b

/-- Whether at least one token is there. -/
def ready (b : Bucket α) : Bool := !decide (b.tokens < ((1 : Nat) : α))

/-- Takes a token if one is there, and says whether it did. -/
def tryTake (b : Bucket α) (now : α) : Bool × Bucket α :=
  let b := b.refill now
  if b.ready then (true, { b with tokens := b.tokens - ((1 : Nat) : α) }) else (false, b)

/-- The time in which the missing part of a token is earned. -/
def shortfall (b : Bucket α) : α := (((1 : Nat) : α) - b.tokens) / b.rate

/-- Waits for a token and takes it; `slept` are the sleeps so far. -/
def await (b : Bucket α) (now : α) (slept : List α) : Served α :=
  match b.tryTake now with
  | (true, b) => ⟨b, now, slept⟩
  | (false, b) => b |>.await (now + b.shortfall) (slept ++ [b.shortfall])
partial_fixpoint

/-- Takes a token, sleeping until there is one. It ends only with a token: exact arithmetic never
sleeps twice, since the first sleep earns just what was missing, but rounding may leave a sleep
short, and then more of them follow. -/
def take (b : Bucket α) (now : α) : Served α :=
  match b.tryTake now with
  | (true, b) => ⟨b, now, []⟩
  | (false, b) => await b (now + b.shortfall) [b.shortfall]

/-- The text that describes a bucket: its limits, and its tokens to two places. -/
def describe (b : Bucket Binary64) : String :=
  "TokenBucketLimiter(rpm=" ++ toString b.limits.rpm ++ ", burst=" ++ toString b.limits.burst
    ++ ", tokens=" ++ b.tokens.fixedText 2 ++ ")"

end Bucket

end TaskSieve
