set_option autoImplicit false

/-! # Punycode

A label of a host name that has other than ASCII characters is written with ASCII characters alone:
first its ASCII characters, then, for each other character in the order of code points, how far the
insertion point moves on from the one before, as a number of variable length in base 36. -/

namespace TaskSieve.Web.Punycode

/-- The digit with this value: letters, then figures. -/
def digit (value : Nat) : Char :=
  if value < 26 then Char.ofNat ('a'.toNat + value) else Char.ofNat ('0'.toNat + (value - 26))

/-- The value of a digit, in either letter case. -/
def digitValue? (c : Char) : Option Nat :=
  if 'a' ≤ c ∧ c ≤ 'z' then some (c.toNat - 'a'.toNat)
  else if 'A' ≤ c ∧ c ≤ 'Z' then some (c.toNat - 'A'.toNat)
  else if '0' ≤ c ∧ c ≤ '9' then some (c.toNat - '0'.toNat + 26)
  else none

/-- The value at which a digit at position `k` ends a number. -/
def threshold (k bias : Nat) : Nat :=
  if k ≤ bias then 1 else if bias + 26 ≤ k then 26 else k - bias

/-- The threshold of a digit is positive. -/
theorem threshold_pos (k bias : Nat) : 0 < threshold k bias := by
  unfold threshold
  split
  · omega
  · split <;> omega

/-- The threshold of a digit is at most 26. -/
theorem threshold_le (k bias : Nat) : threshold k bias ≤ 26 := by
  unfold threshold
  split
  · omega
  · split <;> omega

/-- The digits of a number, the digit at position `k` first. -/
def digits (bias k n : Nat) : List Char :=
  let t := threshold k bias
  if n < t then [digit n]
  else digit (t + (n - t) % (36 - t)) :: digits bias (k + 36) ((n - t) / (36 - t))
termination_by n
decreasing_by
  have hp := threshold_pos k bias
  have hl := threshold_le k bias
  exact Nat.lt_of_le_of_lt (Nat.div_le_self _ _) (by omega)

/-- Divides by 35 until at most 455 is left, counting 36 for each division. -/
def scale (delta k : Nat) : Nat × Nat :=
  if 455 < delta then scale (delta / 35) (k + 36) else (delta, k)
termination_by delta
decreasing_by omega

/-- The bias after a number, from its value and the characters placed so far. -/
def adapt (delta placed : Nat) (first : Bool) : Nat :=
  let delta := if first then delta / 700 else delta / 2
  let (delta, k) := scale (delta + delta / placed) 0
  k + 36 * delta / (delta + 38)

/-! ## Writing -/

/-- How far the writing of a label has come. -/
structure State where
  delta : Nat
  bias : Nat
  placed : Nat
  written : List Char

/-- Passes one character of the label while the characters with code point `n` are placed. -/
def State.pass (plain n : Nat) (s : State) (c : Char) : State :=
  if c.toNat < n then { s with delta := s.delta + 1 }
  else if c.toNat = n then
    { delta := 0, bias := adapt s.delta (s.placed + 1) (s.placed == plain), placed := s.placed + 1,
      written := s.written ++ digits s.bias 36 s.delta }
  else s

/-- Places the characters with code point `n`, the one before having been `before`. -/
def State.place (label : List Char) (plain : Nat) (s : State) (before n : Nat) : State :=
  let s := { s with delta := s.delta + (n - before) * (s.placed + 1) }
  let s := label.foldl (State.pass plain n) s
  { s with delta := s.delta + 1 }

/-- The label in ASCII characters, which stand after its mark. -/
def encode (label : List Char) : List Char :=
  let plain := label.filter fun c => c.toNat < 128
  let others := ((label.filter fun c => 128 ≤ c.toNat).map Char.toNat).mergeSort.eraseDups
  let start : State := ⟨0, 72, plain.length, plain ++ (if plain.isEmpty then [] else ['-'])⟩
  let step (acc : State × Nat) (n : Nat) : State × Nat :=
    (acc.1.place label plain.length acc.2 n, n + 1)
  (others.foldl step (start, 128)).1.written

/-! ## Reading -/

/-- Reads a number whose next digit is at position `k` and counts `weight`; `n` is its value so
far. -/
def number? (bias k weight n : Nat) : List Char → Option (Nat × List Char)
  | [] => none
  | c :: rest =>
    (digitValue? c).bind fun d =>
      let t := threshold k bias
      if d < t then some (n + d * weight, rest)
      else number? bias (k + 36) (weight * (36 - t)) (n + d * weight) rest

/-- Reading a number takes a character at least. -/
theorem length_of_number? {bias k weight n m : Nat} {cs rest : List Char}
    (h : number? bias k weight n cs = some (m, rest)) : rest.length < cs.length := by
  induction cs generalizing k weight n with
  | nil => simp [number?] at h
  | cons c cs ih =>
    rw [number?] at h
    obtain ⟨d, -, h⟩ := Option.bind_eq_some_iff.1 h
    dsimp only at h
    split at h
    · simp only [Option.some.injEq, Prod.mk.injEq] at h
      rw [← h.2]
      simp
    · exact Nat.lt_succ_of_lt (ih h)

/-- Inserts the characters that numbers place into the characters read so far. The last of them had
code point `n` and stood before `place`. -/
def insertAll? (bias n place : Nat) (label cs : List Char) : Option (List Char) :=
  match cs with
  | [] => some label
  | c :: rest =>
    match _h : number? bias 36 1 place (c :: rest) with
    | none => none
    | some (moved, rest) =>
      let count := label.length + 1
      let n := n + moved / count
      if n.isValidChar then
        insertAll? (adapt (moved - place) count (place == 0)) n (moved % count + 1)
          (label.insertIdx (moved % count) (Char.ofNat n)) rest
      else none
termination_by cs.length
decreasing_by exact length_of_number? _h

/-- The label that ASCII characters after a mark write. -/
def decode? (cs : List Char) : Option (List Char) :=
  let coded := (cs.reverse.takeWhile (· != '-')).reverse
  let plain := cs.take (cs.length - coded.length)
  if plain.length = 1 then none
  else insertAll? 72 128 0 plain.dropLast coded

end TaskSieve.Web.Punycode
