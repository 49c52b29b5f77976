import TaskSieve.Filter.Literal
import TaskSieve.Proofs.Filter.Lexing
import TaskSieve.Proofs.Number.Layout
import TaskSieve.Proofs.Number.Overlong

set_option autoImplicit false

/-! # The shape of bare literals

A bare literal is typed by its shape alone. Integers and decimals are written in the shape that they
are read from. An integer that is read from few enough digits can be written, and the text of an
integer that can be written can be read. -/

namespace TaskSieve.Filter

open Grammar

/-! ## Numbers -/

/-- The number that a sign and a run of digits start: what follows the run decides which. -/
def numberBefore? (negative : Bool) (whole : List Char) : List Char → Option Scalar
  | [] => some (.int (if negative then -(Text.digitsValue whole : Int) else Text.digitsValue whole))
  | '.' :: fraction =>
    if fraction ≠ [] ∧ fraction.all Text.isDigit then
      some (.num (Decimal.toBinary64
        ⟨negative, Text.digitsValue (whole ++ fraction), -fraction.length⟩))
    else none
  | _ => none

theorem numberOfShape?_of_digits (negative : Bool) {whole rest : List Char}
    (h : Text.IsDigits whole) (ends : ∀ c ∈ rest.head?, Text.isDigit c = false) :
    Scalar.numberOfShape? (Decimal.signText negative ++ (whole ++ rest)) =
      numberBefore? negative whole rest := by
  have run : Run Text.isDigit whole rest :=
    ⟨h.ne_nil, fun c hc => Text.isDigit_of_isDigit (h.all c hc), ends⟩
  have hne : whole.isEmpty = false := List.isEmpty_eq_false_iff.2 h.ne_nil
  cases negative with
  | true =>
    simp only [Decimal.signText, if_true, List.singleton_append, Scalar.numberOfShape?,
      run.takeWhile, run.dropWhile, hne, Bool.false_eq_true, if_false]
    rfl
  | false =>
    have hminus : ∀ tail, whole ++ rest = '-' :: tail → False := fun tail htail =>
      absurd (run.first htail) (by decide)
    simp only [Decimal.signText, Bool.false_eq_true, if_false, List.nil_append,
      Scalar.numberOfShape?.eq_2 _ hminus, run.takeWhile, run.dropWhile, hne]
    rfl

/-- Digits around a point are a decimal, whichever sign is before them. -/
theorem numberOfShape?_pointed (negative : Bool) {front back : List Char}
    (hfront : Text.IsDigits front) (hback : Text.IsDigits back) :
    Scalar.numberOfShape? (Decimal.signText negative ++ (front ++ '.' :: back)) =
      some (.num (Decimal.toBinary64
        ⟨negative, Text.digitsValue (front ++ back), -back.length⟩)) := by
  have ends : ∀ c ∈ ('.' :: back).head?, Text.isDigit c = false :=
    fun c hc => Option.mem_some_iff.1 hc ▸ by decide
  rw [numberOfShape?_of_digits negative hfront ends]
  exact if_pos ⟨hback.ne_nil,
    List.all_eq_true.2 fun c hc => Text.isDigit_of_isDigit (hback.all c hc)⟩

/-- What has an `e` behind its digits is no number. -/
theorem numberOfShape?_scientific (negative : Bool) {lead : Char} {fraction rest : List Char}
    (h : Text.IsDigits (lead :: fraction)) :
    Scalar.numberOfShape? (Decimal.signText negative ++
      lead :: (Decimal.fractionText fraction ++ 'e' :: rest)) = none := by
  have hlead : Text.IsDigits [lead] :=
    ⟨by simp, fun c hc => h.all c (List.mem_singleton.1 hc ▸ List.mem_cons_self)⟩
  rw [Decimal.fractionText]
  split
  · have ends : ∀ c ∈ ('e' :: rest).head?, Text.isDigit c = false :=
      fun c hc => Option.mem_some_iff.1 hc ▸ by decide
    exact numberOfShape?_of_digits negative hlead ends
  · have ends : ∀ c ∈ ('.' :: (fraction ++ 'e' :: rest)).head?, Text.isDigit c = false :=
      fun c hc => Option.mem_some_iff.1 hc ▸ by decide
    refine (numberOfShape?_of_digits negative hlead ends).trans (if_neg ?_)
    rintro ⟨-, hall⟩
    exact absurd (List.all_eq_true.1 hall 'e' (by simp)) (by decide)

/-- Texts of the shape of a number, with digits of any script: an integer, or a decimal with digits
on both sides of its point. -/
inductive NumberText : Scalar → List Char → Prop
  | integer (negative : Bool) {whole : List Char} (ne_nil : whole ≠ [])
      (digits : ∀ c ∈ whole, Text.isDigit c = true) : NumberText
        (.int (if negative then -(Text.digitsValue whole : Int) else Text.digitsValue whole))
        (Decimal.signText negative ++ whole)
  | decimal (negative : Bool) {whole fraction : List Char}
      (front : ∀ c ∈ whole, Text.isDigit c = true) (back : ∀ c ∈ fraction, Text.isDigit c = true) :
      NumberText (.num (Decimal.toBinary64
          ⟨negative, Text.digitsValue (whole ++ fraction), -fraction.length⟩))
        (Decimal.signText negative ++ (whole ++ '.' :: fraction))

theorem numberText_of_numberOfShape? {cs : List Char} {v : Scalar}
    (h : Scalar.numberOfShape? cs = some v) : NumberText v cs := by
  unfold Scalar.numberOfShape? at h
  split at h
  next negative body hsign =>
  obtain rfl : cs = Decimal.signText negative ++ body := by
    split at hsign <;> obtain ⟨rfl, rfl⟩ := Prod.mk.inj hsign <;> rfl
  have front : ∀ c ∈ body.takeWhile Text.isDigit, Text.isDigit c = true :=
    fun _ => List.mem_takeWhile_imp
  have whole := List.takeWhile_append_dropWhile (p := Text.isDigit) (l := body)
  dsimp only at h
  split at h
  · exact absurd h (by simp)
  next hne =>
  split at h
  · next hnil =>
    rw [hnil, List.append_nil] at whole
    obtain rfl := Option.some.inj h
    have text := NumberText.integer negative (mt List.isEmpty_iff.2 hne) front
    rwa [whole] at text ⊢
  · next fraction hpoint =>
    split at h
    · next hfraction =>
      rw [hpoint] at whole
      obtain rfl := Option.some.inj h
      have text := NumberText.decimal negative front (List.all_eq_true.1 hfraction.2)
      rwa [whole] at text
    · exact absurd h (by simp)
  · exact absurd h (by simp)

/-- The digits of a natural have the shape of an integer, whichever sign is before them. -/
theorem numberOfShape?_integerText (n : Int) :
    Scalar.numberOfShape? (integerText n).toList = some (.int n) := by
  have digits : ∀ c ∈ Nat.toDigits 10 n.natAbs, Text.isDigit c = true := fun c hc =>
    Text.isDigit_of_isDigit ((Text.isDigits_toDigits _).all c hc)
  have htake : (Nat.toDigits 10 n.natAbs).takeWhile Text.isDigit = Nat.toDigits 10 n.natAbs :=
    List.takeWhile_eq_self_iff.2 digits
  have hdrop : (Nat.toDigits 10 n.natAbs).dropWhile Text.isDigit = [] :=
    List.dropWhile_eq_nil_iff.2 digits
  have hne : (Nat.toDigits 10 n.natAbs).isEmpty = false := by simp
  rw [toList_integerText]
  split
  · next hneg =>
    simp only [Scalar.numberOfShape?, htake, hdrop, hne, Text.digitsValue_toDigits,
      Bool.false_eq_true, if_false, if_true]
    congr 2
    omega
  · next hpos =>
    have hminus : ∀ rest, Nat.toDigits 10 n.natAbs = '-' :: rest → False := fun rest h =>
      absurd ((Text.isDigits_toDigits _).all '-' (h ▸ List.mem_cons_self)) (by decide)
    simp only [Scalar.numberOfShape?.eq_2 _ hminus, htake, hdrop, hne, Text.digitsValue_toDigits,
      Bool.false_eq_true, if_false]
    congr 2
    omega

/-! ## Digits of integers -/

theorem Lexeme.isBare_of_isDigit {c : Char} (h : Text.isDigit c = true) : isBare c = true := by
  rw [isBare, Bool.not_eq_true', ← Bool.not_eq_true, isStop_iff]
  intro hstop
  simp only [List.mem_cons, List.not_mem_nil, or_false] at hstop
  rcases hstop with rfl | rfl | rfl | rfl | rfl | rfl | rfl | rfl | rfl | rfl | rfl | rfl | rfl |
    rfl | rfl <;> exact absurd h (by decide)

theorem countP_signText (negative : Bool) {whole : List Char}
    (digits : ∀ c ∈ whole, Text.isDigit c = true) :
    (Decimal.signText negative ++ whole).countP Text.isDigit = whole.length := by
  rw [List.countP_append, List.countP_eq_length.2 digits]
  cases negative
  · exact Nat.zero_add _
  · exact Nat.zero_add _

/-- A bare literal that cannot be read is an integer: a sign and too many digits. -/
theorem Scalar.overlongBare?_eq_some_iff {cs : List Char} {o : Overlong} :
    overlongBare? cs = some o ↔ ∃ n, numberOfShape? cs = some (.int n) ∧
      digitLimit < cs.countP Text.isDigit ∧ o = .text (cs.countP Text.isDigit) := by
  unfold overlongBare?
  split
  · next n h => simp [h, Overlong.ofDigits?_eq_some_iff]
  · next h => exact iff_of_false (by simp) fun ⟨n, hn, _⟩ => h n hn

theorem Scalar.ofBare_eq_int_iff {cs : List Char} {n : Int} :
    ofBare cs = .int n ↔ numberOfShape? cs = some (.int n) := by
  cases h : numberOfShape? cs with
  | some v => simp [ofBare, h]
  | none => cases htruth : truthOf? cs <;> simp [ofBare, h, htruth]

/-- A bare literal can be read if it is no integer, or one of few enough digits. -/
theorem Scalar.overlongBare?_eq_none_iff {cs : List Char} :
    overlongBare? cs = none ↔ DigitsFit (· ≤ digitLimit) cs (ofBare cs) := by
  simp only [DigitsFit, ofBare_eq_int_iff]
  unfold overlongBare?
  split
  · next n h => simp [h, Overlong.ofDigits?_eq_none_iff]
  · next h => simpa using fun n hn => absurd hn (h n)

/-- An integer that was read can be written. -/
theorem Scalar.ofInt?_of_fits {cs : List Char} {n : Int}
    (digits : DigitsFit (· ≤ digitLimit) cs (.int n)) (h : numberOfShape? cs = some (.int n)) :
    Overlong.ofInt? n = none := by
  generalize hv : Scalar.int n = v at h
  cases numberText_of_numberOfShape? h with
  | integer negative ne_nil digits' =>
    obtain rfl := Scalar.int.inj hv
    -- zeros in front only make the text longer than the integer
    have short := digits _ rfl
    rw [countP_signText negative digits'] at short
    exact Overlong.ofInt?_digitsValue ne_nil (Overlong.ofDigits?_eq_none_iff.2 short) negative
  | decimal => exact absurd hv (by simp)

/-- The text of an integer has as many digits as the integer. -/
theorem countP_integerText (n : Int) :
    (integerText n).toList.countP Text.isDigit = Decimal.width n.natAbs := by
  have digits : ∀ c ∈ Nat.toDigits 10 n.natAbs, Text.isDigit c = true := fun c hc =>
    Text.isDigit_of_isDigit ((Text.isDigits_toDigits _).all c hc)
  have count := countP_signText (decide (n < 0)) digits
  rw [toList_integerText]
  by_cases hn : n < 0
  · rw [if_pos hn]
    rw [decide_eq_true hn] at count
    exact count
  · rw [if_neg hn]
    rw [decide_eq_false hn] at count
    exact count

/-- The text of an integer that can be written can be read. -/
theorem digitsFit_integerText {n : Int} (h : Overlong.ofInt? n = none) :
    DigitsFit (· ≤ digitLimit) (integerText n).toList (.int n) := by
  intro _ _
  rw [countP_integerText]
  exact Overlong.ofInt?_eq_none_iff.1 h

end TaskSieve.Filter
