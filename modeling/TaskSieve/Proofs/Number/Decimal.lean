import TaskSieve.Number.Decimal
import TaskSieve.Proofs.Number.Digits
import TaskSieve.Proofs.Text.Blank

set_option autoImplicit false

/-! # Reading integers

A text of minus signs and figures is an integer exactly if it has one sign at most and each figure
is a decimal digit of some script. The text that an integer is written with is read as that
integer. -/

namespace TaskSieve

namespace Text

/-- Every figure that is no decimal digit lies beyond ASCII. -/
theorem le_toNat_of_isFigure {c : Char} (h : isFigure c = true) (hc : digitValue? c = none) :
    0x80 ≤ c.toNat := by
  have hrange : inRanges figureRanges c.toNat = true := by
    simpa [isFigure, isDigit, hc] using h
  simp only [inRanges, List.any_eq_true] at hrange
  obtain ⟨r, hr, hin⟩ := hrange
  have beyond : ∀ r ∈ figureRanges, 0x80 ≤ r.1 := by decide
  have := beyond r hr
  simp only [Bool.and_eq_true, decide_eq_true_eq] at hin
  omega

theorem ne_minus_of_isFigure {c : Char} (h : isFigure c = true) : c ≠ '-' := by
  rintro rfl
  exact absurd h (by decide)

end Text

namespace Decimal

/-! ## Plain digits -/

/-- The plain digit that a figure is written as, if it is a decimal digit. -/
def plainDigit? (c : Char) : Option Char :=
  match Text.digitValue? c with
  | some d => some (Nat.digitChar d)
  | none => if c.toNat < 0x80 then some c else none

theorem plainDigits?_cons (c : Char) (cs : List Char) :
    plainDigits? (c :: cs) = (plainDigit? c).bind fun d => (plainDigits? cs).map (d :: ·) := by
  simp only [Option.map_eq_bind]
  rw [plainDigits?, List.mapM_cons]
  rfl

theorem plainDigit?_of_isDigit {c : Char} (h : Text.isDigit c = true) :
    ∃ d, plainDigit? c = some d ∧ d.isDigit = true := by
  obtain ⟨n, hn⟩ := Option.isSome_iff_exists.1 h
  refine ⟨Nat.digitChar n, by rw [plainDigit?, hn], ?_⟩
  simp [Text.digitValue?_lt hn]

theorem plainDigit?_of_figure {c : Char} (h : Text.isFigure c = true)
    (hc : Text.isDigit c = false) : plainDigit? c = none := by
  have hnone : Text.digitValue? c = none := by
    simpa [Text.isDigit] using hc
  have := Text.le_toNat_of_isFigure h hnone
  rw [plainDigit?, hnone]
  exact if_neg (by omega)

theorem plainDigits?_of_digits {ds : List Char} (h : ∀ d ∈ ds, Text.isDigit d = true) :
    ∃ es, plainDigits? ds = some es ∧ es.length = ds.length ∧ ∀ e ∈ es, e.isDigit = true := by
  induction ds with
  | nil => exact ⟨[], rfl, rfl, by simp⟩
  | cons d ds ih =>
    obtain ⟨e, he, hdigit⟩ := plainDigit?_of_isDigit (h d List.mem_cons_self)
    obtain ⟨es, hes, hlength, hdigits⟩ := ih fun d' hd => h d' (List.mem_cons_of_mem d hd)
    refine ⟨e :: es, ?_, by rw [List.length_cons, List.length_cons, hlength], ?_⟩
    · rw [plainDigits?_cons, he, hes]
      rfl
    · intro e' he'
      rcases List.mem_cons.1 he' with rfl | he'
      · exact hdigit
      · exact hdigits e' he'

theorem plainDigits?_of_figure {cs : List Char} {c : Char} (hmem : c ∈ cs)
    (hc : plainDigit? c = none) : plainDigits? cs = none := by
  induction cs with
  | nil => exact absurd hmem List.not_mem_nil
  | cons d cs ih =>
    rw [plainDigits?_cons]
    rcases List.mem_cons.1 hmem with rfl | hmem
    · rw [hc, Option.bind_none]
    · rw [ih hmem]
      exact Option.bind_fun_none _

theorem plainDigits?_replicate (k : Nat) (cs : List Char) :
    plainDigits? (List.replicate k '-' ++ cs) =
      (plainDigits? cs).map (List.replicate k '-' ++ ·) := by
  induction k with
  | zero => simp
  | succ k ih =>
    have hminus : plainDigit? '-' = some '-' := by decide
    rw [List.replicate_succ, List.cons_append, plainDigits?_cons, hminus, ih, Option.bind_some,
      Option.map_map]
    rfl

/-- Without underscores nothing is grouped. -/
theorem ungroup?_of_not_mem {cs : List Char} (h : '_' ∉ cs) : ungroup? cs = some cs := by
  have go : ∀ last, ungroup?.go last cs = some cs := by
    induction cs with
    | nil => exact fun _ => rfl
    | cons c cs ih =>
      intro last
      obtain ⟨hc, hcs⟩ := not_or.1 (mt List.mem_cons.2 h)
      rw [ungroup?.go.eq_4 _ _ _ (fun _ _ heq _ => hc heq.symm) (fun heq _ => hc heq.symm),
        ih hcs]
      rfl
  exact go '_'

/-! ## Signs -/

theorem takeSign_of_isDigit {c : Char} (h : c.isDigit = true) (cs : List Char) :
    takeSign (c :: cs) = (false, c :: cs) := by
  rw [takeSign.eq_3]
  · rintro _ heq
    exact absurd h ((List.cons.inj heq).1 ▸ by decide)
  · rintro _ heq
    exact absurd h ((List.cons.inj heq).1 ▸ by decide)

/-- One minus sign at most can stand before the digits of an integer. -/
theorem isSome_readInteger? {k : Nat} {es : List Char} (hne : es ≠ [])
    (h : ∀ e ∈ es, e.isDigit = true) :
    (readInteger? (List.replicate k '-' ++ es)).isSome = true ↔ k ≤ 1 := by
  obtain ⟨e, es, rfl⟩ := List.exists_cons_of_ne_nil hne
  have he : e.isDigit = true := h e List.mem_cons_self
  have hall : (e :: es).all Char.isDigit = true := List.all_eq_true.2 h
  match k with
  | 0 =>
    rw [List.replicate_zero, List.nil_append, readInteger?, takeSign_of_isDigit he]
    simp [hall]
  | 1 =>
    rw [List.replicate_one, List.singleton_append, readInteger?, takeSign]
    simp [hall]
  | k + 2 =>
    rw [List.replicate_succ, List.replicate_succ, List.cons_append, List.cons_append, readInteger?,
      takeSign]
    simp

/-- A trimmed text of minus signs and figures is an integer exactly if it has one sign at most and
all of its figures are decimal digits. -/
theorem isSome_integerOf? {k : Nat} {ds : List Char} (hne : ds ≠ [])
    (figures : ∀ d ∈ ds, Text.isFigure d = true)
    (trimmed : Text.trimWhile Text.isSpace (List.replicate k '-' ++ ds) =
      List.replicate k '-' ++ ds) :
    (integerOf? (List.replicate k '-' ++ ds)).isSome = true ↔
      k ≤ 1 ∧ ∀ d ∈ ds, Text.isDigit d = true := by
  rw [integerOf?, plain?, trimmed, plainDigits?_replicate]
  by_cases digits : ∀ d ∈ ds, Text.isDigit d = true
  · obtain ⟨es, hes, hlength, hdigits⟩ := plainDigits?_of_digits digits
    have hesne : es ≠ [] := by
      rintro rfl
      exact hne (List.length_eq_zero_iff.1 hlength.symm)
    have hunder : '_' ∉ List.replicate k '-' ++ es := by
      intro hmem
      rcases List.mem_append.1 hmem with hmem | hmem
      · exact absurd (List.eq_of_mem_replicate hmem) (by decide)
      · exact absurd (hdigits _ hmem) (by decide)
    rw [hes, Option.map_some, Option.bind_some, ungroup?_of_not_mem hunder, Option.bind_some,
      isSome_readInteger? hesne hdigits]
    exact ⟨fun h => ⟨h, digits⟩, And.left⟩
  · obtain ⟨d, hd⟩ := not_forall.1 digits
    obtain ⟨hmem, hdigit⟩ := Classical.not_imp.1 hd
    have hnone := plainDigits?_of_figure hmem
      (plainDigit?_of_figure (figures d hmem) (by simpa using hdigit))
    rw [hnone, Option.map_none, Option.bind_none, Option.bind_none]
    exact ⟨fun h => absurd h (by simp), fun h => absurd h.2 digits⟩

/-! ## Characters of numbers -/

/-- A plain digit is written as itself. -/
theorem plainDigit?_of_plain {c : Char} (h : c.isDigit = true) : plainDigit? c = some c := by
  have digits : ∀ i, i < 10 → Nat.digitChar i = Char.ofNat (i + '0'.toNat) := by decide
  have value := Text.digitValue?_of_isDigit h
  have hlow : '0'.toNat ≤ c.toNat := by
    simp only [Char.isDigit, Bool.and_eq_true, decide_eq_true_eq, UInt32.le_iff_toNat_le,
      ge_iff_le] at h
    exact h.1
  rw [plainDigit?, value]
  dsimp only
  rw [digits _ (Text.digitValue?_lt value), Nat.sub_add_cancel hlow, Char.ofNat_toNat]

theorem plainDigits?_of_plain {cs : List Char} (h : ∀ c ∈ cs, plainDigit? c = some c) :
    plainDigits? cs = some cs := by
  induction cs with
  | nil => rfl
  | cons c cs ih =>
    rw [plainDigits?_cons, h c List.mem_cons_self,
      ih fun d hd => h d (List.mem_cons_of_mem c hd)]
    rfl

/-- A character that decimals are written with. -/
def IsNumeral (c : Char) : Prop := c.isDigit = true ∨ c ∈ ['-', '+', '.', 'e']

theorem IsNumeral.isBlank {c : Char} (h : IsNumeral c) : Text.isBlank c = false := by
  rcases h with h | h
  · exact Text.isBlank_of_isDigit (Text.isDigit_of_isDigit h)
  · simp only [List.mem_cons, List.not_mem_nil, or_false] at h
    rcases h with rfl | rfl | rfl | rfl <;> decide

/-- What decimals are written with stands for itself in a number that is spelled freely. -/
theorem plain?_of_isNumeral {cs : List Char} (h : ∀ c ∈ cs, IsNumeral c) : plain? cs = some cs := by
  have trimmed : Text.trimWhile Text.isSpace cs = cs := by
    refine Text.trimWhile_of_none fun c hc => ?_
    rw [Text.isSpace, (h c hc).isBlank, Bool.false_and]
  have plain : plainDigits? cs = some cs := by
    refine plainDigits?_of_plain fun c hc => ?_
    rcases h c hc with h | h
    · exact plainDigit?_of_plain h
    · simp only [List.mem_cons, List.not_mem_nil, or_false] at h
      rcases h with rfl | rfl | rfl | rfl <;> decide
  have ungrouped : '_' ∉ cs := fun hc => by
    rcases h '_' hc with h | h
    · exact absurd h (by decide)
    · exact absurd h (by decide)
  rw [plain?, trimmed, plain, Option.bind_some, ungroup?_of_not_mem ungrouped]

/-! ## Written integers -/

theorem readInteger?_toDigits (negative : Bool) (n : Nat) :
    readInteger? ((if negative then ['-'] else []) ++ Nat.toDigits 10 n) =
      some (if negative then -(n : Int) else n) := by
  have digits := Text.isDigits_toDigits n
  have hall : (Nat.toDigits 10 n).all Char.isDigit = true := List.all_eq_true.2 digits.all
  cases negative with
  | true =>
    simp [readInteger?, takeSign, hall, digits.ne_nil, Text.digitsValue_toDigits]
  | false =>
    have hsign : takeSign (Nat.toDigits 10 n) = (false, Nat.toDigits 10 n) := by
      obtain ⟨d, ds, hds⟩ := List.exists_cons_of_ne_nil digits.ne_nil
      rw [hds]
      exact takeSign_of_isDigit (digits.all d (hds ▸ List.mem_cons_self)) ds
    simp [readInteger?, hsign, hall, digits.ne_nil, Text.digitsValue_toDigits]

/-- The text of an integer is read as that integer. -/
theorem integerOf?_integerText (n : Int) : integerOf? (integerText n).toList = some n := by
  have htext : (integerText n).toList =
      (if decide (n < 0) then ['-'] else []) ++ Nat.toDigits 10 n.natAbs := by
    rw [toList_integerText]
    split <;> simp [*]
  have chars : ∀ c ∈ (integerText n).toList, IsNumeral c := by
    intro c hc
    rw [htext] at hc
    rcases List.mem_append.1 hc with hc | hc
    · split at hc
      · rw [List.mem_singleton.1 hc]
        exact .inr (by decide)
      · exact absurd hc List.not_mem_nil
    · exact .inl ((Text.isDigits_toDigits _).all c hc)
  rw [integerOf?, plain?_of_isNumeral chars, Option.bind_some, htext, readInteger?_toDigits]
  congr 1
  by_cases hneg : n < 0
  · rw [if_pos (decide_eq_true hneg)]
    omega
  · rw [if_neg (by simpa using hneg)]
    omega

end Decimal

end TaskSieve
