import TaskSieve.Proofs.Number.Decimal
import TaskSieve.Proofs.Number.Doubling
import TaskSieve.Proofs.Number.Layout

set_option autoImplicit false

/-! # Written numbers are read back

Both layouts of a decimal are whole digits, a fraction and a power of ten, one of the last two being
there. Such figures are read as a decimal of the same size, so the text of a floating-point number
is read as that number: `numberOf?_text`. What is read as a number has no blank in it, so it does
not matter which blanks were trimmed from it before: `numberOf?_trim`. A number that is whole is
what its integer is rounded to, but for the sign of a zero. -/

namespace TaskSieve

namespace Decimal

open Text (IsDigits digitsValue)

/-! ## Characters of numbers -/

/-- The text of a decimal has a digit in it, and nothing but digits and the marks of numbers. -/
structure IsNumeralText (cs : List Char) : Prop where
  all : ∀ c ∈ cs, IsNumeral c
  digit : ∃ c ∈ cs, c.isDigit = true

theorem isNumeral_of_mem_signText {negative : Bool} {c : Char} (h : c ∈ signText negative) :
    IsNumeral c := by
  cases negative with
  | true =>
    obtain rfl := List.mem_singleton.1 h
    exact .inr (by decide)
  | false => exact absurd h List.not_mem_nil

/-! ## Figures -/

/-- What stands behind the digits of a number, and the power of ten that it tells. -/
inductive PowerTail : List Char → Int → Prop
  | absent : PowerTail [] 0
  | told (negative : Bool) {ds : List Char} (digits : IsDigits ds) :
      PowerTail (powerText negative ds) (powerValue negative ds)

/-- The figures of a decimal: whole digits, a fraction and a power of ten that give its size. One of
the last two is there, else they were those of an integer. -/
structure FiguresOf (d : Decimal) (whole fraction tail : List Char) (power : Int) : Prop where
  front : IsDigits whole
  unpadded : IsWhole whole
  back : ∀ c ∈ fraction, c.isDigit = true
  behind : PowerTail tail power
  broken : fraction ≠ [] ∨ tail ≠ []
  size : (digitsValue (whole ++ fraction) : ℚ) * 10 ^ (power - (fraction.length : Int)) = d.size

/-- The digits before and behind a point, and those behind them. -/
def figuresText (whole fraction tail : List Char) : List Char :=
  whole ++ (fractionText fraction ++ tail)

/-- Every decimal is written with its figures, in either layout. -/
theorem exists_figures (d : Decimal) : ∃ whole fraction tail power,
    d.text.toList = signText d.negative ++ figuresText whole fraction tail ∧
      FiguresOf d whole fraction tail power := by
  by_cases h : d.IsPositional
  · obtain ⟨front, back, htext, point⟩ := toList_text_of_isPositional h
    refine ⟨front, back, [], 0, ?_, point.before, point.whole, point.behind.all, .absent,
      .inl point.behind.ne_nil, ?_⟩
    · rw [htext, figuresText, fractionText, if_neg point.behind.ne_nil, List.append_nil]
    · rw [zero_sub]
      exact point.size
  · obtain ⟨lead, fraction, negative, power, htext, at_⟩ := toList_text_of_not_isPositional h
    refine ⟨[lead], fraction, _, _, htext, ?_, at_.whole, ?_, .told negative at_.behind,
      .inr (List.cons_ne_nil _ _), at_.size⟩
    · exact ⟨List.cons_ne_nil _ _,
        fun c hc => at_.digits.all c (List.mem_singleton.1 hc ▸ List.mem_cons_self)⟩
    · exact fun c hc => at_.digits.all c (List.mem_cons_of_mem lead hc)

variable {d : Decimal} {whole fraction tail : List Char} {power : Int}

/-- What the figures of a decimal write is rounded as the decimal is. -/
theorem FiguresOf.toBinary64_eq (h : FiguresOf d whole fraction tail power) :
    toBinary64 ⟨d.negative, digitsValue (whole ++ fraction), power - fraction.length⟩ =
      d.toBinary64 :=
  toBinary64_congr rfl h.size

theorem PowerTail.isNumeral (h : PowerTail tail power) : ∀ c ∈ tail, IsNumeral c := by
  cases h with
  | absent => exact fun c hc => absurd hc List.not_mem_nil
  | told negative digits =>
    intro c hc
    rcases List.mem_cons.1 hc with rfl | hc
    · exact .inr (by decide)
    rcases List.mem_cons.1 hc with rfl | hc
    · exact .inr (by cases negative <;> decide)
    · exact .inl (digits.all c hc)

theorem isNumeralText_text (d : Decimal) : IsNumeralText d.text.toList := by
  obtain ⟨whole, fraction, tail, power, htext, figures⟩ := exists_figures d
  rw [htext, figuresText]
  constructor
  · intro c hc
    simp only [fractionText, List.mem_append] at hc
    rcases hc with hc | hc | hc | hc
    · exact isNumeral_of_mem_signText hc
    · exact .inl (figures.front.all c hc)
    · split at hc
      · exact absurd hc List.not_mem_nil
      · rcases List.mem_cons.1 hc with rfl | hc
        · exact .inr (by decide)
        · exact .inl (figures.back c hc)
    · exact figures.behind.isNumeral c hc
  · obtain ⟨c, cs, rfl⟩ := List.exists_cons_of_ne_nil figures.front.ne_nil
    exact ⟨c, by simp, figures.front.all c List.mem_cons_self⟩

/-! ## Reading figures -/

theorem takeSign_signText (negative : Bool) {c : Char} (h : c.isDigit = true) (cs : List Char) :
    takeSign (signText negative ++ c :: cs) = (negative, c :: cs) := by
  cases negative with
  | true => rfl
  | false => exact takeSign_of_isDigit h cs

theorem PowerTail.readExponent?_eq (h : PowerTail tail power) :
    readExponent? tail = some power := by
  cases h with
  | absent => rfl
  | @told negative ds digits =>
    have hall : ds.all Char.isDigit = true := List.all_eq_true.2 digits.all
    cases negative <;>
      simp [powerText, readExponent?, readInteger?, takeSign, powerValue, hall, digits.ne_nil]

/-- Behind its digits a number has no further digit. -/
theorem PowerTail.head?_isDigit (h : PowerTail tail power) :
    ∀ c ∈ tail.head?, c.isDigit = false := by
  cases h with
  | absent => exact fun c hc => absurd hc (by simp)
  | told negative digits => exact fun c hc => Option.some.inj hc ▸ rfl

theorem readUnsigned?_figuresText (negative : Bool) (digits : IsDigits whole)
    (hfraction : ∀ c ∈ fraction, c.isDigit = true) (htail : PowerTail tail power) :
    readUnsigned? negative (figuresText whole fraction tail) =
      some ⟨negative, digitsValue (whole ++ fraction), power - fraction.length⟩ := by
  have hne : whole.isEmpty = false := List.isEmpty_eq_false_iff.2 digits.ne_nil
  have hstop : ∀ c ∈ (fractionText fraction ++ tail).head?, c.isDigit = false := by
    rw [fractionText]
    split
    · exact htail.head?_isDigit
    · exact fun c hc => Option.some.inj hc ▸ rfl
  rw [readUnsigned?, figuresText, Text.takeWhile_append_of_head? digits.all hstop,
    Text.dropWhile_append_of_head? digits.all hstop, fractionText]
  by_cases hnil : fraction = []
  · subst hnil
    -- the power must not be taken for a fraction
    have hpoint : ∀ rest, tail = '.' :: rest → False := by
      cases htail with
      | absent => exact fun _ h => List.cons_ne_nil _ _ h.symm
      | told negative digits => exact fun _ h => absurd (List.cons.inj h).1 (by decide)
    rw [if_pos rfl, List.nil_append]
    split
    next fraction' rest hsplit =>
    split at hsplit
    · exact (hpoint _ rfl).elim
    · obtain ⟨rfl, rfl⟩ := Prod.mk.inj hsplit
      simp [hne, htail.readExponent?_eq]
  · rw [if_neg hnil]
    simp [hne, htail.readExponent?_eq,
      Text.takeWhile_append_of_head? hfraction htail.head?_isDigit,
      Text.dropWhile_append_of_head? hfraction htail.head?_isDigit]

/-- What starts with a digit is not the name of a number. -/
theorem readNumber?_of_isDigit (negative : Bool) {c : Char} (h : c.isDigit = true)
    (cs : List Char) : readNumber? (signText negative ++ c :: cs) =
      (readUnsigned? negative (c :: cs)).map toBinary64 := by
  have apart : ∀ word : String, word.toList.head? ≠ some c →
      String.ofList ((c :: cs).map Char.toLower) ≠ word := by
    rintro word hword rfl
    rw [String.toList_ofList, List.map_cons, Text.toLower_of_isDigit h] at hword
    exact hword rfl
  have named : ∀ letter : Char, letter.isDigit = false → some letter ≠ some c := by
    rintro letter hletter heq
    rw [Option.some.inj heq, h] at hletter
    exact absurd hletter (by decide)
  rw [readNumber?, takeSign_signText negative h]
  dsimp only
  rw [if_neg (not_or.2 ⟨apart "inf" (named 'i' rfl), apart "infinity" (named 'i' rfl)⟩),
    if_neg (apart "nan" (named 'n' rfl))]

/-- The text of a decimal is read as the number that it is rounded to. -/
theorem numberOf?_decimal (d : Decimal) : numberOf? d.text.toList = some d.toBinary64 := by
  rw [numberOf?, plain?_of_isNumeral (isNumeralText_text d).all, Option.bind_some]
  obtain ⟨whole, fraction, tail, power, htext, figures⟩ := exists_figures d
  have read := readUnsigned?_figuresText d.negative figures.front figures.back figures.behind
  obtain ⟨c, cs, rfl⟩ := List.exists_cons_of_ne_nil figures.front.ne_nil
  rw [figuresText, List.cons_append] at htext read
  rw [htext, readNumber?_of_isDigit _ (figures.front.all c List.mem_cons_self), read,
    Option.map_some, figures.toBinary64_eq]

/-- What is read as a number was rounded, or is not finite. -/
theorem canonical_of_numberOf? {cs : List Char} {x : Binary64} (h : numberOf? cs = some x) :
    x.Canonical := by
  obtain ⟨ds, -, hread⟩ := Option.bind_eq_some_iff.1 h
  rw [readNumber?] at hread
  dsimp only at hread
  split at hread
  · cases hread
    trivial
  split at hread
  · cases hread
    trivial
  · obtain ⟨d, -, rfl⟩ := Option.map_eq_some_iff.1 hread
    exact canonical_toBinary64 d

/-- The text of a floating-point number is read as that number. -/
theorem numberOf?_text {x : Binary64} (h : x.Canonical) : numberOf? x.text.toList = some x := by
  cases x with
  | nan => decide
  | infinite s => cases s <;> decide
  | finite s m e =>
    rw [Binary64.text, numberOf?_decimal, toBinary64_shortest s h]

/-! ## Blanks around a number -/

/-- A text without a blank in it. -/
def Unblank (cs : List Char) : Prop := ∀ c ∈ cs, Text.isBlank c = false

theorem unblank_of_isDigit {cs : List Char} (h : ∀ c ∈ cs, c.isDigit = true) : Unblank cs :=
  fun c hc => Text.isBlank_of_isDigit (Text.isDigit_of_isDigit (h c hc))

theorem Unblank.cons {c : Char} {cs : List Char} (hc : Text.isBlank c = false) (h : Unblank cs) :
    Unblank (c :: cs) :=
  fun d hd => (List.mem_cons.1 hd).elim (fun heq => heq ▸ hc) (h d)

theorem Unblank.append {cs ds : List Char} (h : Unblank cs) (h' : Unblank ds) :
    Unblank (cs ++ ds) :=
  fun c hc => (List.mem_append.1 hc).elim (h c) (h' c)

/-- A sign is not blank. -/
theorem unblank_of_takeSign {cs : List Char} (h : Unblank (takeSign cs).2) : Unblank cs := by
  unfold takeSign at h
  split at h
  · exact h.cons (by decide)
  · exact h.cons (by decide)
  · exact h

theorem unblank_of_readInteger? {cs : List Char} {n : Int} (h : readInteger? cs = some n) :
    Unblank cs := by
  rw [readInteger?] at h
  dsimp only at h
  split at h
  · next hdigits => exact unblank_of_takeSign (unblank_of_isDigit (List.all_eq_true.1 hdigits.2))
  · exact absurd h (by simp)

theorem unblank_of_readExponent? {cs : List Char} {n : Int} (h : readExponent? cs = some n) :
    Unblank cs := by
  unfold readExponent? at h
  split at h
  · exact fun c hc => absurd hc List.not_mem_nil
  · split at h
    · next hletter =>
      refine (unblank_of_readInteger? h).cons ?_
      rcases hletter with rfl | rfl <;> decide
    · exact absurd h (by simp)

theorem unblank_of_readUnsigned? {negative : Bool} {cs : List Char} {d : Decimal}
    (h : readUnsigned? negative cs = some d) : Unblank cs := by
  have digits (ds : List Char) : Unblank (ds.takeWhile Char.isDigit) :=
    unblank_of_isDigit fun _ => List.mem_takeWhile_imp
  rw [← List.takeWhile_append_dropWhile (p := Char.isDigit) (l := cs)]
  refine (digits cs).append ?_
  rw [readUnsigned?] at h
  generalize cs.takeWhile Char.isDigit = whole at h
  generalize cs.dropWhile Char.isDigit = rest at h
  split at h
  next fraction tail hsplit =>
  split at h
  · exact absurd h (by simp)
  obtain ⟨power, hpower, -⟩ := Option.bind_eq_some_iff.1 h
  have htail := unblank_of_readExponent? hpower
  split at hsplit
  · next after =>
    obtain ⟨rfl, rfl⟩ := Prod.mk.inj hsplit
    rw [← List.takeWhile_append_dropWhile (p := Char.isDigit) (l := after)]
    exact ((digits after).append htail).cons (by decide)
  · obtain ⟨rfl, rfl⟩ := Prod.mk.inj hsplit
    exact htail

/-- What is read as a number has no blank in it. -/
theorem unblank_of_readNumber? {cs : List Char} {x : Binary64} (h : readNumber? cs = some x) :
    Unblank cs := by
  refine unblank_of_takeSign ?_
  rw [readNumber?] at h
  dsimp only at h
  have named {word : String} (hword : word.toList.all (!Text.isBlank ·) = true)
      (heq : String.ofList ((takeSign cs).2.map Char.toLower) = word) :
      Unblank (takeSign cs).2 := by
    subst heq
    rw [String.toList_ofList] at hword
    exact Text.isBlank_of_map_toLower hword
  split at h
  · next hword => exact hword.elim (named (by decide)) (named (by decide))
  split at h
  · next hword => exact named (by decide) hword
  obtain ⟨d, hd, -⟩ := Option.map_eq_some_iff.1 h
  exact unblank_of_readUnsigned? hd

/-- Ungrouping takes away underscores only. -/
theorem mem_of_ungroup? {cs ds : List Char} (h : ungroup? cs = some ds) {c : Char} (hc : c ∈ cs)
    (hne : c ≠ '_') : c ∈ ds := by
  have go (last : Char) (cs ds : List Char) (h : ungroup?.go last cs = some ds) (hc : c ∈ cs) :
      c ∈ ds := by
    induction last, cs using ungroup?.go.induct generalizing ds with
    | case1 last => exact absurd hc List.not_mem_nil
    | case2 last d rest hdigits ih =>
      rw [ungroup?.go, if_pos hdigits] at h
      obtain ⟨es, hes, rfl⟩ := Option.map_eq_some_iff.1 h
      rcases List.mem_cons.1 hc with rfl | hc
      · exact absurd rfl hne
      rcases List.mem_cons.1 hc with rfl | hc
      · exact List.mem_cons_self
      · exact List.mem_cons_of_mem d (ih es hes hc)
    | case3 last d rest hdigits =>
      rw [ungroup?.go, if_neg hdigits] at h
      exact absurd h (by simp)
    | case4 last => exact absurd (List.mem_singleton.1 hc) hne
    | case5 last d rest hmore hend ih =>
      rw [ungroup?.go.eq_4 _ _ _ hmore hend] at h
      obtain ⟨es, hes, rfl⟩ := Option.map_eq_some_iff.1 h
      rcases List.mem_cons.1 hc with rfl | hc
      · exact List.mem_cons_self
      · exact List.mem_cons_of_mem d (ih es hes hc)
  exact go '_' cs ds h hc

/-- A blank stays a blank in plain digits. -/
theorem mem_of_plainDigits? {cs ds : List Char} (h : plainDigits? cs = some ds) {c : Char}
    (hc : c ∈ cs) (hblank : Text.isBlank c = true) : c ∈ ds := by
  induction cs generalizing ds with
  | nil => exact absurd hc List.not_mem_nil
  | cons b cs ih =>
    rw [plainDigits?_cons] at h
    obtain ⟨d, hd, hrest⟩ := Option.bind_eq_some_iff.1 h
    obtain ⟨es, hes, rfl⟩ := Option.map_eq_some_iff.1 hrest
    rcases List.mem_cons.1 hc with rfl | hc
    · have hnone : Text.digitValue? c = none := by
        by_contra hsome
        have := Text.isBlank_of_isDigit (Option.isSome_iff_ne_none.2 hsome)
        rw [hblank] at this
        exact absurd this (by decide)
      rw [plainDigit?, hnone] at hd
      dsimp only at hd
      split at hd
      · exact Option.some.inj hd ▸ List.mem_cons_self
      · exact absurd hd (by simp)
    · exact List.mem_cons_of_mem d (ih hes hc)

/-- A number stays the same number if all blanks around it are taken away. -/
theorem numberOf?_trim {cs : List Char} {x : Binary64} (h : numberOf? cs = some x) :
    numberOf? (Text.trim cs) = some x := by
  obtain ⟨ds, hplain, hread⟩ := Option.bind_eq_some_iff.1 h
  obtain ⟨es, hes, hungroup⟩ := Option.bind_eq_some_iff.1 hplain
  have hnone : ∀ c ∈ Text.trimWhile Text.isSpace cs, Text.isBlank c = false := by
    intro c hc
    by_contra hblank
    rw [Bool.not_eq_false] at hblank
    -- a blank would still be there in the digits that were read
    have hmem : c ∈ ds := by
      refine mem_of_ungroup? hungroup (mem_of_plainDigits? hes hc hblank) ?_
      rintro rfl
      exact absurd hblank (by decide)
    rw [unblank_of_readNumber? hread c hmem] at hblank
    exact absurd hblank (by decide)
  have hspace : ∀ c, Text.isSpace c = true → Text.isBlank c = true := fun _ =>
    Text.isBlank_of_isSpace
  rw [numberOf?, plain?, Text.trim, Text.trimWhile_trimWhile hspace,
    Text.trimWhile_eq_of_none hspace hnone]
  exact h

end Decimal

/-! ## Whole numbers -/

namespace Binary64

theorem toInt?_eq_some_iff {x : Binary64} {n : Int} :
    x.toInt? = some n ↔ x.toRat? = some (n : ℚ) := by
  cases x with
  | nan => simp [toInt?, toRat?]
  | infinite _ => simp [toInt?, toRat?]
  | finite s m e =>
    rw [toInt?, toRat?, Option.some.injEq]
    constructor
    · intro h
      split at h
      · next hden =>
        obtain rfl := Option.some.inj h
        exact (Rat.den_eq_one_iff _).1 hden |>.symm
      · exact absurd h (by simp)
    · intro h
      simp only [h]
      rfl

/-- Zero is the only number of its size. -/
theorem eq_zero_of_toInt? {x : Binary64} (h : x.Canonical) (hzero : x.toInt? = some 0) :
    ∃ s, x = finite s 0 (-1074) := by
  rw [toInt?_eq_some_iff] at hzero
  cases x with
  | nan => cases hzero
  | infinite _ => cases hzero
  | finite s m e =>
    have hvalue : value s m e = 0 := by simpa [toRat?] using hzero
    have hm : m = 0 := by
      rw [value_eq] at hvalue
      cases s <;> simpa [zpow_ne_zero] using hvalue
    subst hm
    have normal : IsNormal 0 e := h
    rcases normal.le with rfl | hle
    · exact ⟨s, rfl⟩
    · exact absurd hle (by decide)

/-- A number that is a whole number other than zero is what that whole number is rounded to. -/
theorem ofInt?_of_toInt? {x : Binary64} (h : x.Canonical) {n : Int} (hn : x.toInt? = some n)
    (hne : n ≠ 0) : ofInt? n = some x := by
  rw [toInt?_eq_some_iff] at hn
  cases x with
  | nan => cases hn
  | infinite _ => cases hn
  | finite s m e =>
    have hvalue : (if s then -1 else 1) * ((m : ℚ) * 2 ^ e) = n := by
      rw [← value_eq]
      exact Option.some.inj hn
    have hm : 0 < m := by
      refine Nat.pos_of_ne_zero ?_
      rintro rfl
      rw [Nat.cast_zero, zero_mul, mul_zero] at hvalue
      exact hne (by exact_mod_cast hvalue.symm)
    have hpos : (0 : ℚ) < m * 2 ^ e := by positivity
    have hsign : decide (n < 0) = s := by
      have hcast : n < 0 ↔ (if s then -1 else 1) * ((m : ℚ) * 2 ^ e) < 0 := by
        rw [hvalue, Int.cast_lt_zero]
      cases s with
      | true => exact decide_eq_true (hcast.2 (by simpa using hpos))
      | false => exact decide_eq_false (mt hcast.1 (by simpa using hpos.le))
    -- a quotient of the size of a number in normal form is rounded to that number
    have hsize : ((n.natAbs : Nat) : ℚ) / (1 : Nat) = m * 2 ^ e := by
      rw [Nat.cast_natAbs, Int.cast_abs, ← hvalue, abs_mul, abs_of_pos hpos]
      cases s <;> simp
    rw [ofInt?, ofInt, hsign, ofQuotient_of_isNormal s h hm Nat.one_pos hsize]

end Binary64

end TaskSieve
