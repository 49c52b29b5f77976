import TaskSieve.Datum.Reader
import TaskSieve.Datum.Writer
import TaskSieve.Proofs.Datum.Fields
import TaskSieve.Proofs.Except
import TaskSieve.Proofs.Number.Overlong
import TaskSieve.Proofs.Number.Reading
import TaskSieve.Proofs.Text.Blank

set_option autoImplicit false

/-! # Written data are read back

A value whose integers are short enough is written as JSON and read as the same value: `read_write`.
Texts are taken character by
character, each with its own escape; integers by their digits; lists and records by what stands
after each of their values; floating-point numbers by the figures of their shortest decimals, or by
name. Dates are not treated here, since a text is what they are written as. -/

namespace TaskSieve.Datum

open Reader Writer
open Text (IsDigits digitsValue)
open Decimal (IsWhole PowerTail FiguresOf powerText powerValue fractionText figuresText)

/-! ## Characters -/

theorem hexDigit?_digitChar : ∀ d < 16, hexDigit? (Nat.digitChar d) = some d := by decide

/-- A digit more is the next digit at the end. -/
theorem hex_succ {k : Nat} (hk : 0 < k) (n : Nat) :
    Text.hex (k + 1) n = Text.hex k (n / 16) ++ [Nat.digitChar (n % 16)] := by
  rw [Text.hex, Text.hex, Nat.toDigits_eq_if (by decide)]
  split
  · next h =>
    obtain ⟨k, rfl⟩ : ∃ j, k = j + 1 := ⟨k - 1, by omega⟩
    rw [Nat.div_eq_of_lt h, Nat.mod_eq_of_lt h, Nat.toDigits_zero]
    simp [List.replicate_succ']
  · simp

theorem hex_one {n : Nat} (h : n < 16) : Text.hex 1 n = [Nat.digitChar n] := by
  rw [Text.hex, Nat.toDigits_of_lt_base h]
  rfl

/-- Four digits write a code unit, and they are read as that unit. -/
theorem exists_hex_four {n : Nat} (h : n < 0x10000) :
    ∃ a b c d, Text.hex 4 n = [a, b, c, d] ∧ hexValue? a b c d = some n := by
  refine ⟨Nat.digitChar (n / 16 / 16 / 16), Nat.digitChar (n / 16 / 16 % 16),
    Nat.digitChar (n / 16 % 16), Nat.digitChar (n % 16), ?_, ?_⟩
  · rw [hex_succ (by decide), hex_succ (by decide), hex_succ (by decide), hex_one (by omega)]
    rfl
  · rw [hexValue?, hexDigit?_digitChar _ (by omega), hexDigit?_digitChar _ (by omega),
      hexDigit?_digitChar _ (by omega), hexDigit?_digitChar _ (by omega)]
    simp only [Option.bind_eq_bind, Option.bind_some, Option.some.injEq]
    omega

/-- What is read after a character is read. -/
def prepend (c : Char) (read : Option (List Char × List Char)) : Option (List Char × List Char) :=
  read.map fun r => (c :: r.1, r.2)

/-- A unit that is not the first of a pair stands alone, whatever follows. -/
theorem string?_unitEscape {n : Nat} (h : n < 0x10000) (hhigh : isHighUnit n = false)
    (rest : List Char) :
    string? (unitEscape n ++ rest) = prepend (unitChar n) (string? rest) := by
  obtain ⟨a, b, c, d, hhex, hvalue⟩ := exists_hex_four h
  have alone : ((string? rest).bind fun r => some (unitChar n :: r.1, r.2)) =
      prepend (unitChar n) (string? rest) := by
    cases string? rest <;> rfl
  rw [unitEscape, hhex]
  simp only [List.cons_append, List.nil_append]
  rw [string?]
  simp only [hvalue, hhigh, Option.bind_eq_bind, Option.bind_some, Bool.false_and,
    Bool.false_eq_true, ↓reduceIte]
  split
  · split
    · exact alone
    · exact alone
  · exact alone

theorem string?_pair {high low : Nat} (hhigh : isHighUnit high = true)
    (hlow : isLowUnit low = true) (rest : List Char) :
    string? (unitEscape high ++ (unitEscape low ++ rest)) =
      prepend (pairChar high low) (string? rest) := by
  have hhigh' : high < 0x10000 := by simp [isHighUnit] at hhigh; omega
  have hlow' : low < 0x10000 := by simp [isLowUnit] at hlow; omega
  obtain ⟨a, b, c, d, hhex, hvalue⟩ := exists_hex_four hhigh'
  obtain ⟨a', b', c', d', hhex', hvalue'⟩ := exists_hex_four hlow'
  rw [unitEscape, hhex, unitEscape, hhex']
  simp only [List.cons_append, List.nil_append]
  rw [string?]
  simp only [hvalue, hvalue', hhigh, hlow, Option.bind_eq_bind, Option.bind_some, Bool.and_self,
    ↓reduceIte]
  cases string? rest <;> rfl

theorem string?_escape {c d : Char} (h : escape? c = some d) (rest : List Char) :
    string? ('\\' :: c :: rest) = prepend d (string? rest) := by
  have hu : c ≠ 'u' := by
    rintro rfl
    cases h
  rw [string?.eq_def]
  split
  case h_4 heq =>
    obtain ⟨-, rfl, rfl⟩ : True ∧ _ ∧ _ := by simpa using heq
    rw [h]
    cases string? rest <;> rfl
  case h_5 hno heq =>
    obtain ⟨rfl, rfl⟩ := List.cons.inj heq
    exact absurd rfl (hno c rest rfl)
  all_goals simp_all

theorem string?_plain {c : Char} (hlow : 0x20 ≤ c.toNat) (hquote : c ≠ '"') (hslash : c ≠ '\\')
    (rest : List Char) : string? (c :: rest) = prepend c (string? rest) := by
  rw [string?.eq_def]
  split
  case h_5 heq =>
    obtain ⟨rfl, rfl⟩ := List.cons.inj heq
    rw [if_neg (by simp [hslash]; omega)]
    cases string? rest <;> rfl
  all_goals simp_all

/-- The characters with an escape of one letter. -/
def lettered : List Char := ['"', '\\', '\n', '\r', '\t', '\x08', '\x0c']

theorem charText_of_lettered {c : Char} (h : c ∈ lettered) :
    ∃ e, charText c = ['\\', e] ∧ escape? e = some c := by
  simp only [lettered, List.mem_cons, List.not_mem_nil, or_false] at h
  rcases h with rfl | rfl | rfl | rfl | rfl | rfl | rfl
  all_goals exact ⟨_, rfl, rfl⟩

theorem charText_of_not_lettered {c : Char} (h : c ∉ lettered) :
    charText c =
      if 0x20 ≤ c.toNat ∧ c.toNat < 0x7F then [c]
      else if c.toNat < 0x10000 then unitEscape c.toNat
      else unitEscape (0xD800 + (c.toNat - 0x10000) / 0x400) ++
        unitEscape (0xDC00 + (c.toNat - 0x10000) % 0x400) := by
  simp only [lettered, List.mem_cons, List.not_mem_nil, or_false, not_or] at h
  simp [charText, h]

/-- A character inside a text is read as itself. -/
theorem string?_charText (c : Char) (rest : List Char) :
    string? (charText c ++ rest) = prepend c (string? rest) := by
  by_cases hletter : c ∈ lettered
  · obtain ⟨e, htext, hescape⟩ := charText_of_lettered hletter
    rw [htext]
    exact string?_escape hescape rest
  have hvalid : c.toNat < 0xD800 ∨ 0xDFFF < c.toNat ∧ c.toNat < 0x110000 := c.valid
  rw [charText_of_not_lettered hletter]
  split
  · next h =>
    refine string?_plain h.1 ?_ ?_ rest
    · rintro rfl
      exact hletter (by decide)
    · rintro rfl
      exact hletter (by decide)
  split
  · next h =>
    have hhigh : isHighUnit c.toNat = false := by simp [isHighUnit]; omega
    have hlow : isLowUnit c.toNat = false := by simp [isLowUnit]; omega
    rw [string?_unitEscape h hhigh, unitChar, hhigh, hlow]
    simp
  · next h =>
    -- the two units carry the upper and the lower ten bits above the first plane
    have hpair : pairChar (0xD800 + (c.toNat - 0x10000) / 0x400)
        (0xDC00 + (c.toNat - 0x10000) % 0x400) = c := by
      rw [pairChar]
      convert Char.ofNat_toNat c using 2
      omega
    rw [List.append_assoc, string?_pair (by simp [isHighUnit]; omega)
      (by simp [isLowUnit]; omega), hpair]

/-- A written text is read as itself. -/
theorem string?_stringText (s : String) (rest : List Char) :
    string? (s.toList.flatMap charText ++ '"' :: rest) = some (s.toList, rest) := by
  induction s.toList with
  | nil => rfl
  | cons c cs ih => rw [List.flatMap_cons, List.append_assoc, string?_charText, ih]; rfl

/-! ## What stands after a value -/

/-- Whether a text can stand after a written value: it is empty, or starts with a comma or a line
end. -/
def EndsValue (rest : List Char) : Prop := ∀ c ∈ rest.head?, c = ',' ∨ c = '\n'

theorem endsValue_nil : EndsValue [] := by simp [EndsValue]

theorem endsValue_comma (rest : List Char) : EndsValue (',' :: rest) := by simp [EndsValue]

theorem endsValue_lineStart (level : Nat) (rest : List Char) :
    EndsValue (lineStart level ++ rest) := by simp [EndsValue, lineStart]

/-- A line start is a gap. -/
theorem skipGaps_lineStart (level : Nat) (rest : List Char) :
    skipGaps (lineStart level ++ rest) = skipGaps rest := by
  have hgap : ∀ c ∈ lineStart level, isGap c = true := by
    intro c hc
    rcases List.mem_cons.1 hc with rfl | hblank
    · rfl
    · rw [List.eq_of_mem_replicate hblank]
      rfl
  rw [skipGaps, List.dropWhile_append_of_pos hgap, skipGaps]

theorem skipGaps_cons {c : Char} (h : isGap c = false) (rest : List Char) :
    skipGaps (c :: rest) = c :: rest := by
  simp [skipGaps, h]

/-! ## Numbers -/

/-- No number goes on in what can stand after a value. -/
theorem EndsValue.isDigit {rest : List Char} (h : EndsValue rest) :
    ∀ c ∈ rest.head?, c.isDigit = false := by
  intro c hc
  rcases h c hc with rfl | rfl <;> rfl

theorem EndsValue.takeFraction {rest : List Char} (h : EndsValue rest) :
    takeFraction rest = ([], rest) := by
  cases rest with
  | nil => rfl
  | cons c rest => rcases h c rfl with rfl | rfl <;> rfl

theorem EndsValue.takePower {rest : List Char} (h : EndsValue rest) :
    takePower rest = (none, rest) := by
  cases rest with
  | nil => rfl
  | cons c rest => rcases h c rfl with rfl | rfl <;> simp [Reader.takePower]

variable {whole fraction tail rest : List Char} {power : Int}

/-- The digits of a whole number are taken in front of what is not a digit. -/
theorem number_of_isWhole (negative : Bool) (digits : IsDigits whole) (hwhole : IsWhole whole)
    (h : ∀ c ∈ rest.head?, c.isDigit = false) :
    Reader.number negative (whole ++ rest) =
      let (fraction, rest) := takeFraction rest
      let (power, rest) := takePower rest
      if fraction.isEmpty && power.isNone then
        let n : Int := digitsValue whole
        (Overlong.guard (Overlong.ofDigits? whole.length)
          (Datum.int (if negative then -n else n), rest)).mapError .overlong
      else
        .ok (.num (Decimal.toBinary64
          ⟨negative, digitsValue (whole ++ fraction), power.getD 0 - fraction.length⟩), rest) := by
  have hne : whole.isEmpty = false := List.isEmpty_eq_false_iff.2 digits.ne_nil
  rw [Reader.number, Text.takeWhile_append_of_head? digits.all h,
    Text.dropWhile_append_of_head? digits.all h]
  split
  next taken left hsplit =>
  -- a zero stands in front only if it is the whole number
  obtain ⟨rfl, rfl⟩ : whole = taken ∧ rest = left := by
    rcases hwhole with rfl | hfirst
    · exact Prod.mk.inj hsplit
    · split at hsplit
      · exact absurd rfl hfirst
      · exact Prod.mk.inj hsplit
  rw [hne]
  rfl

theorem number_toDigits (negative : Bool) {n : Nat} (short : Decimal.width n ≤ digitLimit)
    (h : EndsValue rest) :
    Reader.number negative (Nat.toDigits 10 n ++ rest) =
      .ok (.int (if negative then -n else n), rest) := by
  rw [number_of_isWhole negative (Text.isDigits_toDigits n) (Decimal.isWhole_toDigits n) h.isDigit,
    h.takeFraction]
  dsimp only
  rw [h.takePower, Text.digitsValue_toDigits, ← Decimal.width,
    Overlong.ofDigits?_eq_none_iff.2 short]
  rfl

/-- What stands behind the fraction of a number is read as a power of ten, if it is there. -/
theorem takePower_tail (htail : PowerTail tail power) (h : EndsValue rest) :
    ∃ power?, takePower (tail ++ rest) = (power?, rest) ∧ power?.getD 0 = power ∧
      (power?.isNone = true ↔ tail = []) := by
  cases htail with
  | absent => exact ⟨none, h.takePower, rfl, by simp⟩
  | @told negative ds digits =>
    refine ⟨some (powerValue negative ds), ?_, rfl, by simp [powerText]⟩
    cases negative <;>
      simp [powerText, Reader.takePower, Decimal.takeSign, powerValue, digits.ne_nil,
        Text.takeWhile_append_of_head? digits.all h.isDigit,
        Text.dropWhile_append_of_head? digits.all h.isDigit]

/-- Behind the digits of a fraction stands neither a digit nor a point. -/
theorem ends_of_powerTail (htail : PowerTail tail power) (h : EndsValue rest) :
    ∀ c ∈ (tail ++ rest).head?, c.isDigit = false ∧ c ≠ '.' := by
  cases htail with
  | absent =>
    intro c hc
    rcases h c hc with rfl | rfl <;> decide
  | told negative digits =>
    intro c hc
    obtain rfl := Option.some.inj hc
    decide

theorem takeFraction_fractionText {behind : List Char}
    (hfraction : ∀ c ∈ fraction, c.isDigit = true)
    (h : ∀ c ∈ behind.head?, c.isDigit = false ∧ c ≠ '.') :
    takeFraction (fractionText fraction ++ behind) = (fraction, behind) := by
  rw [fractionText]
  split
  · next hnil =>
    rw [hnil, List.nil_append, takeFraction.eq_2]
    rintro rest rfl
    exact (h '.' rfl).2 rfl
  · next hne =>
    have hdigit : ∀ c ∈ behind.head?, c.isDigit = false := fun c hc => (h c hc).1
    simp [takeFraction, Text.takeWhile_append_of_head? hfraction hdigit,
      Text.dropWhile_append_of_head? hfraction hdigit, hne]

/-- Figures are read as the decimal that they write. -/
theorem number_figuresText {d : Decimal} (figures : FiguresOf d whole fraction tail power)
    (h : EndsValue rest) : Reader.number d.negative (figuresText whole fraction tail ++ rest) =
      .ok (.num d.toBinary64, rest) := by
  have hends := ends_of_powerTail figures.behind h
  obtain ⟨power?, hpower, hvalue, hnone⟩ := takePower_tail figures.behind h
  have hstop : ∀ c ∈ (fractionText fraction ++ (tail ++ rest)).head?, c.isDigit = false := by
    rw [fractionText]
    split
    · exact fun c hc => (hends c hc).1
    · exact fun c hc => Option.some.inj hc ▸ rfl
  rw [figuresText, List.append_assoc, List.append_assoc,
    number_of_isWhole d.negative figures.front figures.unpadded hstop,
    takeFraction_fractionText figures.back hends]
  dsimp only
  rw [hpower]
  dsimp only
  rw [hvalue, figures.toBinary64_eq, if_neg]
  rw [Bool.and_eq_true, hnone, List.isEmpty_iff]
  exact not_and_or.2 figures.broken

theorem atom_digit {d : Char} (h : d.isDigit = true) (rest : List Char) :
    Reader.atom (d :: rest) = Reader.number false (d :: rest) := by
  unfold Reader.atom
  split
  case h_8 => rfl
  all_goals
    obtain ⟨rfl, -⟩ := List.cons.inj ‹d :: rest = _›
    cases h

theorem atom_minus {d : Char} (h : d.isDigit = true) (rest : List Char) :
    Reader.atom ('-' :: d :: rest) = Reader.number true (d :: rest) := by
  unfold Reader.atom
  split
  case h_6 heq =>
    obtain ⟨rfl, -⟩ : d = 'I' ∧ _ := by simpa using heq
    cases h
  case h_7 heq =>
    rw [(List.cons.inj heq).2]
  all_goals simp_all

theorem atom_integerText {n : Int} (short : Overlong.ofInt? n = none) {rest : List Char}
    (h : EndsValue rest) : Reader.atom ((integerText n).toList ++ rest) = .ok (.int n, rest) := by
  obtain ⟨d, ds, hds⟩ := List.exists_cons_of_ne_nil (Nat.toDigits_ne_nil (b := 10) (n := n.natAbs))
  have hd : d.isDigit = true := (Text.isDigits_toDigits n.natAbs).all d (by simp [hds])
  have hread (negative : Bool) :=
    number_toDigits negative (Overlong.ofInt?_eq_none_iff.1 short) h
  rw [hds, List.cons_append] at hread
  rw [toList_integerText]
  split
  · rw [hds, List.cons_append, List.cons_append, atom_minus hd, hread]
    simp only [↓reduceIte, Except.ok.injEq, Prod.mk.injEq, int.injEq, and_true]
    omega
  · rw [hds, List.cons_append, atom_digit hd, hread]
    simp only [Bool.false_eq_true, ↓reduceIte, Except.ok.injEq, Prod.mk.injEq, int.injEq,
      and_true]
    omega

/-- A sign and digits are read as a number with that sign. -/
theorem atom_signText (negative : Bool) {d : Char} (h : d.isDigit = true) (rest : List Char) :
    Reader.atom (Decimal.signText negative ++ d :: rest) = Reader.number negative (d :: rest) := by
  cases negative with
  | true => exact atom_minus h rest
  | false => exact atom_digit h rest

theorem numberText_finite (s : Bool) (m : Nat) (e : Int) :
    numberText (.finite s m e) = (Decimal.shortest s m e).text := rfl

/-- The text of a number is read as that number. -/
theorem atom_numberText {x : Binary64} (hx : x.Canonical) (h : EndsValue rest) :
    Reader.atom ((numberText x).toList ++ rest) = .ok (.num x, rest) := by
  cases x with
  | nan => rfl
  | infinite s => cases s <;> rfl
  | finite s m e =>
    obtain ⟨whole, fraction, tail, power, htext, figures⟩ :=
      Decimal.exists_figures (Decimal.shortest s m e)
    have read := number_figuresText figures h
    obtain ⟨c, cs, rfl⟩ := List.exists_cons_of_ne_nil figures.front.ne_nil
    rw [numberText_finite, htext, List.append_assoc]
    rw [figuresText, List.cons_append, List.cons_append] at read ⊢
    rw [atom_signText _ (figures.front.all c List.mem_cons_self), read,
      Decimal.toBinary64_shortest s hx]

/-- A character that a value can start with which stands neither in quotes nor in brackets. -/
structure StartsAtom (c : Char) : Prop where
  gap : isGap c = false
  apart : c ≠ ']' ∧ c ≠ '"' ∧ c ≠ '[' ∧ c ≠ '\x7b'

theorem startsAtom_of_isDigit {c : Char} (h : c.isDigit = true) : StartsAtom c where
  gap := by
    by_contra hgap
    simp only [isGap, Bool.not_eq_false, Bool.or_eq_true, beq_iff_eq] at hgap
    rcases hgap with ((rfl | rfl) | rfl) | rfl <;> cases h
  apart := by
    refine ⟨?_, ?_, ?_, ?_⟩
    all_goals
      rintro rfl
      cases h

theorem startsAtom_minus : StartsAtom '-' := ⟨rfl, by decide⟩

theorem exists_head_integerText (n : Int) :
    ∃ c cs, (integerText n).toList = c :: cs ∧ StartsAtom c := by
  rw [toList_integerText]
  split
  · exact ⟨'-', _, rfl, startsAtom_minus⟩
  · have hdigits := Text.isDigits_toDigits n.natAbs
    obtain ⟨d, ds, hds⟩ := List.exists_cons_of_ne_nil hdigits.ne_nil
    exact ⟨d, ds, hds, startsAtom_of_isDigit (hdigits.all d (by simp [hds]))⟩

theorem exists_head_numberText (x : Binary64) :
    ∃ c cs, (numberText x).toList = c :: cs ∧ StartsAtom c := by
  cases x with
  | nan => exact ⟨'N', _, rfl, rfl, by decide⟩
  | infinite s =>
    cases s with
    | false => exact ⟨'I', _, rfl, rfl, by decide⟩
    | true => exact ⟨'-', _, rfl, startsAtom_minus⟩
  | finite s m e =>
    obtain ⟨whole, fraction, tail, power, htext, figures⟩ :=
      Decimal.exists_figures (Decimal.shortest s m e)
    rw [numberText_finite, htext]
    cases (Decimal.shortest s m e).negative with
    | true => exact ⟨'-', _, rfl, startsAtom_minus⟩
    | false =>
      obtain ⟨c, cs, rfl⟩ := List.exists_cons_of_ne_nil figures.front.ne_nil
      exact ⟨c, _, rfl, startsAtom_of_isDigit (figures.front.all c List.mem_cons_self)⟩

/-! ## Values -/

/-- A value without dates in it, whose integers are short enough, whose other numbers are in normal
form and in whose records each key occurs once. -/
inductive Plain : Datum → Prop
  | null : Plain .null
  | bool (b : Bool) : Plain (.bool b)
  | int {n : Int} (short : Overlong.ofInt? n = none) : Plain (.int n)
  | num {x : Binary64} (canonical : x.Canonical) : Plain (.num x)
  | text (s : String) : Plain (.text s)
  | list {items : List Datum} (all : ∀ d ∈ items, Plain d) : Plain (.list items)
  | record {fields : Fields} (keys : (fields.map Prod.fst).Nodup) (all : ∀ f ∈ fields, Plain f.2) :
      Plain (.record fields)

/-- Whether a value that is written at a level is read back, whatever may follow. The length of its
text bounds the steps that this takes. -/
def ReadBack (level : Nat) (d : Datum) : Prop :=
  ∀ fuel rest, EndsValue rest → (valueText level d).length < fuel →
    Reader.value fuel (valueText level d ++ rest) = .ok (d, rest)

/-- A value starts with a character that is neither a gap nor a closing bracket. -/
theorem Plain.exists_head {d : Datum} (h : d.Plain) (level : Nat) :
    ∃ c cs, valueText level d = c :: cs ∧ isGap c = false ∧ c ≠ ']' := by
  cases h with
  | null => exact ⟨'n', _, rfl, rfl, by decide⟩
  | bool b => cases b <;> exact ⟨_, _, rfl, rfl, by decide⟩
  | @int n _ =>
    obtain ⟨c, cs, hcs, hc⟩ := exists_head_integerText n
    exact ⟨c, cs, hcs, hc.gap, hc.apart.1⟩
  | @num x _ =>
    obtain ⟨c, cs, hcs, hc⟩ := exists_head_numberText x
    exact ⟨c, cs, hcs, hc.gap, hc.apart.1⟩
  | text s => exact ⟨'"', _, rfl, rfl, by decide⟩
  | @list items _ => cases items <;> exact ⟨'[', _, rfl, rfl, by decide⟩
  | @record fields _ _ => cases fields <;> exact ⟨'\x7b', _, rfl, rfl, by decide⟩

theorem Plain.skipGaps_valueText {d : Datum} (h : d.Plain) (level : Nat) (rest : List Char) :
    skipGaps (valueText level d ++ rest) = valueText level d ++ rest := by
  obtain ⟨c, cs, hcs, hgap, -⟩ := h.exists_head level
  rw [hcs, List.cons_append, skipGaps_cons hgap]

theorem value_eq_atom {c : Char} (h : StartsAtom c) (fuel : Nat) (cs : List Char) :
    Reader.value (fuel + 1) (c :: cs) = Reader.atom (c :: cs) := by
  obtain ⟨-, -, hquote, hlist, hrecord⟩ := h
  unfold Reader.value
  split <;> simp_all

/-- A value that is neither in quotes nor in brackets is read back if it is on its own. -/
theorem readBack_of_atom {level : Nat} {d : Datum} {c : Char} {cs : List Char}
    (htext : valueText level d = c :: cs) (hc : StartsAtom c)
    (h : ∀ rest, EndsValue rest → Reader.atom (valueText level d ++ rest) = .ok (d, rest)) :
    ReadBack level d := by
  intro fuel rest hrest hfuel
  obtain ⟨fuel, rfl⟩ : ∃ k, fuel = k + 1 := ⟨fuel - 1, by omega⟩
  rw [← h rest hrest, htext, List.cons_append, value_eq_atom hc]

theorem readBack_text (level : Nat) (s : String) : ReadBack level (.text s) := by
  intro fuel rest hrest hfuel
  obtain ⟨fuel, rfl⟩ : ∃ k, fuel = k + 1 := ⟨fuel - 1, by omega⟩
  have hread := string?_stringText s rest
  simp only [valueText, stringText, List.cons_append, List.append_assoc, List.nil_append,
    Reader.value, hread, Option.map_some, String.ofList_toList]
  rfl

/-- The items of a list are read back if each of them is. -/
theorem items_itemsText {level : Nat} {items : List Datum} {d : Datum}
    (hplain : ∀ e ∈ items, e.Plain) (hd : ReadBack level d) (hitems : ∀ e ∈ items, ReadBack level e)
    {fuel : Nat} (hfuel : (valueText level d).length + (itemsText level items).length + 1 < fuel)
    (outer : Nat) (rest : List Char) :
    Reader.items fuel (valueText level d ++
      (itemsText level items ++ (lineStart outer ++ ']' :: rest))) = .ok (d :: items, rest) := by
  induction items generalizing d fuel with
  | nil =>
    obtain ⟨fuel, rfl⟩ : ∃ k, fuel = k + 1 := ⟨fuel - 1, by omega⟩
    rw [Reader.items, itemsText, List.nil_append, hd fuel _ (endsValue_lineStart _ _) (by omega)]
    simp only [ok_bind, skipGaps_lineStart]
    rfl
  | cons e items ih =>
    obtain ⟨fuel, rfl⟩ : ∃ k, fuel = k + 1 := ⟨fuel - 1, by omega⟩
    simp only [itemsText, List.length_cons, List.length_append] at hfuel
    have hlength : (valueText level e).length + (itemsText level items).length + 1 < fuel := by
      omega
    have hrest := ih (fun e he => hplain e (List.mem_cons_of_mem _ he))
      (hitems e List.mem_cons_self) (fun e he => hitems e (List.mem_cons_of_mem _ he)) hlength
    simp only [itemsText, List.cons_append, List.append_assoc]
    rw [Reader.items, hd fuel _ (endsValue_comma _) (by omega)]
    simp only [ok_bind, skipGaps_cons (c := ',') rfl, skipGaps_lineStart,
      (hplain e List.mem_cons_self).skipGaps_valueText, hrest]

theorem readBack_list {level : Nat} {items : List Datum} (hplain : ∀ e ∈ items, e.Plain)
    (h : ∀ e ∈ items, ReadBack (level + 1) e) : ReadBack level (.list items) := by
  intro fuel rest hrest hfuel
  obtain ⟨fuel, rfl⟩ : ∃ k, fuel = k + 1 := ⟨fuel - 1, by omega⟩
  cases items with
  | nil =>
    rw [valueText, List.cons_append, Reader.value]
    rfl
  | cons d items =>
    have hd := hplain d List.mem_cons_self
    simp only [valueText, lineStart, List.length_append, List.length_cons] at hfuel
    have hlength : (valueText (level + 1) d).length + (itemsText (level + 1) items).length + 1 <
        fuel := by omega
    have hitems := items_itemsText (fun e he => hplain e (List.mem_cons_of_mem _ he))
      (h d List.mem_cons_self) (fun e he => h e (List.mem_cons_of_mem _ he)) hlength level rest
    obtain ⟨c, cs, hcs, -, hclose⟩ := hd.exists_head (level + 1)
    simp only [valueText, List.cons_append, List.append_assoc, List.nil_append]
    rw [Reader.value, skipGaps_lineStart, hd.skipGaps_valueText]
    split
    · next heq =>
      rw [hcs] at heq
      exact absurd (List.cons.inj heq).1 hclose
    · rw [hitems]
      rfl

/-- One field is read, and then what stands after its value decides: a closing brace ends the
record, a comma goes on. -/
theorem entries_field {level fuel : Nat} {k : String} {d : Datum} {tail : List Char}
    (hplain : d.Plain) (hd : ReadBack level d) (hfuel : (valueText level d).length < fuel)
    (htail : EndsValue tail) :
    (∀ rest, skipGaps tail = '\x7d' :: rest →
      Reader.entries (fuel + 1) (stringText k ++ ':' :: ' ' :: (valueText level d ++ tail)) =
        .ok ([(k, d)], rest)) ∧
    (∀ rest, skipGaps tail = ',' :: rest →
      Reader.entries (fuel + 1) (stringText k ++ ':' :: ' ' :: (valueText level d ++ tail)) =
        (Reader.entries fuel (skipGaps rest)).map fun r => ((k, d) :: r.1, r.2)) := by
  have hblank : skipGaps (' ' :: (valueText level d ++ tail)) = valueText level d ++ tail :=
    hplain.skipGaps_valueText level tail
  simp only [stringText, List.cons_append, List.append_assoc, List.nil_append]
  rw [Reader.entries]
  simp only [string?_stringText, ReadFault.wanted, ok_bind,
    skipGaps_cons (c := ':') rfl, hblank, hd fuel tail htail hfuel, String.ofList_toList]
  constructor
  · intro rest h
    simp only [h]
  · intro rest h
    simp only [h]
    cases Reader.entries fuel (skipGaps rest) <;> rfl

theorem fieldText_append (level : Nat) (k : String) (d : Datum) (fields : Fields)
    (rest : List Char) :
    fieldsText level ((k, d) :: fields) ++ rest = ',' :: (lineStart level ++ (stringText k ++
      ':' :: ' ' :: (valueText level d ++ (fieldsText level fields ++ rest)))) := by
  simp [fieldsText]

theorem skipGaps_stringText (s : String) (rest : List Char) :
    skipGaps (stringText s ++ rest) = stringText s ++ rest :=
  skipGaps_cons rfl _

/-- The fields of a record are read back, in their order, if each of their values is. -/
theorem entries_fieldsText {level : Nat} {fields : Fields} {k : String} {d : Datum}
    (hplain : ∀ f ∈ (k, d) :: fields, f.2.Plain)
    (h : ∀ f ∈ (k, d) :: fields, ReadBack level f.2) {fuel : Nat}
    (hfuel : (valueText level d).length + (fieldsText level fields).length + 1 < fuel)
    (outer : Nat) (rest : List Char) :
    Reader.entries fuel (stringText k ++ ':' :: ' ' :: (valueText level d ++
      (fieldsText level fields ++ (lineStart outer ++ '\x7d' :: rest)))) =
      .ok ((k, d) :: fields, rest) := by
  induction fields generalizing k d fuel with
  | nil =>
    obtain ⟨fuel, rfl⟩ : ∃ j, fuel = j + 1 := ⟨fuel - 1, by omega⟩
    have hlength : (valueText level d).length < fuel := by omega
    have hend : skipGaps (lineStart outer ++ '\x7d' :: rest) = '\x7d' :: rest := by
      rw [skipGaps_lineStart, skipGaps_cons rfl]
    rw [fieldsText, List.nil_append]
    exact (entries_field (hplain _ List.mem_cons_self) (h _ List.mem_cons_self) hlength
      (endsValue_lineStart _ _)).1 rest hend
  | cons f fields ih =>
    obtain ⟨k', e⟩ := f
    obtain ⟨fuel, rfl⟩ : ∃ j, fuel = j + 1 := ⟨fuel - 1, by omega⟩
    simp only [fieldsText, List.length_cons, List.length_append] at hfuel
    have hlength : (valueText level d).length < fuel := by omega
    have hmore : (valueText level e).length + (fieldsText level fields).length + 1 < fuel := by
      omega
    have hrest := ih (fun f hf => hplain f (List.mem_cons_of_mem _ hf))
      (fun f hf => h f (List.mem_cons_of_mem _ hf)) hmore
    rw [fieldText_append, (entries_field (hplain _ List.mem_cons_self) (h _ List.mem_cons_self)
      hlength (endsValue_comma _)).2 _ (skipGaps_cons rfl _), skipGaps_lineStart,
      skipGaps_stringText, hrest]
    rfl

theorem readBack_record {level : Nat} {fields : Fields} (hkeys : (fields.map Prod.fst).Nodup)
    (hplain : ∀ f ∈ fields, f.2.Plain) (h : ∀ f ∈ fields, ReadBack (level + 1) f.2) :
    ReadBack level (.record fields) := by
  intro fuel rest hrest hfuel
  obtain ⟨fuel, rfl⟩ : ∃ k, fuel = k + 1 := ⟨fuel - 1, by omega⟩
  cases fields with
  | nil =>
    rw [valueText, List.cons_append, Reader.value]
    rfl
  | cons f fields =>
    obtain ⟨k, d⟩ := f
    simp only [valueText, lineStart, List.length_append, List.length_cons] at hfuel
    have hlength : (valueText (level + 1) d).length + (fieldsText (level + 1) fields).length + 1 <
        fuel := by omega
    have hfields := entries_fieldsText hplain h hlength level rest
    simp only [valueText, List.cons_append, List.append_assoc, List.nil_append]
    rw [Reader.value, skipGaps_lineStart, skipGaps_stringText]
    split
    · next heq => exact absurd (List.cons.inj heq).1 (by decide)
    · simp only [hfields, Except.map, Fields.ofList_of_nodup hkeys]

/-- Every plain value is read back as it was written. -/
theorem Plain.readBack {d : Datum} (h : d.Plain) (level : Nat) : ReadBack level d := by
  induction h generalizing level with
  | null => exact readBack_of_atom rfl ⟨rfl, by decide⟩ fun rest _ => rfl
  | bool b =>
    cases b
    · exact readBack_of_atom rfl ⟨rfl, by decide⟩ fun rest _ => rfl
    · exact readBack_of_atom rfl ⟨rfl, by decide⟩ fun rest _ => rfl
  | @int n short =>
    obtain ⟨c, cs, hcs, hc⟩ := exists_head_integerText n
    exact readBack_of_atom hcs hc fun rest hrest => atom_integerText short hrest
  | @num x canonical =>
    obtain ⟨c, cs, hcs, hc⟩ := exists_head_numberText x
    exact readBack_of_atom hcs hc fun rest hrest => atom_numberText canonical hrest
  | text s => exact readBack_text level s
  | list all ih => exact readBack_list all fun d hd => ih d hd (level + 1)
  | record keys all ih => exact readBack_record keys all fun f hf => ih f hf (level + 1)

/-- Nothing keeps a plain value from being written. -/
theorem Plain.overlong?_eq_none {d : Datum} (h : d.Plain) : d.overlong? = none := by
  induction h with
  | int short => exact short
  | list _ ih => exact overlongItems?_eq_none_iff.2 ih
  | record _ _ ih => exact overlongFields?_eq_none_iff.2 ih
  | null | bool | num | text => rfl

mutual

/-- It is always an integer that keeps a value from being written. -/
theorem eq_integer_of_overlong? {o : Overlong} :
    ∀ d : Datum, d.overlong? = some o → o = .integer
  | .int _, h => (Overlong.ofInt?_eq_some_iff.1 h).2
  | .list items, h => eq_integer_of_overlongItems? items h
  | .record fields, h => eq_integer_of_overlongFields? fields h
  | .null, h | .bool _, h | .num _, h | .text _, h | .stamp _, h | .day _, h => nomatch h

theorem eq_integer_of_overlongItems? {o : Overlong} :
    ∀ items : List Datum, overlongItems? items = some o → o = .integer
  | d :: rest, h => (Option.or_eq_some_iff.1 h).elim (eq_integer_of_overlong? d)
      fun h => eq_integer_of_overlongItems? rest h.2

theorem eq_integer_of_overlongFields? {o : Overlong} :
    ∀ fields : Fields, overlongFields? fields = some o → o = .integer
  | (_, d) :: rest, h => (Option.or_eq_some_iff.1 h).elim (eq_integer_of_overlong? d)
      fun h => eq_integer_of_overlongFields? rest h.2

end

/-- What is written is the text of the value. -/
theorem write_eq_ok_iff {d : Datum} {text : String} :
    d.write = .ok text ↔ d.overlong? = none ∧ String.ofList (valueText 0 d) = text :=
  Overlong.guard_eq_ok_iff

theorem write_eq_error_of_overlong? {d : Datum} (h : d.overlong? ≠ none) :
    d.write = .error .integer := by
  obtain ⟨o, ho⟩ := Option.ne_none_iff_exists'.1 h
  exact Overlong.guard_eq_error_iff.2 (eq_integer_of_overlong? d ho ▸ ho)

/-- A plain value is written as JSON, and read as itself. -/
theorem Plain.exists_write {d : Datum} (h : d.Plain) :
    ∃ text, d.write = .ok text ∧ read text = .ok d := by
  refine ⟨_, write_eq_ok_iff.2 ⟨h.overlong?_eq_none, rfl⟩, ?_⟩
  have hcs : skipGaps (valueText 0 d) = valueText 0 d := by
    simpa using h.skipGaps_valueText 0 []
  have hread := h.readBack 0 (2 * (valueText 0 d).length + 2) [] endsValue_nil (by omega)
  rw [List.append_nil] at hread
  rw [read, String.toList_ofList, hcs, hread]
  rfl

/-- What a plain value was written as is read as that value. -/
theorem read_write {d : Datum} {text : String} (h : d.Plain) (hwrite : d.write = .ok text) :
    read text = .ok d := by
  obtain ⟨_, hwritten, hread⟩ := h.exists_write
  cases hwrite.symm.trans hwritten
  exact hread

end TaskSieve.Datum
