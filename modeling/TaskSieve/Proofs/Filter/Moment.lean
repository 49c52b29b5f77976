import Mathlib.Data.List.Basic
import TaskSieve.Filter.Moment
import TaskSieve.Proofs.Except
import TaskSieve.Proofs.Number.Digits
import TaskSieve.Proofs.Text.Blank

set_option autoImplicit false

/-! # Moments told from now

What a moment told from now is, said on its characters: the word `now` in any letter case, and
behind it nothing or a distance, which is a sign, some digits and a unit with any blanks before each
of them. The reader finds exactly these. Two things may still keep such a text from being a moment:
the amount has too many digits, or its unit has no length, which is the long s. -/

namespace TaskSieve.Filter.Moment

open TaskSieve.Calendar

/-- Blanks, possibly none. -/
def Blanks (g : List Char) : Prop := ∀ c ∈ g, Text.isBlank c = true

/-- A text tells a distance from now. -/
inductive DistanceText : Distance → List Char → Prop
  | mk {sign unit : Char} {g₁ g₂ ds g₃ : List Char} (blanks₁ : Blanks g₁)
      (signed : sign = '+' ∨ sign = '-') (blanks₂ : Blanks g₂) (ne_nil : ds ≠ [])
      (digits : ∀ c ∈ ds, Text.isDigit c = true) (blanks₃ : Blanks g₃)
      (letter : isUnitLetter unit = true) :
      DistanceText ⟨sign == '-', ds, unit⟩
        (g₁ ++ sign :: (g₂ ++ (ds ++ (g₃ ++ [unit]))))

/-- A text tells a moment from now: now itself or a moment at a distance. -/
inductive RelativeText : Option Distance → List Char → Prop
  | now {word : List Char} (spells : word.map Char.toLower = "now".toList) : RelativeText none word
  | away {d : Distance} {word t : List Char} (spells : word.map Char.toLower = "now".toList)
      (distance : DistanceText d t) : RelativeText (some d) (word ++ t)

/-! ## Classes that do not meet -/

/-- A unit is neither blank nor a digit. -/
theorem of_isUnitLetter {c : Char} (h : isUnitLetter c = true) :
    Text.isBlank c = false ∧ Text.isDigit c = false := by
  -- not "for all characters of the list": that could be decided by going through all characters
  have table : ("smhdwSMHDW".toList ++ ['ſ']).all
      (fun c => !Text.isBlank c && !Text.isDigit c) = true := by decide +kernel
  simp only [isUnitLetter, Bool.or_eq_true, List.contains_iff_mem, beq_iff_eq] at h
  have hc := List.all_eq_true.1 table c (List.mem_append.2 (by rwa [List.mem_singleton]))
  simpa using hc

theorem isBlank_of_sign {c : Char} (h : c = '+' ∨ c = '-') : Text.isBlank c = false := by
  rcases h with rfl | rfl <;> decide

/-! ## Reading finds the grammar -/

theorem exists_blanks (cs : List Char) : ∃ g, Blanks g ∧ cs = g ++ cs.dropWhile Text.isBlank :=
  ⟨cs.takeWhile Text.isBlank, fun _ => List.mem_takeWhile_imp,
    List.takeWhile_append_dropWhile.symm⟩

/-- The unit, with the blanks before it, ends a run of digits. -/
theorem isDigit_of_unit {g : List Char} {unit : Char} (blanks : Blanks g)
    (letter : isUnitLetter unit = true) :
    ∀ x ∈ (g ++ [unit]).head?, Text.isDigit x = false := by
  intro x hx
  cases g with
  | nil =>
    obtain rfl := Option.some.inj hx
    exact (of_isUnitLetter letter).2
  | cons b g =>
    obtain rfl := Option.some.inj hx
    rw [← Bool.not_eq_true]
    intro hdigit
    exact absurd (blanks b List.mem_cons_self) (by simp [Text.isBlank_of_isDigit hdigit])

theorem DistanceText.distance? {cs : List Char} {d : Distance} (h : DistanceText d cs) :
    distance? cs = some (some d) := by
  obtain ⟨blanks₁, signed, blanks₂, hne, digits, blanks₃, letter⟩ := h
  next sign unit g₁ g₂ ds g₃ =>
  -- what follows a class starts outside of it
  have hsign : (g₁ ++ sign :: (g₂ ++ (ds ++ (g₃ ++ [unit])))).dropWhile Text.isBlank =
      sign :: (g₂ ++ (ds ++ (g₃ ++ [unit]))) :=
    Text.dropWhile_append_of_head? blanks₁ fun x hx => by
      obtain rfl := Option.some.inj hx
      exact isBlank_of_sign signed
  have hbody : (g₂ ++ (ds ++ (g₃ ++ [unit]))).dropWhile Text.isBlank = ds ++ (g₃ ++ [unit]) :=
    Text.dropWhile_append_of_head? blanks₂ fun x hx => by
      obtain ⟨c, ds', rfl⟩ := List.exists_cons_of_ne_nil hne
      obtain rfl := Option.some.inj hx
      exact Text.isBlank_of_isDigit (digits c List.mem_cons_self)
  have hunit : (g₃ ++ [unit]).dropWhile Text.isBlank = [unit] :=
    Text.dropWhile_append_of_head? blanks₃ fun x hx => by
      obtain rfl := Option.some.inj hx
      exact (of_isUnitLetter letter).1
  have stop := isDigit_of_unit blanks₃ letter
  unfold Moment.distance?
  split
  · next hnil => simp at hnil
  · rw [hsign]
    dsimp only
    rw [hbody, Text.takeWhile_append_of_head? digits stop,
      Text.dropWhile_append_of_head? digits stop, hunit]
    exact if_pos ⟨signed, hne, letter⟩

/-- The reader finds a distance exactly where a text tells it. -/
theorem distance?_eq_some_some_iff {cs : List Char} {d : Distance} :
    distance? cs = some (some d) ↔ DistanceText d cs := by
  refine ⟨?_, DistanceText.distance?⟩
  · intro h
    unfold distance? at h
    split at h
    · exact absurd (Option.some.inj h) (by simp)
    split at h
    · exact absurd h (by simp)
    next sign rest hsign =>
    obtain ⟨g₁, blanks₁, hcs⟩ := exists_blanks cs
    obtain ⟨g₂, blanks₂, hrest⟩ := exists_blanks rest
    rw [hsign] at hcs
    dsimp only at h
    generalize rest.dropWhile Text.isBlank = body at h hrest
    have hbody := List.takeWhile_append_dropWhile (p := Text.isDigit) (l := body)
    have digits : ∀ c ∈ body.takeWhile Text.isDigit, Text.isDigit c = true :=
      fun _ => List.mem_takeWhile_imp
    generalize body.takeWhile Text.isDigit = ds at h hbody digits
    obtain ⟨g₃, blanks₃, hg₃⟩ := exists_blanks (body.dropWhile Text.isDigit)
    split at h
    · next unit hunit =>
      rw [hunit] at hg₃
      split at h
      · next hparts =>
        obtain ⟨signed, hne, letter⟩ := hparts
        obtain rfl := Option.some.inj (Option.some.inj h)
        rw [hcs, hrest, ← hbody, hg₃]
        exact .mk blanks₁ signed blanks₂ hne digits blanks₃ letter
      · exact absurd h (by simp)
    · exact absurd h (by simp)

/-- Without a distance there is no text. -/
theorem distance?_eq_some_none_iff {cs : List Char} : distance? cs = some none ↔ cs = [] := by
  constructor
  · intro h
    unfold distance? at h
    split at h
    · rfl
    split at h
    · exact absurd h (by simp)
    dsimp only at h
    split at h
    · split at h
      · exact absurd (Option.some.inj h) (by simp)
      · exact absurd h (by simp)
    · exact absurd h (by simp)
  · rintro rfl
    rfl

/-- The word has three characters, and the first is no digit. -/
theorem exists_letters {word : List Char} (spells : word.map Char.toLower = "now".toList) :
    ∃ a b c, word = [a, b, c] ∧ a ≠ '0' := by
  obtain ⟨a, word, rfl, ha, spells⟩ := List.map_eq_cons_iff.1 spells
  obtain ⟨b, word, rfl, -, spells⟩ := List.map_eq_cons_iff.1 spells
  obtain ⟨c, word, rfl, -, spells⟩ := List.map_eq_cons_iff.1 spells
  obtain rfl := List.map_eq_nil_iff.1 spells
  refine ⟨a, b, c, rfl, ?_⟩
  rintro rfl
  exact absurd ha (by decide)

theorem relative?_append {word : List Char} (spells : word.map Char.toLower = "now".toList)
    (t : List Char) : relative? (word ++ t) = distance? t := by
  obtain ⟨a, b, c, rfl, -⟩ := exists_letters spells
  exact if_pos spells

/-- The reader finds a moment exactly where a text tells it from now. -/
theorem relative?_eq_some_iff {cs : List Char} {r : Option Distance} :
    relative? cs = some r ↔ RelativeText r cs := by
  constructor
  · intro h
    unfold relative? at h
    split at h
    · next a b c rest =>
      split at h
      · next spells =>
        cases r with
        | none =>
          obtain rfl := distance?_eq_some_none_iff.1 h
          exact .now spells
        | some d => exact .away spells (distance?_eq_some_some_iff.1 h)
      · exact absurd h (by simp)
    · exact absurd h (by simp)
  · intro h
    cases h with
    | @now word spells =>
      have := relative?_append spells []
      rwa [List.append_nil] at this
    | away spells distance => rw [relative?_append spells, distance.distance?]

theorem relative?_of_isDigit {c : Char} (h : c.isDigit = true) (rest : List Char) :
    relative? (c :: rest) = none := by
  unfold relative?
  split
  · next heq =>
    obtain ⟨rfl, -⟩ := List.cons.inj heq
    refine if_neg fun spells => ?_
    obtain rfl : c = 'n' := (Text.toLower_of_isDigit h).symm.trans (List.cons.inj spells).1
    exact absurd h (by decide)
  · rfl

/-! ## Spelled offsets -/

theorem spellOffsets_append (cs ds : List Char) :
    spellOffsets (cs ++ ds) = spellOffsets cs ++ spellOffsets ds :=
  List.flatMap_append

/-- Only the letter of universal time is spelled in another way. -/
theorem spellOffsets_of_ne {cs : List Char} (h : ∀ c ∈ cs, c ≠ 'Z') : spellOffsets cs = cs := by
  have hplain : ∀ c ∈ cs, (if c = 'Z' then "+00:00".toList else [c]) = [c] :=
    fun c hc => if_neg (h c hc)
  rw [spellOffsets, List.flatMap_congr hplain, List.flatMap_singleton']

/-! ## Distances that cannot be read -/

/-- What keeps the distance that a text tells from being read: too many digits, or else the long
s. -/
inductive DistanceFault (d : Distance) : Fault → Prop
  | overlong (long : digitLimit < d.digits.length) :
      DistanceFault d (.overlong (.text d.digits.length))
  | timeless (short : d.digits.length ≤ digitLimit) (unit : d.unit = 'ſ') :
      DistanceFault d (.unknownUnit 'ſ')

/-- A text tells a distance from now that cannot be read. -/
def Faulty (cs : List Char) (f : Fault) : Prop :=
  ∃ d, RelativeText (some d) cs ∧ DistanceFault d f

theorem exists_unitSeconds_iff {c : Char} (h : isUnitLetter c = true) :
    (∃ n, unitSeconds c = .ok n) ↔ c ≠ 'ſ' := by
  have known : "smhdwSMHDW".toList.all
      (fun c => (unitSeconds c).toBool && c != 'ſ') = true := by decide
  simp only [isUnitLetter, Bool.or_eq_true, List.contains_iff_mem, beq_iff_eq] at h
  rcases h with hmem | rfl
  · obtain ⟨hok, hne⟩ : (unitSeconds c).toBool = true ∧ c ≠ 'ſ' := by
      simpa using List.all_eq_true.1 known c hmem
    refine iff_of_true ?_ hne
    cases hc : unitSeconds c with
    | ok n => exact ⟨n, rfl⟩
    | error e => simp [hc, Except.toBool] at hok
  · refine iff_of_false ?_ (by simp)
    rintro ⟨n, hn⟩
    exact absurd hn (by simp [unitSeconds])

theorem RelativeText.isUnitLetter {cs : List Char} {d : Distance}
    (h : RelativeText (some d) cs) : isUnitLetter d.unit = true := by
  cases h with
  | away _ distance =>
    cases distance with
    | mk _ _ _ _ _ _ letter => exact letter

/-- A moment told from now starts with a letter. -/
theorem RelativeText.not_isPrefixOf {cs : List Char} {r : Option Distance} (h : RelativeText r cs) :
    ¬ (cs.isEmpty || "0001-01-01".toList.isPrefixOf cs) = true := by
  obtain ⟨a, rest, rfl, ha⟩ : ∃ a rest, cs = a :: rest ∧ a ≠ '0' := by
    cases h with
    | now spells =>
      obtain ⟨a, b, c, rfl, ha⟩ := exists_letters spells
      exact ⟨a, _, rfl, ha⟩
    | away spells _ =>
      obtain ⟨a, b, c, rfl, ha⟩ := exists_letters spells
      exact ⟨a, _, rfl, ha⟩
  simp [ha.symm]

theorem unitSeconds_of_long : unitSeconds 'ſ' = .error (.unknownUnit 'ſ') := rfl

/-- A distance of too many digits is refused before its unit is looked at. -/
theorem Distance.from?_of_overlong {now : Stamp} {d : Distance}
    (long : digitLimit < d.digits.length) :
    d.from? now = .error (.overlong (.text d.digits.length)) := by
  rw [Distance.from?, Overlong.ofDigits?_eq_some_iff.2 ⟨long, rfl⟩]
  rfl

theorem Distance.from?_of_short {now : Stamp} {d : Distance}
    (short : d.digits.length ≤ digitLimit) : d.from? now = (do
      let unit ← unitSeconds d.unit
      let ticks : Int := (d.amount * unit : Nat) * secondTicks
      .ok (now.shift? (if d.negative then -ticks else ticks))) := by
  rw [Distance.from?, Overlong.ofDigits?_eq_none_iff.2 short]
  rfl

/-- A distance is refused for its faults only. -/
theorem Distance.from?_eq_error_iff {now : Stamp} {d : Distance} {f : Fault}
    (letter : isUnitLetter d.unit = true) : d.from? now = .error f ↔ DistanceFault d f := by
  rcases Nat.lt_or_ge digitLimit d.digits.length with long | short
  · rw [Distance.from?_of_overlong long]
    constructor
    · rintro ⟨⟩
      exact .overlong long
    · rintro (⟨-⟩ | ⟨short, -⟩)
      · rfl
      · exact absurd short (Nat.not_le.2 long)
  rw [Distance.from?_of_short short, bind_eq_error_iff]
  constructor
  · rintro (hunit | ⟨n, -, hticks⟩)
    · have long : d.unit = 'ſ' := by
        by_contra hne
        obtain ⟨n, hn⟩ := (exists_unitSeconds_iff letter).2 hne
        cases hn.symm.trans hunit
      rw [long, unitSeconds_of_long] at hunit
      cases hunit
      exact .timeless short long
    · cases hticks
  · rintro (⟨long⟩ | ⟨-, long⟩)
    · exact absurd short (Nat.not_le.2 long)
    · rw [long]
      exact .inl unitSeconds_of_long

/-- Reading a moment fails exactly for the distances that cannot be read. -/
theorem ofText_eq_error_iff {now : Stamp} {cs : List Char} {f : Fault} :
    ofText now cs = .error f ↔ Faulty (Text.trim cs) f := by
  unfold ofText
  generalize Text.trim cs = text
  dsimp only
  cases hrelative : relative? text with
  | none =>
    refine iff_of_false ?_ ?_
    · split <;> nofun
    · rintro ⟨d, htext, -⟩
      rw [relative?_eq_some_iff.2 htext] at hrelative
      cases hrelative
  | some r =>
    have htext := relative?_eq_some_iff.1 hrelative
    have unique {d : Distance} (h : RelativeText (some d) text) : r = some d :=
      Option.some.inj (hrelative.symm.trans (relative?_eq_some_iff.2 h))
    rw [if_neg htext.not_isPrefixOf]
    cases r with
    | none =>
      refine iff_of_false nofun ?_
      rintro ⟨d, hd, -⟩
      cases unique hd
    | some d =>
      refine (Distance.from?_eq_error_iff htext.isUnitLetter).trans ⟨fun h => ⟨d, htext, h⟩, ?_⟩
      rintro ⟨d', hd, h⟩
      cases unique hd
      exact h

end TaskSieve.Filter.Moment
