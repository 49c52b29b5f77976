import TaskSieve.Proofs.Filter.Printing
import TaskSieve.Proofs.Number.Reading

set_option autoImplicit false

/-! # Reading a canonical text again

What was read from a text is a chain without empty lists, so it has a canonical text, unless there
is a text of too many digits among its values, and that text is read again. It is read as the same
chain, except that a decimal far from one is written with a power of ten, which has the shape of a
text: from there on it is one. -/

namespace TaskSieve

/-- A number that is written with a point alone: zero, or a size of at least `10 ^ -4` and below
`10 ^ 16`. -/
def Binary64.IsPlain : Binary64 → Prop
  | finite _ m e => m = 0 ∨ (10 : ℚ) ^ (-4 : Int) ≤ m * 2 ^ e ∧ (m : ℚ) * 2 ^ e < 10 ^ (16 : Int)
  | _ => False

instance : DecidablePred Binary64.IsPlain
  | .nan => inferInstanceAs (Decidable False)
  | .infinite _ => inferInstanceAs (Decidable False)
  | .finite _ m e => inferInstanceAs (Decidable (m = 0 ∨
      (10 : ℚ) ^ (-4 : Int) ≤ m * 2 ^ e ∧ (m : ℚ) * 2 ^ e < 10 ^ (16 : Int)))

namespace Filter

open Grammar

/-! ## Characters of numbers -/

theorem isBare_of_isNumeral {c : Char} (h : Decimal.IsNumeral c) : Lexeme.isBare c = true := by
  rcases h with h | h
  · exact Lexeme.isBare_of_isNameChar (by simp [Lexeme.isNameChar, h])
  · simp only [List.mem_cons, List.not_mem_nil, or_false] at h
    rcases h with rfl | rfl | rfl | rfl <;> decide

theorem ascii_of_isNumeral {c : Char} (h : Decimal.IsNumeral c) : c.toNat < 0x80 := by
  rcases h with h | h
  · have := toNat_of_isNameChar (show Lexeme.isNameChar c = true by simp [Lexeme.isNameChar, h])
    omega
  · simp only [List.mem_cons, List.not_mem_nil, or_false] at h
    rcases h with rfl | rfl | rfl | rfl <;> decide

/-- Digits are in no truth value. -/
theorem truthOf?_of_isNumeralText {cs : List Char} (h : Decimal.IsNumeralText cs) :
    Scalar.truthOf? cs = none := by
  obtain ⟨c, hc, hdigit⟩ := h.digit
  have hlower : Text.lower cs = cs.map Char.toLower :=
    lowerAfter_of_ascii [] fun c hc => ascii_of_isNumeral (h.all c hc)
  have hmem : c ∈ cs.map Char.toLower :=
     List.mem_map.2 ⟨c, hc, Text.toLower_of_isDigit hdigit⟩
  have apart : ∀ word : String, word.toList.all (!·.isDigit) = true →
      cs.map Char.toLower ≠ word.toList := by
    intro word hword heq
    rw [heq] at hmem
    have hnone : (!c.isDigit) = true := List.all_eq_true.1 hword c hmem
    exact absurd hdigit (by simpa using hnone)
  rw [Scalar.truthOf?, hlower, if_neg (apart "true" (by decide)),
    if_neg (apart "false" (by decide))]

/-! ## Values -/

/-- What a value is read as after it was written: a number with a power of ten is read as text, and
so is the name of what is not finite. -/
def Scalar.reread : Scalar → Scalar
  | .num x => if x.IsPlain then .num x else .text x.text
  | v => v

/-- A value that is read as itself after it was written. -/
def Scalar.IsStable : Scalar → Prop
  | .num x => x.IsPlain
  | _ => True

theorem Scalar.reread_eq_iff (v : Scalar) : v.reread = v ↔ v.IsStable := by
  cases v with
  | num x => simp [reread, IsStable]
  | bool b => simp [reread, IsStable]
  | int n => simp [reread, IsStable]
  | text s => simp [reread, IsStable]

/-- The text of a number is typed as that number, if it is written with a point alone, and as a text
otherwise. -/
theorem ofBare_text {x : Binary64} (h : x.Canonical) :
    Scalar.ofBare x.text.toList = (Scalar.num x).reread := by
  rw [Scalar.reread]
  cases x with
  | nan => exact (by decide : Scalar.ofBare "nan".toList = .text "nan")
  | infinite s =>
    rw [if_neg (show ¬ Binary64.IsPlain (.infinite s) from id)]
    cases s <;> decide
  | finite s m e =>
    have normal : Binary64.IsNormal m e := h
    have truth := truthOf?_of_isNumeralText (Decimal.isNumeralText_text (Decimal.shortest s m e))
    have plain : (Binary64.finite s m e).IsPlain ↔ (Decimal.shortest s m e).IsPositional :=
      (Decimal.isPositional_shortest_iff s normal).symm
    have sign : (Decimal.shortest s m e).negative = s := Decimal.negative_shortest s m e
    by_cases hplain : (Binary64.finite s m e).IsPlain
    · obtain ⟨front, back, htext, point⟩ := Decimal.toList_text_of_isPositional (plain.1 hplain)
      -- the digits around the point are a decimal of the same size, which is rounded to the number
      have hsize : Decimal.size ⟨s, Text.digitsValue (front ++ back), -back.length⟩ =
          (Decimal.shortest s m e).size := point.size
      have shape : Scalar.numberOfShape? (Decimal.shortest s m e).text.toList =
          some (.num (.finite s m e)) := by
        rw [htext, sign, numberOfShape?_pointed s point.before point.behind,
          Decimal.toBinary64_congr sign.symm hsize, Decimal.toBinary64_shortest s normal]
      rw [Binary64.text, Scalar.ofBare, shape, if_pos hplain]
    · obtain ⟨lead, fraction, negative, power, htext, scientific⟩ :=
        Decimal.toList_text_of_not_isPositional (mt plain.2 hplain)
      have shape : Scalar.numberOfShape? (Decimal.shortest s m e).text.toList = none := by
        rw [htext]
        exact numberOfShape?_scientific _ scientific.digits
      rw [Binary64.text, Scalar.ofBare, shape, truth, if_neg hplain, String.ofList_toList]

theorem bare_text (x : Binary64) :
    x.text.toList ≠ [] ∧ ∀ c ∈ x.text.toList, Lexeme.isBare c = true := by
  have spelled : ∀ word : String, word.toList ≠ [] → word.toList.all Lexeme.isBare = true →
      word.toList ≠ [] ∧ ∀ c ∈ word.toList, Lexeme.isBare c = true :=
    fun _ hne hall => ⟨hne, List.all_eq_true.1 hall⟩
  match x with
  | .nan => exact spelled "nan" (by decide) (by decide)
  | .infinite false => exact spelled "inf" (by decide) (by decide)
  | .infinite true => exact spelled "-inf" (by decide) (by decide)
  | .finite s m e =>
    have numeral := Decimal.isNumeralText_text (Decimal.shortest s m e)
    obtain ⟨c, hc, -⟩ := numeral.digit
    exact ⟨List.ne_nil_of_mem hc, fun c hc => isBare_of_isNumeral (numeral.all c hc)⟩

/-- A value that can be read: its number, if it is one, is in normal form, and its integer has few
enough digits. -/
def Scalar.Canonical : Scalar → Prop
  | .num x => x.Canonical
  | .int n => Overlong.ofInt? n = none
  | _ => True

/-- Of what can be read, only a text can be kept from being written. -/
theorem Scalar.Canonical.exists_text {v : Scalar} (h : v.Canonical) {o : Overlong}
    (hlong : v.overlong? = some o) : ∃ s, v = .text s := by
  cases v with
  | text s => exact ⟨s, rfl⟩
  | int n => exact absurd (h.symm.trans hlong) (by simp)
  | bool b => cases hlong
  | num x => cases hlong

theorem readsAs_reread {v : Scalar} (h : v.Canonical) : v.ReadsAs v.reread := by
  cases v with
  | bool b => exact readsAs_bool b
  | int n => exact readsAs_int h
  | text s => exact readsAs_text s
  | num x =>
    have typed : Scalar.ofBare (Scalar.num x).canonical.toList = (Scalar.num x).reread :=
      ofBare_text h
    have digits : DigitsFit (· ≤ digitLimit) (Scalar.num x).canonical.toList
        (Scalar.num x).reread := by
      intro n hn
      rw [Scalar.reread] at hn
      split at hn <;> exact absurd hn (by simp)
    have reads := readsAs_ofBare (v := .num x) (bare_text x).1 (bare_text x).2 (by rwa [typed])
    rwa [typed] at reads

/-! ## What is read -/

/-- A text is typed as a decimal by rounding, so the number is in normal form. -/
theorem canonical_of_numberOfShape? {raw : List Char} {x : Binary64}
    (h : Scalar.numberOfShape? raw = some (.num x)) : x.Canonical := by
  generalize hv : Scalar.num x = v at h
  cases numberText_of_numberOfShape? h with
  | integer => exact absurd hv (by simp)
  | decimal => exact Scalar.num.inj hv ▸ Decimal.canonical_toBinary64 _

/-- What a bare literal was read as can be read. -/
theorem canonical_ofBare {raw : List Char}
    (digits : DigitsFit (· ≤ digitLimit) raw (Scalar.ofBare raw)) :
    (Scalar.ofBare raw).Canonical := by
  cases hnumber : Scalar.numberOfShape? raw with
  | none =>
    rw [Scalar.ofBare, hnumber]
    cases Scalar.truthOf? raw <;> trivial
  | some v =>
    have typed : Scalar.ofBare raw = v := by rw [Scalar.ofBare, hnumber]
    rw [typed] at digits ⊢
    cases v with
    | int n => exact Scalar.ofInt?_of_fits digits hnumber
    | num x => exact canonical_of_numberOfShape? hnumber
    | bool b => trivial
    | text s => trivial

theorem canonical_of_itemText {v : Scalar} {t rest : List Char}
    (h : ItemText (· ≤ digitLimit) v t rest) : v.Canonical := by
  cases h with
  | quoted => trivial
  | bare _ digits => exact canonical_ofBare digits

theorem canonical_of_itemsText {vs : List Scalar} {t rest : List Char}
    (h : ItemsText (· ≤ digitLimit) vs t rest) : vs ≠ [] ∧ ∀ v ∈ vs, v.Canonical := by
  induction h with
  | last _ item _ =>
    refine ⟨List.cons_ne_nil _ _, fun s hs => ?_⟩
    obtain rfl := List.mem_singleton.1 hs
    exact canonical_of_itemText item
  | more _ item _ _ ih =>
    refine ⟨List.cons_ne_nil _ _, fun s hs => ?_⟩
    rcases List.mem_cons.1 hs with rfl | hs
    · exact canonical_of_itemText item
    · exact ih.2 s hs

/-- A literal that can be read: no empty list, and all its values can be read. -/
structure Literal.Canonical (v : Literal) : Prop where
  ne_nil : v ≠ .many []
  all : ∀ s ∈ v.values, s.Canonical

theorem Literal.Canonical.readsBy {v : Literal} (h : v.Canonical) : v.ReadsBy Scalar.reread where
  ne_nil := h.ne_nil
  all s hs := readsAs_reread (h.all s hs)

theorem canonical_of_conditionText {c : Condition} {t rest : List Char}
    (h : ConditionText (· ≤ digitLimit) c t rest) : c.value.Canonical := by
  cases h with
  | mk _ _ _ _ _ _ value =>
    cases value with
    | one item =>
      refine ⟨by simp, fun s hs => ?_⟩
      obtain rfl := List.mem_singleton.1 hs
      exact canonical_of_itemText item
    | many items =>
      obtain ⟨ne_nil, all⟩ := canonical_of_itemsText items
      exact ⟨fun h => ne_nil (Literal.many.inj h), all⟩

theorem canonical_of_chainText {steps : List (Combinator × Condition)} {t : List Char}
    (h : ChainText (· ≤ digitLimit) steps t) : ∀ step ∈ steps, step.2.value.Canonical := by
  induction h with
  | done => simp
  | next _ _ condition _ ih =>
    intro step hstep
    rcases List.mem_cons.1 hstep with rfl | hstep
    · exact canonical_of_conditionText condition
    · exact ih step hstep

/-- All values of an expression that was read can be read. -/
theorem canonical_of_read {s : String} {e : Expr} (h : Expr.read s = .ok e) :
    ∀ c ∈ e.conditions, c.value.Canonical := by
  obtain ⟨first, steps, text, rfl⟩ := read_eq_ok_iff.1 h
  generalize s.toList = cs at text
  obtain ⟨-, condition, chain⟩ := text
  rw [Expr.conditions_chain]
  intro c hc
  rcases List.mem_cons.1 hc with rfl | hc
  · exact canonical_of_conditionText condition
  · obtain ⟨step, hstep, rfl⟩ := List.mem_map.1 hc
    exact canonical_of_chainText chain step hstep

/-! ## Expressions -/

/-- An expression with each of its values changed. -/
def Expr.mapValues (f : Scalar → Scalar) : Expr → Expr
  | leaf c => leaf (c.mapValues f)
  | node k l r => node k (l.mapValues f) (r.mapValues f)

theorem Expr.mapValues_join (f : Scalar → Scalar) (e : Expr)
    (steps : List (Combinator × Condition)) :
    (e.join steps).mapValues f = (e.mapValues f).join (mapSteps f steps) := by
  induction steps generalizing e with
  | nil => rfl
  | cons step steps ih => exact ih (.node step.1 e (.leaf step.2))

theorem Literal.mapValues_eq_iff (f : Scalar → Scalar) (v : Literal) :
    v.mapValues f = v ↔ ∀ s ∈ v.values, f s = s := by
  cases v with
  | one s => simp [mapValues, values]
  | many vs =>
    rw [mapValues, values, many.injEq]
    constructor
    · intro h
      exact List.map_inj_left.1 (h.trans vs.map_id.symm)
    · intro h
      exact (List.map_inj_left.2 h).trans vs.map_id

/-- Only an expression all of whose values stay is left as it is. -/
theorem Expr.mapValues_eq_iff (f : Scalar → Scalar) (e : Expr) :
    e.mapValues f = e ↔ ∀ c ∈ e.conditions, ∀ s ∈ c.value.values, f s = s := by
  induction e with
  | leaf c =>
    obtain ⟨field, op, v⟩ := c
    simp [mapValues, Condition.mapValues, conditions, Literal.mapValues_eq_iff]
  | node k l r ihl ihr =>
    simp only [mapValues, conditions, node.injEq, true_and, ihl, ihr, List.mem_append, or_imp,
      forall_and]

/-- Only a text keeps an expression that was read from being written: one of too many digits. -/
theorem text_of_overlong {e : Expr} {o : Overlong}
    (canonical : ∀ c ∈ e.conditions, c.value.Canonical) (h : e.overlong? = some o) :
    ∃ c ∈ e.conditions, ∃ w, .text w ∈ c.value.values ∧
      Scalar.overlongBare? w.toList = some o := by
  obtain ⟨c, hc, hvalue⟩ := List.exists_of_findSome?_eq_some h
  obtain ⟨v, hv, hoverlong⟩ := List.exists_of_findSome?_eq_some hvalue
  obtain ⟨w, rfl⟩ := ((canonical c hc).all v hv).exists_text hoverlong
  exact ⟨c, hc, w, hv, hoverlong⟩

/-- What was read has a canonical text unless there is a text of too many digits among its values.
The canonical text is read as the same chain with every value reread. It is the same expression
exactly if each decimal in it is zero or of a size of at least `10 ^ -4` and below `10 ^ 16`. -/
theorem read_print_of_read {s : String} {e : Expr} (h : Expr.read s = .ok e) :
    (e.overlong? = none → ∃ t, e.print = .ok t ∧
      Expr.read t = .ok (e.mapValues Scalar.reread) ∧
      (Expr.read t = .ok e ↔ ∀ c ∈ e.conditions, ∀ v ∈ c.value.values, v.IsStable)) ∧
    ∀ o, e.overlong? = some o → e.print = .error (.overlong o) ∧
      ∃ c ∈ e.conditions, ∃ w, .text w ∈ c.value.values ∧
        Scalar.overlongBare? w.toList = some o := by
  have canonical := canonical_of_read h
  obtain ⟨first, steps, -, rfl⟩ := read_eq_ok_iff.1 h
  rw [Expr.print_join]
  constructor
  · intro short
    rw [Expr.conditions_chain] at canonical
    have read : Expr.read (Expr.canonical first steps) =
        .ok (((Expr.leaf first).join steps).mapValues Scalar.reread) := by
      rw [Expr.mapValues_join]
      exact read_canonical_mapValues (canonical first List.mem_cons_self).readsBy fun step hstep =>
        (canonical step.2 (List.mem_cons_of_mem first (List.mem_map_of_mem hstep))).readsBy
    refine ⟨_, by rw [short]; rfl, read, ?_⟩
    rw [read, Except.ok.injEq, Expr.mapValues_eq_iff]
    simp only [Scalar.reread_eq_iff]
  · intro o found
    exact ⟨by rw [found]; rfl, text_of_overlong canonical found⟩

/-- A number that is written with a power of ten comes back as a text, and one that is not comes
back as itself. -/
theorem read_print_of_small_number :
    ∃ e t, Expr.read "percentDone = 0.00001 || percentDone in (0.50, 2)" = .ok e ∧
      e.print = .ok t ∧ t = "percentDone = 1e-05 || percentDone in (0.5, 2)" ∧
      Expr.read t = .ok (.node .or (.leaf ⟨.percentDone, .eq, .one (.text "1e-05")⟩)
        (.leaf ⟨.percentDone, .isIn, .many [.num (.finite false 4503599627370496 (-53)), .int 2]⟩)) ∧
      Expr.read t ≠ .ok e := by
  have small : Expr.read "percentDone = 0.00001 || percentDone in (0.50, 2)" =
      .ok (.node .or
        (.leaf ⟨.percentDone, .eq, .one (.num (.finite false 5902958103587057 (-69)))⟩)
        (.leaf ⟨.percentDone, .isIn,
          .many [.num (.finite false 4503599627370496 (-53)), .int 2]⟩)) := by decide +kernel
  obtain ⟨t, hprint, hread, hstable⟩ := (read_print_of_read small).1 (by decide)
  have htext : t = "percentDone = 1e-05 || percentDone in (0.5, 2)" :=
    Except.ok.inj (hprint.symm.trans (by decide +kernel))
  refine ⟨_, t, small, hprint, htext, hread.trans (by decide +kernel), fun same => ?_⟩
  have beyond : ¬ (Binary64.finite false 5902958103587057 (-69)).IsPlain := by decide +kernel
  exact beyond (hstable.1 same _ List.mem_cons_self _ (List.mem_singleton_self _))

end Filter

end TaskSieve
