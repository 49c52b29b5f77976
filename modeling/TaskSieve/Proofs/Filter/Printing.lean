import Mathlib.Data.List.Induction
import TaskSieve.Filter.Builder
import TaskSieve.Proofs.Filter.Reading
import TaskSieve.Proofs.Filter.Shape

set_option autoImplicit false

/-! # What is written is read back

An expression is written unless something in it has too many digits: what keeps it from being
written is said apart from its canonical text, which is there in any case. The text of a chain is
spelled by the grammar, so it is read as that chain. The printer decides for each text whether it
can stand without quotes; the decision is right because a bare literal is typed by its shape alone,
and a quoted one is always a text. Decimals are left out: they are written with their shortest
digits, which may be those of another spelling. -/

namespace TaskSieve.Filter

open Grammar

/-! ## Canonical texts -/

/-- A text that is read back as text without quotes: it has no separators in it, and the shape of no
other value. -/
def IsPlainText (cs : List Char) : Prop :=
  cs ≠ [] ∧ (∀ c ∈ cs, isStop c = false) ∧ Scalar.numberOfShape? cs = none ∧
    Scalar.truthOf? cs = none

instance (cs : List Char) : Decidable (IsPlainText cs) :=
  inferInstanceAs (Decidable (_ ∧ _))

namespace Scalar

/-- What keeps a value from being written: an integer of too many digits, or a text that would be
one without quotes. -/
def overlong? : Scalar → Option Overlong
  | .int n => Overlong.ofInt? n
  | .text s => overlongBare? s.toList
  | .bool _ | .num _ => none

/-- The text of a value, whether or not it can be written. -/
def canonical : Scalar → String
  | .bool b => if b then "true" else "false"
  | .int n => integerText n
  | .num x => x.text
  | .text s => if IsPlainText s.toList then s else String.ofList (quotedLiteral s.toList)

end Scalar

/-- What keeps a literal from being written: that of the first of its values that cannot be. -/
def Literal.overlong? (v : Literal) : Option Overlong := v.values.findSome? Scalar.overlong?

/-- The text of a literal, whether or not it can be written. -/
def Literal.canonical : Literal → String
  | .one v => v.canonical
  | .many vs => "(" ++ ", ".intercalate (vs.map Scalar.canonical) ++ ")"

/-- The text of a condition, whether or not it can be written. -/
def Condition.canonical (c : Condition) : String :=
  c.field.name ++ " " ++ c.operator.text ++ " " ++ c.value.canonical

/-- What keeps an expression from being written: that of the first of its conditions that cannot
be. -/
def Expr.overlong? (e : Expr) : Option Overlong := e.conditions.findSome? (·.value.overlong?)

/-- The text of a chain, whether or not it can be written. -/
def Expr.canonical (first : Condition) (steps : List (Combinator × Condition)) : String :=
  steps.foldl (fun text step => text ++ " " ++ step.1.text ++ " " ++ step.2.canonical)
    first.canonical

theorem Scalar.isBare_of_numberOfShape? {cs : List Char} {n : Int}
    (h : numberOfShape? cs = some (.int n)) : cs ≠ [] ∧ ∀ c ∈ cs, Lexeme.isBare c = true := by
  generalize hv : Scalar.int n = v at h
  cases numberText_of_numberOfShape? h with
  | integer negative ne_nil digits =>
    refine ⟨by simp [ne_nil], fun c hc => ?_⟩
    rcases List.mem_append.1 hc with hc | hc
    · cases negative with
      | true => exact List.mem_singleton.1 hc ▸ by decide
      | false => exact absurd hc List.not_mem_nil
    · exact Lexeme.isBare_of_isDigit (digits c hc)
  | decimal => exact absurd hv (by simp)

/-- A text is tried as a bare literal if it has no separators, and fails only as one. -/
theorem isBareText_eq (cs : List Char) : isBareText cs =
    Overlong.guard (Scalar.overlongBare? cs) (decide (IsPlainText cs)) := by
  by_cases separated : cs = [] ∨ ∃ c ∈ cs, isStop c = true
  · -- such a text is neither an integer nor plain
    have notPlain : ¬ IsPlainText cs := by
      rintro ⟨hne, hbare, -, -⟩
      rcases separated with hnil | ⟨c, hc, hstop⟩
      · exact hne hnil
      · exact absurd hstop (by simp [hbare c hc])
    have short : Scalar.overlongBare? cs = none := by
      cases h : Scalar.overlongBare? cs with
      | none => rfl
      | some o =>
        obtain ⟨n, hshape, -⟩ := Scalar.overlongBare?_eq_some_iff.1 h
        obtain ⟨hne, hbare⟩ := Scalar.isBare_of_numberOfShape? hshape
        rcases separated with hnil | ⟨c, hc, hstop⟩
        · exact absurd hnil hne
        · exact absurd (hbare c hc) (by simp [Lexeme.isBare, hstop])
    have apart : (cs.isEmpty || cs.any isStop) = true := by
      simpa [List.isEmpty_iff, List.any_eq_true] using separated
    rw [isBareText, if_pos apart, short, Overlong.guard_none, decide_eq_false notPlain]
  · obtain ⟨hne, hbare⟩ := not_or.1 separated
    have bare : ∀ c ∈ cs, isStop c = false := fun c hc => by
      simpa using fun hstop => hbare ⟨c, hc, hstop⟩
    have joined : ¬ (cs.isEmpty || cs.any isStop) = true := by
      simpa [List.isEmpty_iff, List.any_eq_true] using ⟨hne, bare⟩
    have plain : IsPlainText cs ↔ Scalar.numberOfShape? cs = none ∧ Scalar.truthOf? cs = none :=
      ⟨fun h => h.2.2, fun h => ⟨hne, bare, h⟩⟩
    rw [isBareText, if_neg joined, Scalar.readBare]
    cases Scalar.overlongBare? cs with
    | some o => rfl
    | none =>
      simp only [Overlong.guard_none, plain, Scalar.ofBare]
      cases hnumber : Scalar.numberOfShape? cs with
      | some v =>
        cases numberText_of_numberOfShape? hnumber <;> rfl
      | none => cases Scalar.truthOf? cs <;> rfl

/-! ## What can be written -/

theorem Scalar.print_eq (v : Scalar) : v.print = Overlong.guard v.overlong? v.canonical := by
  cases v with
  | bool b => rfl
  | int n => rfl
  | num x => rfl
  | text s =>
    rw [print, isBareText_eq, overlong?, canonical]
    cases overlongBare? s.toList with
    | some o => rfl
    | none => by_cases h : IsPlainText s.toList <;> simp [Overlong.guard_none, h, bind, Except.bind]

theorem Literal.print_eq (v : Literal) : v.print = Overlong.guard v.overlong? v.canonical := by
  cases v with
  | one v =>
    rw [print, Scalar.print_eq, overlong?, values, List.findSome?_singleton]
    rfl
  | many vs =>
    have texts : vs.mapM Scalar.print =
        Overlong.guard (vs.findSome? Scalar.overlong?) (vs.map Scalar.canonical) := by
      rw [← Overlong.mapM_guard]
      exact congrArg (vs.mapM ·) (funext Scalar.print_eq)
    rw [print, texts, overlong?, values]
    cases vs.findSome? Scalar.overlong? <;> rfl

theorem Condition.print_eq (c : Condition) :
    c.print = Overlong.guard c.value.overlong? c.canonical := by
  rw [print, Literal.print_eq, canonical]
  cases c.value.overlong? <;> rfl

/-- A chain is written unless one of its conditions cannot be, and then the first of these is
told. -/
theorem Expr.printChain_eq (first : Condition) (steps : List (Combinator × Condition)) :
    printChain first steps = Overlong.guard ((leaf first).join steps).overlong?
      (canonical first steps) := by
  let next (text : String) (step : Combinator × Condition) (condition : String) : String :=
    text ++ " " ++ step.1.text ++ " " ++ condition
  have write (text : String) (step : Combinator × Condition) : (do
        let condition ← step.2.print
        .ok (text ++ " " ++ step.1.text ++ " " ++ condition)) =
      (Overlong.guard step.2.value.overlong? step.2.canonical).map (next text step) := by
    rw [Condition.print_eq]
    cases step.2.value.overlong? <;> rfl
  have later := Overlong.foldlM_guard (fun step => step.2.value.overlong?)
    (fun step => step.2.canonical) next first.canonical steps
  simp only [← write] at later
  rw [printChain, Condition.print_eq, overlong?, conditions_join, conditions, List.cons_append,
    List.findSome?_cons, canonical]
  cases first.value.overlong? with
  | some o => rfl
  | none =>
    rw [List.nil_append, List.findSome?_map]
    exact later

/-! ## Texts -/

/-- An escape is read as the character that it was written for. -/
theorem quotedText_quotedLiteralChar {c : Char} {body s : List Char} (h : QuotedText '"' body s) :
    QuotedText '"' (quotedLiteralChar c ++ body) (c :: s) := by
  unfold quotedLiteralChar
  split
  · exact .escaped h
  · exact .escaped h
  · exact .escaped h
  · exact .escaped h
  · exact .escaped h
  · next hbackslash hquote _ _ _ => exact .plain hquote hbackslash h

theorem quotedText_flatMap (s : List Char) : QuotedText '"' (s.flatMap quotedLiteralChar) s := by
  induction s with
  | nil => exact .nil
  | cons c s ih =>
    rw [List.flatMap_cons]
    exact quotedText_quotedLiteralChar ih

/-- What ends a bare literal stands at the start of `rest`, or nothing does. -/
def Ends (rest : List Char) : Prop := ∀ c ∈ rest.head?, Lexeme.isBare c = false

theorem run_of_all {p : Char → Bool} {raw rest : List Char} (ne_nil : raw ≠ [])
    (all : raw.all p = true) (ends : ∀ c ∈ rest.head?, p c = false) : Run p raw rest where
  ne_nil := ne_nil
  all := List.all_eq_true.1 all
  maximal := ends

/-- A text without quotes is not taken for a number or a truth value. -/
theorem ofBare_of_isPlainText {cs : List Char} (h : IsPlainText cs) :
    Scalar.ofBare cs = .text (String.ofList cs) := by
  rw [Scalar.ofBare, h.2.2.1, h.2.2.2]

/-- A text is read as itself, with quotes or without. -/
theorem itemText_text (fits : Nat → Prop) (cs : List Char) {rest : List Char} (ends : Ends rest) :
    ItemText fits (.text (String.ofList cs))
      ((if IsPlainText cs then cs else quotedLiteral cs) ++ rest) rest := by
  split
  · next plain =>
    have item : ItemText fits (.ofBare cs) (cs ++ rest) rest := by
      refine .bare (run_of_all plain.1 (List.all_eq_true.2 fun c hc => ?_) ends) ?_
      · rw [Lexeme.isBare, plain.2.1 c hc, Bool.not_false]
      · exact ofBare_of_isPlainText plain ▸ Lexeme.digitsFit_text
    rwa [ofBare_of_isPlainText plain] at item
  · have item : ItemText fits (.text (String.ofList cs))
        ('"' :: (cs.flatMap quotedLiteralChar ++ '"' :: rest)) rest :=
      .quoted rfl (quotedText_flatMap cs)
    simpa [quotedLiteral] using item

/-! ## Values -/

/-- A value whose text stands before the end of a bare literal is read as a value, which may be
another one. -/
def Scalar.ReadsAs (v w : Scalar) : Prop :=
  ∀ rest, Ends rest → ItemText (· ≤ digitLimit) w (v.canonical.toList ++ rest) rest

/-- A value other than a decimal. -/
def Scalar.IsExact : Scalar → Prop
  | .num _ => False
  | _ => True

/-- A value that is written as it is read: no decimal in it, and no empty list. -/
structure Literal.IsExact (v : Literal) : Prop where
  ne_nil : v ≠ .many []
  all : ∀ s ∈ v.values, s.IsExact

/-- A bare literal is read as the value that its shape gives. -/
theorem readsAs_ofBare {v : Scalar} (ne_nil : v.canonical.toList ≠ [])
    (bare : ∀ c ∈ v.canonical.toList, Lexeme.isBare c = true)
    (digits : DigitsFit (· ≤ digitLimit) v.canonical.toList (.ofBare v.canonical.toList)) :
    v.ReadsAs (.ofBare v.canonical.toList) :=
  fun _ ends => .bare ⟨ne_nil, bare, ends⟩ digits

theorem readsAs_bool (b : Bool) : (Scalar.bool b).ReadsAs (.bool b) := by
  have typed : Scalar.ofBare (Scalar.bool b).canonical.toList = .bool b := by
    cases b <;> decide
  have bare : (Scalar.bool b).canonical.toList ≠ [] ∧
      (Scalar.bool b).canonical.toList.all Lexeme.isBare = true := by
    cases b <;> decide
  have digits : DigitsFit (· ≤ digitLimit) (Scalar.bool b).canonical.toList (.bool b) :=
    fun _ h => absurd h (by simp)
  have reads := readsAs_ofBare bare.1 (List.all_eq_true.1 bare.2) (by rwa [typed])
  rwa [typed] at reads

theorem readsAs_int {n : Int} (short : Overlong.ofInt? n = none) :
    (Scalar.int n).ReadsAs (.int n) := by
  have typed : Scalar.ofBare (integerText n).toList = .int n :=
    Scalar.ofBare_eq_int_iff.2 (numberOfShape?_integerText n)
  obtain ⟨ne_nil, bare⟩ := Scalar.isBare_of_numberOfShape? (numberOfShape?_integerText n)
  have reads := readsAs_ofBare (v := .int n) ne_nil bare
    (by rw [Scalar.canonical, typed]; exact digitsFit_integerText short)
  rwa [show Scalar.ofBare (Scalar.int n).canonical.toList = .int n from typed] at reads

theorem readsAs_text (s : String) : (Scalar.text s).ReadsAs (.text s) := by
  intro rest ends
  have item := itemText_text (· ≤ digitLimit) s.toList ends
  rw [String.ofList_toList] at item
  rw [Scalar.canonical]
  split
  · next plain => rwa [if_pos plain] at item
  · next quoted => rwa [if_neg quoted, ← String.toList_ofList (l := quotedLiteral _)] at item

theorem readsAs_of_isExact {v : Scalar} (h : v.IsExact) (short : v.overlong? = none) :
    v.ReadsAs v := by
  cases v with
  | bool b => exact readsAs_bool b
  | int n => exact readsAs_int short
  | num x => exact absurd h id
  | text s => exact readsAs_text s

theorem Literal.overlong?_eq_none_iff {v : Literal} :
    v.overlong? = none ↔ ∀ s ∈ v.values, s.overlong? = none :=
  List.findSome?_eq_none_iff

theorem Expr.overlong?_eq_none_iff {e : Expr} :
    e.overlong? = none ↔ ∀ c ∈ e.conditions, c.value.overlong? = none :=
  List.findSome?_eq_none_iff

/-- A literal with each of its values changed. -/
def Literal.mapValues (f : Scalar → Scalar) : Literal → Literal
  | .one v => .one (f v)
  | .many vs => .many (vs.map f)

/-- A literal whose values are read as `f` says, and which is no empty list. -/
structure Literal.ReadsBy (f : Scalar → Scalar) (v : Literal) : Prop where
  ne_nil : v ≠ .many []
  all : ∀ s ∈ v.values, s.ReadsAs (f s)

theorem Literal.IsExact.readsBy {v : Literal} (h : v.IsExact) (short : v.overlong? = none) :
    v.ReadsBy id where
  ne_nil := h.ne_nil
  all s hs := readsAs_of_isExact (h.all s hs) (Literal.overlong?_eq_none_iff.1 short s hs)

theorem Literal.mapValues_id (v : Literal) : v.mapValues id = v := by
  cases v with
  | one v => rfl
  | many vs => rw [mapValues, List.map_id]

theorem ends_cons {c : Char} (h : isStop c = true) (rest : List Char) : Ends (c :: rest) := by
  intro d hd
  obtain rfl := Option.mem_some_iff.1 hd
  rw [Lexeme.isBare, h, Bool.not_true]

/-- A spelling of a value: before the end of a bare literal it is read as the value. -/
def Spells (t : String) (v : Scalar) : Prop :=
  ∀ rest, Ends rest → ItemText (· ≤ digitLimit) v (t.toList ++ rest) rest

/-- Spellings with commas between them are read as a list of their values. -/
theorem itemsText_intercalate {i : String × Scalar} {later : List (String × Scalar)}
    {g rest : List Char} (gap : Gap g) (spells : ∀ j ∈ i :: later, Spells j.1 j.2) :
    ItemsText (· ≤ digitLimit) ((i :: later).map Prod.snd)
      (g ++ ((", ".intercalate ((i :: later).map Prod.fst)).toList ++ ')' :: rest)) rest := by
  have first : Spells i.1 i.2 := spells i List.mem_cons_self
  induction later generalizing i g with
  | nil =>
    have item := first _ (ends_cons rfl (c := ')') rest)
    rw [List.map_singleton, List.map_singleton, String.intercalate_singleton]
    exact .last gap (show ItemText _ i.2 _ ([] ++ ')' :: rest) from item) gap_nil
  | cons j later ih =>
    have items := ih gap_blank (fun k hk => spells k (List.mem_cons_of_mem i hk))
      (spells j (List.mem_cons_of_mem i List.mem_cons_self))
    have item : ItemText (· ≤ digitLimit) i.2 (i.1.toList ++ ([] ++ ',' :: ([' '] ++
        ((", ".intercalate ((j :: later).map Prod.fst)).toList ++ ')' :: rest)))) _ :=
      first _ (ends_cons rfl _)
    have all := ItemsText.more gap item gap_nil items
    simpa using all

section Reading

variable {f : Scalar → Scalar}

theorem itemsText_print {v : Scalar} {vs : List Scalar} {g rest : List Char} (gap : Gap g)
    (reads : ∀ s ∈ v :: vs, s.ReadsAs (f s)) :
    ItemsText (· ≤ digitLimit) ((v :: vs).map f)
      (g ++ ((", ".intercalate ((v :: vs).map Scalar.canonical)).toList ++ ')' :: rest)) rest := by
  have spells : ∀ j ∈ (v :: vs).map fun s => (s.canonical, f s), Spells j.1 j.2 := by
    intro j hj
    obtain ⟨s, hs, rfl⟩ := List.mem_map.1 hj
    exact reads s hs
  have items : ItemsText _ _ (g ++ (_ ++ ')' :: rest)) rest := itemsText_intercalate gap spells
  rwa [← List.map_cons (f := fun s => (s.canonical, f s)), List.map_map, List.map_map] at items

theorem literalText_print {v : Literal} {rest : List Char} (reads : v.ReadsBy f)
    (ends : Ends rest) :
    LiteralText (· ≤ digitLimit) (v.mapValues f) (v.canonical.toList ++ rest) rest := by
  match v, reads with
  | .one s, h => exact .one (h.all s (List.mem_singleton_self s) rest ends)
  | .many [], h => exact absurd rfl h.ne_nil
  | .many (s :: vs), h =>
    have items : LiteralText (· ≤ digitLimit) (.many ((s :: vs).map f)) ('(' :: ([] ++
        ((", ".intercalate ((s :: vs).map Scalar.canonical)).toList ++ ')' :: rest))) rest :=
      .many (itemsText_print gap_nil h.all)
    simpa [Literal.canonical, Literal.mapValues] using items

end Reading

/-! ## Conditions and chains -/

theorem operatorText_print (op : Operator) (rest : List Char) :
    OperatorText op (op.text.toList ++ ' ' :: rest) (' ' :: rest) := by
  have blank : ∀ p : Char → Bool, p ' ' = false → ∀ c ∈ (' ' :: rest).head?, p c = false := by
    rintro p hp c hc
    exact Option.mem_some_iff.1 hc ▸ hp
  cases op with
  | like => exact .like ⟨run_of_all (by decide) (by decide) (blank Lexeme.isLetter rfl), by decide⟩
  | isIn => exact .isIn ⟨run_of_all (by decide) (by decide) (blank Lexeme.isLetter rfl), by decide⟩
  | notIn =>
    have second : Word "in" "in".toList (' ' :: rest) :=
      ⟨run_of_all (by decide) (by decide) (blank Lexeme.isLetter rfl), by decide⟩
    have first : Word "not" "not".toList ([' '] ++ ("in".toList ++ ' ' :: rest)) :=
      ⟨run_of_all (by decide) (by decide) fun c hc => Option.mem_some_iff.1 hc ▸ rfl, by decide⟩
    exact .notIn first gap_blank second
  | eq | ne | gt | ge | lt | le =>
    exact .symbols (by decide) (run_of_all (by decide) (by decide) (blank isSymbol rfl))

/-- A condition with each of its values changed. -/
def Condition.mapValues (f : Scalar → Scalar) (c : Condition) : Condition :=
  { c with value := c.value.mapValues f }

/-- A field, an operator and the text of a literal are a condition. -/
theorem conditionText_of_literalText (f : Field) (op : Operator) {v : Literal} {t : String}
    {rest : List Char} (value : LiteralText (· ≤ digitLimit) v (t.toList ++ rest) rest) :
    ConditionText (· ≤ digitLimit) ⟨f, op, v⟩
      ((f.name ++ " " ++ op.text ++ " " ++ t).toList ++ rest) rest := by
  have starts : ∀ c ∈ f.name.toList.head?, Lexeme.startsName c = true := by
    cases f <;> exact fun c hc => Option.mem_some_iff.1 hc ▸ rfl
  have all : f.name.toList ≠ [] ∧ f.name.toList.all Lexeme.isNameChar = true := by
    cases f <;> decide
  have run : Run Lexeme.isNameChar f.name.toList
      ([' '] ++ (op.text.toList ++ ' ' :: (t.toList ++ rest))) :=
    run_of_all all.1 all.2 fun c hc => Option.mem_some_iff.1 hc ▸ rfl
  have condition := ConditionText.mk starts run (.inl rfl) gap_blank
    (operatorText_print op (t.toList ++ rest)) gap_blank value
  simpa using condition

theorem conditionText_print {f : Scalar → Scalar} {c : Condition} {rest : List Char}
    (reads : c.value.ReadsBy f) (ends : Ends rest) :
    ConditionText (· ≤ digitLimit) (c.mapValues f) (c.canonical.toList ++ rest) rest :=
  conditionText_of_literalText c.field c.operator (literalText_print reads ends)

/-- The text of further conditions, each behind its combinator. -/
def chainText (steps : List (Combinator × Condition)) : List Char :=
  steps.flatMap fun step => ' ' :: (step.1.text.toList ++ ' ' :: step.2.canonical.toList)

theorem toList_canonical (first : Condition) (steps : List (Combinator × Condition)) :
    (Expr.canonical first steps).toList = first.canonical.toList ++ chainText steps := by
  rw [Expr.canonical]
  generalize first.canonical = s
  induction steps generalizing s with
  | nil => simp [chainText]
  | cons step steps ih =>
    rw [List.foldl_cons, ih, chainText, chainText, List.flatMap_cons]
    simp

theorem ends_chainText (steps : List (Combinator × Condition)) : Ends (chainText steps) := by
  cases steps with
  | nil => exact fun c hc => absurd hc (by simp [chainText])
  | cons step steps => exact ends_cons rfl _

/-- Further conditions with each of their values changed. -/
def mapSteps (f : Scalar → Scalar) (steps : List (Combinator × Condition)) :
    List (Combinator × Condition) :=
  steps.map fun step => (step.1, step.2.mapValues f)

theorem chainText_print {f : Scalar → Scalar} {steps : List (Combinator × Condition)}
    (reads : ∀ step ∈ steps, step.2.value.ReadsBy f) :
    ChainText (· ≤ digitLimit) (mapSteps f steps) (chainText steps) := by
  induction steps with
  | nil => exact .done gap_nil
  | cons step steps ih =>
    have condition := conditionText_print (reads step List.mem_cons_self) (ends_chainText steps)
    have chain := ih fun step h => reads step (List.mem_cons_of_mem _ h)
    have text := ChainText.next (k := step.1) gap_blank gap_blank condition chain
    simpa [chainText, mapSteps] using text

/-- The text of a chain is read as the chain of what its values are read as. -/
theorem read_canonical_mapValues {f : Scalar → Scalar} {first : Condition}
    {steps : List (Combinator × Condition)} (hfirst : first.value.ReadsBy f)
    (hsteps : ∀ step ∈ steps, step.2.value.ReadsBy f) :
    Expr.read (Expr.canonical first steps) =
      .ok ((Expr.leaf (first.mapValues f)).join (mapSteps f steps)) := by
  have condition := conditionText_print hfirst (ends_chainText steps)
  have text := FilterText.mk gap_nil condition (chainText_print hsteps)
  rw [List.nil_append, ← toList_canonical] at text
  exact read_eq_ok_iff.2 ⟨_, _, text, rfl⟩

theorem Condition.mapValues_id (c : Condition) : c.mapValues id = c := by
  rw [mapValues, Literal.mapValues_id]

theorem Expr.conditions_chain (first : Condition) (steps : List (Combinator × Condition)) :
    ((leaf first).join steps).conditions = first :: steps.map Prod.snd :=
  conditions_join (.leaf first) steps

/-- The text of a chain without decimals is read as that chain, if it can be written. -/
theorem read_canonical {first : Condition} {steps : List (Combinator × Condition)}
    (exact_ : ∀ c ∈ first :: steps.map Prod.snd, c.value.IsExact)
    (short : ((Expr.leaf first).join steps).overlong? = none) :
    Expr.read (Expr.canonical first steps) = .ok ((Expr.leaf first).join steps) := by
  rw [Expr.overlong?_eq_none_iff, Expr.conditions_chain] at short
  have reads : ∀ c ∈ first :: steps.map Prod.snd, c.value.ReadsBy id :=
    fun c hc => (exact_ c hc).readsBy (short c hc)
  have read := read_canonical_mapValues (reads first List.mem_cons_self) fun step h =>
    reads step.2 (List.mem_cons_of_mem first (List.mem_map_of_mem h))
  have same : mapSteps id steps = steps := by
    simp [mapSteps, Condition.mapValues_id]
  rwa [Condition.mapValues_id, same] at read

/-! ## Builders -/

theorem Expr.join_concat (e : Expr) (steps : List (Combinator × Condition)) (k : Combinator)
    (c : Condition) : e.join (steps ++ [(k, c)]) = .node k (e.join steps) (.leaf c) := by
  rw [join, List.foldl_append]
  rfl

/-- A chain that was joined step by step is split into those steps again. -/
theorem Expr.chain?_join (first : Condition) (steps : List (Combinator × Condition)) :
    ((leaf first).join steps).chain? = some (first, steps) := by
  induction steps using List.reverseRecOn with
  | nil => rfl
  | append_singleton steps step ih =>
    rw [join_concat, chain?, ih]
    rfl

/-- The text of a chain, unless something in it has too many digits. -/
theorem Expr.print_join (first : Condition) (steps : List (Combinator × Condition)) :
    ((leaf first).join steps).print = (Overlong.guard ((leaf first).join steps).overlong?
      (canonical first steps)).mapError .overlong := by
  rw [print, chain?_join, ← printChain_eq]

namespace Builder

/-- What a builder is told: the combinator for the next condition, or a condition by names. -/
inductive Step where
  | joinBy (c : Combinator)
  | where_ (field operator : String) (value : Literal)
deriving DecidableEq, Repr

/-- One step; a condition that cannot be built changes nothing. -/
def Step.run (b : Builder) : Step → Builder
  | .joinBy c => b.joinBy c
  | .where_ field operator value => (b.where_ field operator value).toOption.getD b

/-- A new builder after several steps. -/
def run (steps : List Step) : Builder := steps.foldl Step.run {}

/-- The conditions that steps add, each behind the combinator that was asked for last since the
condition before it, or behind `and`. -/
def added : Option Combinator → List Step → List (Combinator × Condition)
  | _, [] => []
  | _, .joinBy k :: steps => added (some k) steps
  | pending, .where_ field operator value :: steps =>
    match Condition.make field operator value with
    | .ok c => (pending.getD .and, c) :: added none steps
    | .error _ => added pending steps

/-- Conditions joined from left to right; nothing stands before the first one. -/
def tree? : List (Combinator × Condition) → Option Expr
  | [] => none
  | (_, first) :: rest => some ((Expr.leaf first).join rest)

theorem expr_foldl_of_some {b : Builder} {e : Expr} (h : b.expr = some e) (steps : List Step) :
    (steps.foldl Step.run b).expr = some (e.join (added b.pending steps)) := by
  induction steps generalizing b e with
  | nil => exact h
  | cons step steps ih =>
    rw [List.foldl_cons]
    cases step with
    | joinBy k => exact ih (b := b.joinBy k) h
    | where_ field operator value =>
      rw [Step.run, where_, added]
      cases Condition.make field operator value with
      | error _ => exact ih h
      | ok c =>
        change (steps.foldl Step.run (b.add c)).expr = _
        rw [add, h]
        exact ih rfl

/-- What a builder holds after several steps is the tree of the conditions that they add. -/
theorem expr_foldl_of_none {b : Builder} (h : b.expr = none) (steps : List Step) :
    (steps.foldl Step.run b).expr = tree? (added b.pending steps) := by
  induction steps generalizing b with
  | nil => exact h
  | cons step steps ih =>
    rw [List.foldl_cons]
    cases step with
    | joinBy k => exact ih (b := b.joinBy k) h
    | where_ field operator value =>
      rw [Step.run, where_, added]
      cases Condition.make field operator value with
      | error _ => exact ih h
      | ok c =>
        -- from the first condition on the builder holds something
        change (steps.foldl Step.run (b.add c)).expr = _
        rw [add, h]
        exact expr_foldl_of_some rfl steps

theorem checked_eq_ok_iff {c c' : Condition} :
    c.checked = .ok c' ↔ c.value ≠ .many [] ∧ c = c' := by
  rw [Condition.checked]
  split
  · next h => simp [h]
  · next h => simp [h]

theorem mapM_checked {cs : List Condition} (h : ∀ c ∈ cs, c.value ≠ .many []) :
    cs.mapM Condition.checked = .ok cs :=
  mapM_eq_ok_iff.2 (List.map_congr_left fun c hc => checked_eq_ok_iff.2 ⟨h c hc, rfl⟩)

/-- A condition that is made has the value that was given, which is no empty list. -/
theorem value_of_make {field operator : String} {v : Literal} {c : Condition}
    (h : Condition.make field operator v = .ok c) : c.value = v ∧ v ≠ .many [] := by
  unfold Condition.make at h
  split at h
  · exact absurd h (by simp)
  split at h
  · exact absurd h (by simp)
  · obtain ⟨hne, rfl⟩ := checked_eq_ok_iff.1 h
    exact ⟨rfl, hne⟩

/-- The value that a step gives, if it gives one, has no decimal in it. -/
def Step.IsExact : Step → Prop
  | .joinBy _ => True
  | .where_ _ _ value => ∀ s ∈ value.values, s.IsExact

theorem isExact_of_mem_added {steps : List Step} (exact_ : ∀ step ∈ steps, step.IsExact)
    (pending : Option Combinator) : ∀ x ∈ added pending steps, x.2.value.IsExact := by
  induction steps generalizing pending with
  | nil => simp [added]
  | cons step steps ih =>
    have later := ih fun s hs => exact_ s (List.mem_cons_of_mem step hs)
    cases step with
    | joinBy k => exact later (some k)
    | where_ field operator value =>
      rw [added]
      split
      · next c hmake =>
        obtain ⟨rfl, hne⟩ := value_of_make hmake
        intro x hx
        rcases List.mem_cons.1 hx with rfl | hx
        · exact ⟨hne, exact_ _ List.mem_cons_self⟩
        · exact later none x hx
      · exact later pending

theorem print_of_expr {b : Builder} {e : Expr} (h : b.expr = some e) : b.print = e.print := by
  rw [print, h]

/-- Conditions that are joined by one combinator are a chain. -/
theorem expr_joined (k : Combinator) (first : Condition) (rest : List Condition) :
    ((first :: rest).foldl (fun b c => (b.joinBy k).add c) ({} : Builder)).expr =
      some ((Expr.leaf first).join (rest.map (k, ·))) := by
  have start : ∀ (e : Expr) (rest : List Condition),
      rest.foldl (fun b c => (b.joinBy k).add c) (⟨some e, none⟩ : Builder) =
        ⟨some (e.join (rest.map (k, ·))), none⟩ := by
    intro e rest
    induction rest generalizing e with
    | nil => rfl
    | cons c rest ih => exact ih (.node k e (.leaf c))
  exact congrArg Builder.expr (start (.leaf first) rest)

/-- Conditions are joined to a text unless one of them has the empty list for its value. -/
theorem joinAll_eq {k : Combinator} {first : Condition} {rest : List Condition}
    (ne_nil : ∀ c ∈ first :: rest, c.value ≠ .many []) :
    joinAll k (first :: rest) =
      ((Expr.leaf first).join (rest.map (k, ·))).print.mapError .unprintable := by
  have checked : (first :: rest).mapM Condition.checked = .ok (first :: rest) :=
    mapM_checked ne_nil
  have built : chain k (first :: rest) =
      .ok ((first :: rest).foldl (fun b c => (b.joinBy k).add c) {}) :=
    foldlM_map_eq_ok_iff.2 ⟨_, checked, rfl⟩
  rw [joinAll, built, ← print_of_expr (expr_joined k first rest)]
  rfl

end Builder

/-- Whether the tree that a builder holds can be written is known from its values. -/
theorem print_chain_cases {first : Condition} {steps : List (Combinator × Condition)}
    (exact_ : ∀ c ∈ first :: steps.map Prod.snd, c.value.IsExact) {e : Expr}
    (he : e = (Expr.leaf first).join steps) :
    (e.overlong? = none → ∃ s, e.print = .ok s ∧ Expr.read s = .ok e) ∧
      ∀ o, e.overlong? = some o → e.print = .error (.overlong o) := by
  subst he
  rw [Expr.print_join]
  constructor
  · intro short
    rw [short]
    exact ⟨_, rfl, read_canonical exact_ short⟩
  · intro o found
    rw [found]
    rfl

/-- What the steps of a builder built is printed and read back, unless something in it has too many
digits. -/
theorem Builder.print_run_cases {steps : List Builder.Step} (exact_ : ∀ step ∈ steps, step.IsExact)
    {e : Expr} (he : (Builder.run steps).expr = some e) :
    (e.overlong? = none → ∃ s, (Builder.run steps).print = .ok s ∧ Expr.read s = .ok e) ∧
      ∀ o, e.overlong? = some o → (Builder.run steps).print = .error (.overlong o) := by
  have built : (Builder.run steps).expr = Builder.tree? (Builder.added none steps) :=
    Builder.expr_foldl_of_none rfl steps
  have values := Builder.isExact_of_mem_added exact_ none
  rw [Builder.print_of_expr he]
  -- a builder that holds something was given a first condition
  cases hadded : Builder.added none steps with
  | nil =>
    rw [built, hadded] at he
    exact absurd he (by simp [Builder.tree?])
  | cons x rest =>
    rw [hadded] at built values
    refine print_chain_cases ?_ (Option.some.inj (he.symm.trans built))
    intro c hc
    rcases List.mem_cons.1 hc with rfl | hc
    · exact values x List.mem_cons_self
    · obtain ⟨step, hstep, rfl⟩ := List.mem_map.1 hc
      exact values step (List.mem_cons_of_mem x hstep)

/-- What is joined from conditions is read back as their chain, unless something in it has too many
digits. -/
theorem Builder.joinAllBy_cases {name : String} {k : Combinator}
    (hk : Combinator.ofText? name = some k) {first : Condition} {rest : List Condition}
    (exact_ : ∀ c ∈ first :: rest, c.value.IsExact) {e : Expr}
    (he : (Expr.leaf first).join (rest.map (k, ·)) = e) :
    (e.overlong? = none →
      ∃ s, Builder.joinAllBy name (first :: rest) = .ok s ∧ Expr.read s = .ok e) ∧
      ∀ o, e.overlong? = some o →
        Builder.joinAllBy name (first :: rest) = .error (.unprintable (.overlong o)) := by
  have written : Builder.joinAllBy name (first :: rest) = e.print.mapError .unprintable := by
    rw [Builder.joinAllBy, hk, ← he]
    exact Builder.joinAll_eq fun c hc => (exact_ c hc).ne_nil
  have values : (rest.map (k, ·)).map Prod.snd = rest := by simp [Function.comp_def]
  obtain ⟨reads, fails⟩ := print_chain_cases (values.symm ▸ exact_) he.symm
  rw [written]
  constructor
  · intro short
    obtain ⟨s, hprint, hread⟩ := reads short
    exact ⟨s, by rw [hprint]; rfl, hread⟩
  · intro o found
    rw [fails o found]
    rfl

/-- A builder holds the tree of the conditions that it was given, and what it prints is read back as
that tree, whatever was asked of it and in whichever order. It cannot print just those trees in
which something has too many digits. The same holds of conditions that are joined by one
combinator. -/
theorem read_print_of_builder (steps : List Builder.Step) (name : String) (k : Combinator)
    (first : Condition) (rest : List Condition) :
    ((∀ step ∈ steps, step.IsExact) →
      (Builder.run steps).expr = Builder.tree? (Builder.added none steps) ∧
      ∀ e, (Builder.run steps).expr = some e →
        (e.overlong? = none → ∃ s, (Builder.run steps).print = .ok s ∧ Expr.read s = .ok e) ∧
        ∀ o, e.overlong? = some o → (Builder.run steps).print = .error (.overlong o)) ∧
    (Combinator.ofText? name = some k → (∀ c ∈ first :: rest, c.value.IsExact) →
      let e := (Expr.leaf first).join (rest.map (k, ·))
      (e.overlong? = none → ∃ s, Builder.joinAllBy name (first :: rest) = .ok s ∧
        Expr.read s = .ok e) ∧
      ∀ o, e.overlong? = some o →
        Builder.joinAllBy name (first :: rest) = .error (.unprintable (.overlong o))) :=
  ⟨fun exact_ => ⟨Builder.expr_foldl_of_none rfl steps,
      fun _ he => Builder.print_run_cases exact_ he⟩,
    fun hk exact_ => Builder.joinAllBy_cases hk exact_ rfl⟩

/-- Texts with quotes and operators in them, texts that look like another value, an empty text. -/
theorem read_print_of_quoted_texts :
    (∃ s, (Builder.run [.where_ "title" "=" (.one (.text "\"a\\\" && (1)\n")), .joinBy .or,
        .where_ "labels" "in" (.many [.int (-1), .text "true", .bool true, .text ""])]).print =
          .ok s ∧ Expr.read s =
      .ok (.node .or (.leaf ⟨.title, .eq, .one (.text "\"a\\\" && (1)\n")⟩)
        (.leaf ⟨.labels, .isIn, .many [.int (-1), .text "true", .bool true, .text ""]⟩))) ∧
    ∃ s, Builder.joinAllBy "||"
          [⟨.priority, .ge, .one (.int 3)⟩, ⟨.title, .like, .one (.text "2")⟩] = .ok s ∧
        Expr.read s = .ok (.node .or (.leaf ⟨.priority, .ge, .one (.int 3)⟩)
          (.leaf ⟨.title, .like, .one (.text "2")⟩)) := by
  obtain ⟨runs, joins⟩ := read_print_of_builder
    [.where_ "title" "=" (.one (.text "\"a\\\" && (1)\n")), .joinBy .or,
      .where_ "labels" "in" (.many [.int (-1), .text "true", .bool true, .text ""])] "||" .or
    ⟨.priority, .ge, .one (.int 3)⟩ [⟨.title, .like, .one (.text "2")⟩]
  refine ⟨((runs ?_).2 _ (by decide)).1 (by decide), (joins rfl ?_).1 (by decide)⟩
  · simp [Builder.Step.IsExact, Literal.values, Scalar.IsExact]
  · intro c hc
    simp only [List.mem_cons, List.not_mem_nil, or_false] at hc
    rcases hc with rfl | rfl
    · exact ⟨by decide, fun s hs => List.mem_singleton.1 hs ▸ trivial⟩
    · exact ⟨by decide, fun s hs => List.mem_singleton.1 hs ▸ trivial⟩

end TaskSieve.Filter
