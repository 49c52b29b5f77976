import TaskSieve.Filter.Reader
import TaskSieve.Proofs.Except
import TaskSieve.Proofs.Filter.Lexing
import TaskSieve.Proofs.Text.Blank

set_option autoImplicit false

/-! # What is read as a filter

A text is read as an expression exactly if the grammar spells that expression in it. Between the
characters and the tree stand the tokens: first the readers of tokens are tied to lists of lexemes,
which are the grammar with its gaps and spellings taken away, and then the lexemes are tied to the
characters by `Lexes`. -/

namespace TaskSieve.Filter

open Grammar

theorem unexpected_ne_ok {α : Type} {stop : Nat} {ts : List Token} {wanted : Wanted} {a : α} :
    unexpected stop ts wanted ≠ .ok a := by
  cases ts <;> simp [unexpected]

/-! ## Lexemes of values, conditions and chains -/

/-- The lexemes of a list of values behind its opening parenthesis. -/
inductive ItemsLexemes : List Scalar → List Lexeme → Prop
  | last {s : String} {v : Scalar} : ItemsLexemes [v] [.value s v, .closing]
  | more {s : String} {v : Scalar} {vs : List Scalar} {ls : List Lexeme}
      (items : ItemsLexemes vs ls) : ItemsLexemes (v :: vs) (.value s v :: .comma :: ls)

/-- The lexemes of a value or of a list of values. -/
inductive LiteralLexemes : Literal → List Lexeme → Prop
  | one {s : String} {v : Scalar} : LiteralLexemes (.one v) [.value s v]
  | many {vs : List Scalar} {ls : List Lexeme} (items : ItemsLexemes vs ls) :
      LiteralLexemes (.many vs) (.opening :: ls)

/-- The lexemes of a condition. -/
inductive ConditionLexemes : Condition → List Lexeme → Prop
  | mk {name : String} {f : Field} {op : Operator} {v : Literal} {ls : List Lexeme}
      (known : Field.resolve? name.toList = some f) (value : LiteralLexemes v ls) :
      ConditionLexemes ⟨f, op, v⟩ (.word name :: .operator op :: ls)

/-- The lexemes of further conditions. -/
inductive ChainLexemes : List (Combinator × Condition) → List Lexeme → Prop
  | done : ChainLexemes [] []
  | next {k : Combinator} {c : Condition} {steps : List (Combinator × Condition)}
      {ls ls' : List Lexeme} (condition : ConditionLexemes c ls) (chain : ChainLexemes steps ls') :
      ChainLexemes ((k, c) :: steps) (.combinator k :: (ls ++ ls'))

/-! ## Tokens -/

theorem exists_token_of_map_eq_cons {ts : List Token} {l : Lexeme} {ls : List Lexeme}
    (h : ts.map Token.lexeme = l :: ls) :
    ∃ p rest, ts = ⟨l, p⟩ :: rest ∧ rest.map Token.lexeme = ls := by
  obtain ⟨⟨_, p⟩, rest, rfl, rfl, hrest⟩ := List.map_eq_cons_iff.1 h
  exact ⟨p, rest, rfl, hrest⟩

theorem itemsOfTokens_eq_ok_iff {stop : Nat} {ts rest : List Token} {vs : List Scalar} :
    Literal.itemsOfTokens stop ts = .ok (vs, rest) ↔
      ∃ front, ItemsLexemes vs (front.map Token.lexeme) ∧ ts = front ++ rest := by
  constructor
  · intro h
    fun_induction Literal.itemsOfTokens stop ts generalizing vs rest with
    | case1 s v p p' ts ih =>
      obtain ⟨⟨vs', rest'⟩, h', heq⟩ := bind_eq_ok_iff.1 h
      obtain ⟨rfl, rfl⟩ := Prod.mk.inj (Except.ok.inj heq)
      obtain ⟨front, items, rfl⟩ := ih h'
      exact ⟨⟨.value s v, p⟩ :: ⟨.comma, p'⟩ :: front, .more items, rfl⟩
    | case2 s v p p' ts =>
      obtain ⟨rfl, rfl⟩ := Prod.mk.inj (Except.ok.inj h)
      exact ⟨[⟨.value s v, p⟩, ⟨.closing, p'⟩], .last, rfl⟩
    | case3 s v p ts _ _ => exact absurd h unexpected_ne_ok
    | case4 ts _ _ _ => exact absurd h unexpected_ne_ok
  · rintro ⟨front, items, rfl⟩
    generalize hls : front.map Token.lexeme = ls at items
    induction items generalizing front with
    | last =>
      obtain ⟨p, front, rfl, htail⟩ := exists_token_of_map_eq_cons hls
      obtain ⟨p', front, rfl, hnil⟩ := exists_token_of_map_eq_cons htail
      obtain rfl := List.map_eq_nil_iff.1 hnil
      rfl
    | more _ ih =>
      obtain ⟨p, front, rfl, htail⟩ := exists_token_of_map_eq_cons hls
      obtain ⟨p', front, rfl, hitems⟩ := exists_token_of_map_eq_cons htail
      simp only [List.cons_append, Literal.itemsOfTokens, ih front hitems]
      rfl

theorem literalOfTokens_eq_ok_iff {stop : Nat} {ts rest : List Token} {v : Literal} :
    Literal.ofTokens stop ts = .ok (v, rest) ↔
      ∃ front, LiteralLexemes v (front.map Token.lexeme) ∧ ts = front ++ rest := by
  constructor
  · intro h
    unfold Literal.ofTokens at h
    split at h
    · next p ts =>
      obtain ⟨⟨vs, rest'⟩, h', heq⟩ := bind_eq_ok_iff.1 h
      obtain ⟨rfl, rfl⟩ := Prod.mk.inj (Except.ok.inj heq)
      obtain ⟨front, items, rfl⟩ := itemsOfTokens_eq_ok_iff.1 h'
      exact ⟨⟨.opening, p⟩ :: front, .many items, rfl⟩
    · next s v p ts =>
      obtain ⟨rfl, rfl⟩ := Prod.mk.inj (Except.ok.inj h)
      exact ⟨[⟨.value s v, p⟩], .one, rfl⟩
    · exact absurd h unexpected_ne_ok
  · rintro ⟨front, literal, rfl⟩
    generalize hls : front.map Token.lexeme = ls at literal
    cases literal with
    | one =>
      obtain ⟨p, front, rfl, hnil⟩ := exists_token_of_map_eq_cons hls
      obtain rfl := List.map_eq_nil_iff.1 hnil
      rfl
    | many items =>
      obtain ⟨p, front, rfl, rfl⟩ := exists_token_of_map_eq_cons hls
      have hitems : Literal.itemsOfTokens stop (front ++ rest) = .ok (_, rest) :=
        itemsOfTokens_eq_ok_iff.2 ⟨front, items, rfl⟩
      simp only [List.cons_append, Literal.ofTokens, hitems]
      rfl

theorem conditionOfTokens_eq_ok_iff {stop : Nat} {ts rest : List Token} {c : Condition} :
    Condition.ofTokens stop ts = .ok (c, rest) ↔
      ∃ front, ConditionLexemes c (front.map Token.lexeme) ∧ ts = front ++ rest := by
  constructor
  · intro h
    unfold Condition.ofTokens at h
    split at h
    · next name p ts =>
      split at h
      · exact absurd h (by simp)
      · next field hfield =>
        split at h
        · next op p' ts =>
          obtain ⟨⟨v, rest'⟩, h', heq⟩ := bind_eq_ok_iff.1 h
          obtain ⟨rfl, rfl⟩ := Prod.mk.inj (Except.ok.inj heq)
          obtain ⟨front, value, rfl⟩ := literalOfTokens_eq_ok_iff.1 h'
          exact ⟨⟨.word name, p⟩ :: ⟨.operator op, p'⟩ :: front, .mk hfield value, rfl⟩
        · exact absurd h unexpected_ne_ok
    · exact absurd h unexpected_ne_ok
  · rintro ⟨front, condition, rfl⟩
    generalize hls : front.map Token.lexeme = ls at condition
    cases condition with
    | mk known value =>
      obtain ⟨p, front, rfl, htail⟩ := exists_token_of_map_eq_cons hls
      obtain ⟨p', front, rfl, rfl⟩ := exists_token_of_map_eq_cons htail
      have hvalue : Literal.ofTokens stop (front ++ rest) = .ok (_, rest) :=
        literalOfTokens_eq_ok_iff.2 ⟨front, value, rfl⟩
      simp only [List.cons_append, Condition.ofTokens, known, hvalue]
      rfl

namespace Expr

/-- A chain whose next condition cannot be read fails. -/
theorem chainOfTokens_eq_error {stop p : Nat} {k : Combinator} {left : Expr} {ts : List Token}
    {e : ParseError} (h : Condition.ofTokens stop ts = .error e) :
    chainOfTokens stop left (⟨.combinator k, p⟩ :: ts) = .error e := by
  rw [chainOfTokens]
  -- the chain matches on the condition with its equation, so the condition cannot be rewritten
  split
  · next h' => rw [Except.error.inj (h'.symm.trans h)]
  · next h' => exact absurd (h'.symm.trans h) (by simp)

theorem chainOfTokens_of_condition {stop p : Nat} {k : Combinator} {left : Expr}
    {ts ts' : List Token} {c : Condition} (h : Condition.ofTokens stop ts = .ok (c, ts')) :
    chainOfTokens stop left (⟨.combinator k, p⟩ :: ts) =
      chainOfTokens stop (.node k left (.leaf c)) ts' := by
  rw [chainOfTokens]
  split
  · next h' => exact absurd (h'.symm.trans h) (by simp)
  · next h' =>
    obtain ⟨rfl, rfl⟩ := Prod.mk.inj (Except.ok.inj (h'.symm.trans h))
    rfl

/-- A filter that is read starts with a condition and goes on as a chain. -/
theorem ofTokens_eq {stop : Nat} {ts ts' : List Token} {c : Condition}
    (h : Condition.ofTokens stop ts = .ok (c, ts')) :
    ofTokens stop ts = chainOfTokens stop (.leaf c) ts' := by
  cases ts with
  | nil => exact absurd h (by simp [Condition.ofTokens, unexpected])
  | cons t ts => simp only [ofTokens, h, bind, Except.bind]

end Expr

theorem chainOfTokens_eq_ok_iff {stop : Nat} {ts : List Token} {left e : Expr} :
    Expr.chainOfTokens stop left ts = .ok e ↔
      ∃ steps, ChainLexemes steps (ts.map Token.lexeme) ∧ e = left.join steps := by
  constructor
  · intro h
    fun_induction Expr.chainOfTokens stop left ts with
    | case1 left =>
      obtain rfl := Except.ok.inj h
      exact ⟨[], .done, rfl⟩
    | case2 left k p ts e' hcondition => exact absurd h (by simp)
    | case3 left k p ts c rest hcondition ih =>
      obtain ⟨front, condition, rfl⟩ := conditionOfTokens_eq_ok_iff.1 hcondition
      obtain ⟨steps, chain, rfl⟩ := ih h
      refine ⟨(k, c) :: steps, ?_, rfl⟩
      rw [List.map_cons, List.map_append]
      exact .next condition chain
    | case4 left ts _ _ => exact absurd h unexpected_ne_ok
  · rintro ⟨steps, chain, rfl⟩
    generalize hls : ts.map Token.lexeme = ls at chain
    induction chain generalizing ts left with
    | done =>
      rw [List.map_eq_nil_iff.1 hls, Expr.chainOfTokens]
      rfl
    | @next k c steps ls ls' condition _ ih =>
      obtain ⟨p, ts, rfl, htail⟩ := exists_token_of_map_eq_cons hls
      obtain ⟨front, rest, rfl, rfl, hrest⟩ := List.map_eq_append_iff.1 htail
      have hcondition : Condition.ofTokens stop (front ++ rest) = .ok (c, rest) :=
        conditionOfTokens_eq_ok_iff.2 ⟨front, condition, rfl⟩
      rw [Expr.chainOfTokens_of_condition hcondition]
      exact ih hrest

theorem ofTokens_eq_ok_iff {stop : Nat} {ts : List Token} {e : Expr} :
    Expr.ofTokens stop ts = .ok e ↔ ∃ first steps ls ls', ConditionLexemes first ls ∧
      ChainLexemes steps ls' ∧ ts.map Token.lexeme = ls ++ ls' ∧
      e = (Expr.leaf first).join steps := by
  constructor
  · intro h
    cases ts with
    | nil => exact absurd h (by simp [Expr.ofTokens])
    | cons t ts =>
      obtain ⟨⟨first, rest⟩, hfirst, hrest⟩ := bind_eq_ok_iff.1 h
      obtain ⟨front, condition, whole⟩ := conditionOfTokens_eq_ok_iff.1 hfirst
      obtain ⟨steps, chain, rfl⟩ := chainOfTokens_eq_ok_iff.1 hrest
      exact ⟨first, steps, _, _, condition, chain, by rw [whole, List.map_append], rfl⟩
  · rintro ⟨first, steps, ls, ls', condition, chain, hls, rfl⟩
    obtain ⟨front, rest, rfl, rfl, rfl⟩ := List.map_eq_append_iff.1 hls
    have hfirst : Condition.ofTokens stop (front ++ rest) = .ok (first, rest) :=
      conditionOfTokens_eq_ok_iff.2 ⟨front, condition, rfl⟩
    rw [Expr.ofTokens_eq hfirst]
    exact chainOfTokens_eq_ok_iff.2 ⟨steps, chain, rfl⟩

/-- A scan gives an expression only if it came to the end of the text. -/
theorem ofScan_eq_ok_iff {s : Scan} {e : Expr} :
    Expr.ofScan s = .ok e ↔ s.fault = none ∧ Expr.ofTokens s.stop s.tokens = .ok e := by
  unfold Expr.ofScan
  split
  · next h => simp [h]
  · next fault h =>
    simp only [h, reduceCtorEq, false_and, iff_false]
    split
    · simp
    · split <;> simp

/-! ## Names of fields -/

/-- Below the end of ASCII lower case is that of single letters. -/
theorem lowerAfter_of_ascii (before : List Char) {cs : List Char} (h : ∀ c ∈ cs, c.toNat < 0x80) :
    Text.lowerAfter before cs = cs.map Char.toLower := by
  induction cs generalizing before with
  | nil => rfl
  | cons c cs ih =>
    have hc : c.toNat < 0x80 := h c List.mem_cons_self
    have hsigma : c ≠ 'Σ' := by
      rintro rfl
      exact absurd hc (by decide)
    have hdotted : c ≠ 'İ' := by
      rintro rfl
      exact absurd hc (by decide)
    simp only [Text.lowerAfter, hsigma, hdotted, Text.lowerLetter, hc, if_true, if_false,
      ih (c :: before) fun d hd => h d (List.mem_cons_of_mem c hd), List.map_cons, List.cons_append,
      List.nil_append]

/-- The characters of names by their code points. -/
theorem toNat_of_isNameChar {c : Char} (h : Lexeme.isNameChar c = true) :
    (48 ≤ c.toNat ∧ c.toNat ≤ 57) ∨ (65 ≤ c.toNat ∧ c.toNat ≤ 90) ∨ c.toNat = 95 ∨
      (97 ≤ c.toNat ∧ c.toNat ≤ 122) := by
  simp only [Lexeme.isNameChar, Lexeme.startsName, Lexeme.isLetter, Char.isDigit] at h
  delta Char.isAlpha Char.isUpper Char.isLower at h
  simp only [Bool.or_eq_true, Bool.and_eq_true, decide_eq_true_eq, beq_iff_eq,
    UInt32.le_iff_toNat_le, ge_iff_le] at h
  rcases h with ((h | h) | rfl) | h
  · exact .inr (.inl h)
  · exact .inr (.inr (.inr h))
  · decide
  · exact .inl h

theorem isBlank_of_isNameChar {c : Char} (h : Lexeme.isNameChar c = true) :
    Text.isBlank c = false := by
  have := toNat_of_isNameChar h
  simp only [Text.isBlank, Bool.or_eq_false_iff, Bool.and_eq_false_iff, decide_eq_false_iff_not,
    beq_eq_false_iff_ne]
  omega

/-- No text names two fields. -/
theorem names_unique {name : List Char} {f f' : Field} (h : Names name f) (h' : Names name f') :
    f = f' := by
  have apart : ∀ f ∈ Field.all, ∀ f' ∈ Field.all,
      (∃ k ∈ [f.name.toList.map Char.toLower, f.taskKey.toList],
        k ∈ [f'.name.toList.map Char.toLower, f'.taskKey.toList]) → f = f' := by decide
  have all : ∀ f : Field, f ∈ Field.all := by
    intro f
    cases f <;> decide
  -- a name is compared in lower case, so two fields would share a key
  refine apart f (all f) f' (all f') ⟨name.map Char.toLower, ?_, ?_⟩
  · simpa [Names] using h
  · simpa [Names] using h'

/-- A name of letters, figures and underscores means the field that it names. -/
theorem resolve?_eq_some_iff {name : List Char} {f : Field}
    (h : ∀ c ∈ name, Lexeme.isNameChar c = true) : Field.resolve? name = some f ↔ Names name f := by
  have hkey : Text.lower (Text.trim name) = name.map Char.toLower := by
    rw [Text.trim, Text.trimWhile_of_none fun c hc => isBlank_of_isNameChar (h c hc)]
    exact lowerAfter_of_ascii [] fun c hc => by have := toNat_of_isNameChar (h c hc); omega
  have known : ∀ f : Field,
      (Text.lower f.name.toList == name.map Char.toLower ||
        f.taskKey.toList == name.map Char.toLower) = true ↔ Names name f := by
    intro f
    have hlower : Text.lower f.name.toList = f.name.toList.map Char.toLower := by
      cases f <;> decide
    rw [hlower, Bool.or_eq_true, beq_iff_eq, beq_iff_eq, Names, eq_comm,
      eq_comm (b := f.taskKey.toList)]
  rw [Field.resolve?, hkey]
  constructor
  · intro hf
    have hp := List.find?_some hf
    exact (known f).1 hp
  · intro hf
    cases hfind : Field.all.find? fun f => Text.lower f.name.toList == name.map Char.toLower ||
        f.taskKey.toList == name.map Char.toLower with
    | none =>
      have hmem : f ∈ Field.all := by cases f <;> decide
      exact absurd ((known f).2 hf) (List.find?_eq_none.1 hfind f hmem)
    | some f' =>
      have hp := List.find?_some hfind
      rw [names_unique hf ((known f').1 hp)]

/-! ## Lexemes and characters -/

section Characters

variable {fits : Nat → Prop}

/-- All these tokens have as many digits as they may have. -/
def AllFit (fits : Nat → Prop) (ls : List Lexeme) : Prop := ∀ l ∈ ls, l.Fits fits

theorem allFit_nil : AllFit fits [] := fun _ h => absurd h List.not_mem_nil

theorem allFit_cons_iff {l : Lexeme} {ls : List Lexeme} :
    AllFit fits (l :: ls) ↔ l.Fits fits ∧ AllFit fits ls :=
  List.forall_mem_cons

theorem allFit_append_iff {ls ls' : List Lexeme} :
    AllFit fits (ls ++ ls') ↔ AllFit fits ls ∧ AllFit fits ls' :=
  List.forall_mem_append

/-- Without a bound there are never too many digits. -/
theorem allFit_true (ls : List Lexeme) : AllFit (fun _ => True) ls := by
  intro l _
  cases l with
  | value raw v => exact fun _ _ => trivial
  | _ => trivial

theorem exists_itemsLexemes_iff {vs : List Scalar} {cs : List Char} {more : List Lexeme} :
    (∃ ls, ItemsLexemes vs ls ∧ AllFit fits ls ∧ Lexes .value cs (ls ++ more)) ↔
      ∃ r, ItemsText fits vs cs r ∧ Lexes .general r more := by
  constructor
  · rintro ⟨ls, items, digits, h⟩
    induction items generalizing cs with
    | last =>
      obtain ⟨first, -⟩ := allFit_cons_iff.1 digits
      obtain ⟨g₁, t, r, gap₁, item, rfl, h₁⟩ := lexes_value_iff.1 ⟨_, first, h⟩
      obtain ⟨g₂, r, gap₂, rfl, h₂⟩ := (lexes_mark_iff (l := .closing) trivial).1 h₁
      exact ⟨r, .last gap₁ item gap₂, h₂⟩
    | more _ ih =>
      obtain ⟨first, later⟩ := allFit_cons_iff.1 digits
      obtain ⟨g₁, t, r, gap₁, item, rfl, h₁⟩ := lexes_value_iff.1 ⟨_, first, h⟩
      obtain ⟨g₂, r, gap₂, rfl, h₂⟩ := (lexes_mark_iff (l := .comma) trivial).1 h₁
      obtain ⟨r', items, h₃⟩ := ih (allFit_cons_iff.1 later).2 h₂
      exact ⟨r', .more gap₁ item gap₂ items, h₃⟩
  · rintro ⟨r, items, h⟩
    induction items with
    | @last v g₁ g₂ t r gap₁ item gap₂ =>
      have closing : Lexes .general (g₂ ++ ')' :: r) (.closing :: more) :=
        (lexes_mark_iff (l := .closing) trivial).2 ⟨_, _, gap₂, rfl, h⟩
      obtain ⟨s, first, value⟩ := lexes_value_iff.2 ⟨_, _, _, gap₁, item, rfl, closing⟩
      have digits : AllFit fits [.value s v, .closing] :=
        allFit_cons_iff.2 ⟨first, allFit_cons_iff.2 ⟨trivial, allFit_nil⟩⟩
      exact ⟨_, .last, digits, value⟩
    | @more v vs g₁ g₂ t later r gap₁ item gap₂ _ ih =>
      obtain ⟨ls, items, digits, h₁⟩ := ih h
      have comma : Lexes .general (g₂ ++ ',' :: later) (.comma :: (ls ++ more)) :=
        (lexes_mark_iff (l := .comma) trivial).2 ⟨_, _, gap₂, rfl, h₁⟩
      obtain ⟨s, first, value⟩ := lexes_value_iff.2 ⟨_, _, _, gap₁, item, rfl, comma⟩
      exact ⟨_, .more items,
        allFit_cons_iff.2 ⟨first, allFit_cons_iff.2 ⟨trivial, digits⟩⟩, value⟩

theorem exists_literalLexemes_iff {v : Literal} {cs : List Char} {more : List Lexeme} :
    (∃ ls, LiteralLexemes v ls ∧ AllFit fits ls ∧ Lexes .value cs (ls ++ more)) ↔
      ∃ g t r, Gap g ∧ LiteralText fits v t r ∧ cs = g ++ t ∧ Lexes .general r more := by
  constructor
  · rintro ⟨ls, literal, digits, h⟩
    cases literal with
    | one =>
      obtain ⟨first, -⟩ := allFit_cons_iff.1 digits
      obtain ⟨g, t, r, gap, item, rfl, h₁⟩ := lexes_value_iff.1 ⟨_, first, h⟩
      exact ⟨g, t, r, gap, .one item, rfl, h₁⟩
    | many items =>
      obtain ⟨g, t, gap, rfl, h₁⟩ := (lexes_mark_iff (l := .opening) trivial).1 h
      obtain ⟨r, items, h₂⟩ :=
        exists_itemsLexemes_iff.1 ⟨_, items, (allFit_cons_iff.1 digits).2, h₁⟩
      exact ⟨g, '(' :: t, r, gap, .many items, rfl, h₂⟩
  · rintro ⟨g, t, r, gap, literal, rfl, h⟩
    cases literal with
    | one item =>
      obtain ⟨s, first, value⟩ := lexes_value_iff.2 ⟨_, _, _, gap, item, rfl, h⟩
      exact ⟨_, .one, allFit_cons_iff.2 ⟨first, allFit_nil⟩, value⟩
    | many items =>
      obtain ⟨ls, items, digits, h₁⟩ := exists_itemsLexemes_iff.2 ⟨_, items, h⟩
      exact ⟨_, .many items, allFit_cons_iff.2 ⟨trivial, digits⟩,
        (lexes_mark_iff (l := .opening) trivial).2 ⟨_, _, gap, rfl, h₁⟩⟩

theorem exists_conditionLexemes_iff {c : Condition} {cs : List Char} {more : List Lexeme} :
    (∃ ls, ConditionLexemes c ls ∧ AllFit fits ls ∧ Lexes .general cs (ls ++ more)) ↔
      ∃ g t r, Gap g ∧ ConditionText fits c t r ∧ cs = g ++ t ∧ Lexes .general r more := by
  constructor
  · rintro ⟨ls, ⟨known, value⟩, digits, h⟩
    obtain ⟨-, digits⟩ := allFit_cons_iff.1 (allFit_cons_iff.1 digits).2
    obtain ⟨g, r, gap, starts, run, rfl, h₁⟩ := lexes_word_iff.1 h
    obtain ⟨g₁, t₁, r₁, gap₁, operator, rfl, h₂⟩ := lexes_operator_iff.1 h₁
    obtain ⟨g₂, t₂, r₂, gap₂, value, rfl, h₃⟩ := exists_literalLexemes_iff.1 ⟨_, value, digits, h₂⟩
    have names := (resolve?_eq_some_iff run.all).1 known
    exact ⟨g, _, r₂, gap, .mk starts run names gap₁ operator gap₂ value, rfl, h₃⟩
  · rintro ⟨g, _, r, gap, ⟨starts, run, names, gap₁, operator, gap₂, value⟩, rfl, h⟩
    rename_i name g₁ g₂ t₁ t₂
    obtain ⟨ls, value, digits, h₁⟩ := exists_literalLexemes_iff.2 ⟨g₂, t₂, r, gap₂, value, rfl, h⟩
    have h₂ := lexes_operator_iff.2 ⟨_, _, _, gap₁, operator, rfl, h₁⟩
    have known := (resolve?_eq_some_iff run.all).2 names
    rw [← String.toList_ofList (l := name)] at known run starts
    refine ⟨_, .mk known value,
      allFit_cons_iff.2 ⟨trivial, allFit_cons_iff.2 ⟨trivial, digits⟩⟩,
      lexes_word_iff.2 ⟨g, _, gap, starts, run, ?_, h₂⟩⟩
    rw [String.toList_ofList]

theorem exists_chainLexemes_iff {steps : List (Combinator × Condition)} {cs : List Char} :
    (∃ ls, ChainLexemes steps ls ∧ AllFit fits ls ∧ Lexes .general cs ls) ↔
      ChainText fits steps cs := by
  constructor
  · rintro ⟨ls, chain, digits, h⟩
    induction chain generalizing cs with
    | done => exact .done (lexes_nil_iff.1 h)
    | @next k c steps ls ls' condition _ ih =>
      obtain ⟨first, later⟩ := allFit_append_iff.1 (allFit_cons_iff.1 digits).2
      obtain ⟨g₁, r, gap₁, rfl, h₁⟩ := (lexes_mark_iff (l := .combinator k) trivial).1 h
      obtain ⟨g₂, t, r, gap₂, condition, rfl, h₂⟩ :=
        exists_conditionLexemes_iff.1 ⟨ls, condition, first, h₁⟩
      exact .next gap₁ gap₂ condition (ih later h₂)
  · intro chain
    induction chain with
    | done gap => exact ⟨_, .done, allFit_nil, lexes_nil_iff.2 gap⟩
    | @next k c steps g₁ g₂ t rest gap₁ gap₂ condition _ ih =>
      obtain ⟨ls', chain, later, h⟩ := ih
      obtain ⟨ls, condition, first, h₁⟩ :=
        exists_conditionLexemes_iff.2 ⟨g₂, t, rest, gap₂, condition, rfl, h⟩
      exact ⟨_, .next condition chain,
        allFit_cons_iff.2 ⟨trivial, allFit_append_iff.2 ⟨first, later⟩⟩,
        (lexes_mark_iff (l := .combinator k) trivial).2 ⟨g₁, _, gap₁, rfl, h₁⟩⟩

/-- A text is a filter exactly if it splits into the lexemes of one. -/
theorem filterText_iff {first : Condition} {steps : List (Combinator × Condition)}
    {cs : List Char} : FilterText fits first steps cs ↔ ∃ ls ls', ConditionLexemes first ls ∧
      ChainLexemes steps ls' ∧ AllFit fits (ls ++ ls') ∧ Lexes .general cs (ls ++ ls') := by
  constructor
  · rintro ⟨gap, condition, chain⟩
    -- the lexemes are found from the end of the text to its start
    obtain ⟨ls', chain, later, h⟩ := exists_chainLexemes_iff.2 chain
    obtain ⟨ls, condition, first, h⟩ :=
      exists_conditionLexemes_iff.2 ⟨_, _, _, gap, condition, rfl, h⟩
    exact ⟨ls, ls', condition, chain, allFit_append_iff.2 ⟨first, later⟩, h⟩
  · rintro ⟨ls, ls', condition, chain, digits, h⟩
    obtain ⟨first, later⟩ := allFit_append_iff.1 digits
    obtain ⟨g, t, r, gap, condition, rfl, rest⟩ :=
      exists_conditionLexemes_iff.1 ⟨ls, condition, first, h⟩
    exact .mk gap condition (exists_chainLexemes_iff.1 ⟨ls', chain, later, rest⟩)

end Characters

/-! ## Chains -/

namespace Expr

/-- Every right part is a single condition. -/
inductive LeftDeep : Expr → Prop
  | leaf {c : Condition} : LeftDeep (.leaf c)
  | node {k : Combinator} {l : Expr} {c : Condition} (left : LeftDeep l) :
      LeftDeep (.node k l (.leaf c))

theorem conditions_join (e : Expr) (steps : List (Combinator × Condition)) :
    (e.join steps).conditions = e.conditions ++ steps.map Prod.snd := by
  induction steps generalizing e with
  | nil => rw [List.map_nil, List.append_nil, join, List.foldl_nil]
  | cons step steps ih =>
    rw [join, List.foldl_cons, ← join, ih, conditions, conditions, List.append_assoc]
    rfl

theorem combinators_join (e : Expr) (steps : List (Combinator × Condition)) :
    (e.join steps).combinators = e.combinators ++ steps.map Prod.fst := by
  induction steps generalizing e with
  | nil => rw [List.map_nil, List.append_nil, join, List.foldl_nil]
  | cons step steps ih =>
    rw [join, List.foldl_cons, ← join, ih, combinators, combinators, List.append_assoc]
    rfl

theorem LeftDeep.join {e : Expr} (h : e.LeftDeep) (steps : List (Combinator × Condition)) :
    (e.join steps).LeftDeep := by
  induction steps generalizing e with
  | nil => exact h
  | cons step steps ih => exact ih h.node

end Expr

/-! ## Texts -/

/-- A scan takes at least one character for each of its tokens. -/
theorem Scan.length_tokens_le (total : Nat) (mode : Mode) (cs : List Char) :
    (scan total mode cs).tokens.length ≤ cs.length := by
  fun_induction scan total mode cs with
  | case1 => exact Nat.zero_le _
  | case2 => exact Nat.zero_le _
  | case3 mode cs c rest hcs _ l rest' hread later ih =>
    have hrest := Lexeme.length_read (Lexeme.isGap_of_dropWhile hcs) hread
    have hgap := Lexeme.length_dropWhile_le isGap cs
    rw [hcs] at hgap
    have hlater : later.tokens.length ≤ rest'.length := ih
    rw [List.length_cons]
    omega

/-- A text that spells a filter is not blank: it has the first character of a name. -/
theorem trim_ne_nil {fits : Nat → Prop} {first : Condition}
    {steps : List (Combinator × Condition)} {cs : List Char} (h : FilterText fits first steps cs) :
    Text.trim cs ≠ [] := by
  obtain ⟨gap, condition, -⟩ := h
  obtain ⟨starts, run, -, -, -, -, -⟩ := condition
  intro hnil
  obtain ⟨c, name, rfl⟩ := List.exists_cons_of_ne_nil run.ne_nil
  have hc : Text.isBlank c = false := isBlank_of_isNameChar (run.all c List.mem_cons_self)
  have blank := Text.trimWhile_eq_nil_iff.1 hnil c (by simp)
  exact absurd blank (by simp [hc])

/-- A text has the form of the expression whose conditions it spells, joined from left to right. -/
theorem ofText_eq_ok_iff {cs : List Char} {e : Expr} :
    Expr.ofText cs = .ok e ↔
      ∃ first steps, Spelled first steps cs ∧ e = (Expr.leaf first).join steps := by
  have tokens : Expr.ofScan (.ofText cs) = .ok e ↔
      ∃ first steps, Spelled first steps cs ∧ e = (Expr.leaf first).join steps := by
    rw [ofScan_eq_ok_iff]
    constructor
    · rintro ⟨hfault, h⟩
      obtain ⟨first, steps, ls, ls', condition, chain, hls, rfl⟩ := ofTokens_eq_ok_iff.1 h
      have lexes := Scan.lexes_iff.2 ⟨hfault, hls⟩
      exact ⟨first, steps, filterText_iff.2 ⟨ls, ls', condition, chain, allFit_true _, lexes⟩, rfl⟩
    · rintro ⟨first, steps, text, rfl⟩
      obtain ⟨ls, ls', condition, chain, -, h⟩ := filterText_iff.1 text
      obtain ⟨hfault, hls⟩ := Scan.lexes_iff.1 h
      exact ⟨hfault, ofTokens_eq_ok_iff.2 ⟨first, steps, ls, ls', condition, chain, hls, rfl⟩⟩
  rw [Expr.ofText]
  split
  · next hblank =>
    refine ⟨fun h => absurd h (by simp), ?_⟩
    rintro ⟨first, steps, h, -⟩
    exact absurd (List.isEmpty_iff.1 hblank) (trim_ne_nil h)
  · exact tokens

/-- A filter can be read if no token of it has too many digits. -/
theorem readable_iff {first : Condition} {steps : List (Combinator × Condition)} {cs : List Char} :
    Readable first steps cs ↔ Spelled first steps cs ∧ (Scan.ofText cs).overlong? = none := by
  rw [Readable, Spelled, filterText_iff, filterText_iff, Scan.overlong?_eq_none_iff]
  constructor
  · rintro ⟨ls, ls', condition, chain, digits, lexes⟩
    refine ⟨⟨ls, ls', condition, chain, allFit_true _, lexes⟩, ?_⟩
    rwa [Scan.ofText, (Scan.lexes_iff.1 lexes).2]
  · rintro ⟨⟨ls, ls', condition, chain, -, lexes⟩, digits⟩
    rw [Scan.ofText, (Scan.lexes_iff.1 lexes).2] at digits
    exact ⟨ls, ls', condition, chain, digits, lexes⟩

namespace Expr

theorem read_of_overlong {s : String} {o : Overlong}
    (h : (Scan.ofText s.toList).overlong? = some o) : read s = .error (.overlong o) := by
  rw [read, h]

theorem read_of_not_overlong {s : String} (h : (Scan.ofText s.toList).overlong? = none) :
    read s = (ofText s.toList).mapError .malformed := by
  rw [read, h]

/-- What is read has the form of a filter, and no token of it has too many digits. -/
theorem read_eq_ok_iff_ofText {s : String} {e : Expr} :
    read s = .ok e ↔ (Scan.ofText s.toList).overlong? = none ∧ ofText s.toList = .ok e := by
  cases h : (Scan.ofText s.toList).overlong? with
  | some o => simp [read_of_overlong h]
  | none => simp [read_of_not_overlong h, mapError_eq_ok_iff]

/-- What is read as malformed is malformed, and no token of it has too many digits. -/
theorem read_eq_malformed_iff {s : String} {e : ParseError} :
    read s = .error (.malformed e) ↔
      (Scan.ofText s.toList).overlong? = none ∧ ofText s.toList = .error e := by
  cases h : (Scan.ofText s.toList).overlong? with
  | some o => simp [read_of_overlong h]
  | none => simp [read_of_not_overlong h, mapError_eq_error_iff]

end Expr

/-- A text is read as the expression whose conditions it spells, joined from left to right. -/
theorem read_eq_ok_iff {s : String} {e : Expr} :
    Expr.read s = .ok e ↔
      ∃ first steps, Readable first steps s.toList ∧ e = (Expr.leaf first).join steps := by
  simp only [Expr.read_eq_ok_iff_ofText, ofText_eq_ok_iff, readable_iff]
  constructor
  · rintro ⟨digits, first, steps, text, rfl⟩
    exact ⟨first, steps, ⟨text, digits⟩, rfl⟩
  · rintro ⟨first, steps, ⟨text, digits⟩, rfl⟩
    exact ⟨digits, first, steps, text, rfl⟩

/-- What has too many digits is a text of so many. -/
theorem Scan.text_of_overlong {s : Scan} {o : Overlong} (h : s.overlong? = some o) :
    ∃ n, digitLimit < n ∧ o = .text n := by
  obtain ⟨t, -, ht⟩ := List.exists_of_findSome?_eq_some h
  unfold Lexeme.overlong? at ht
  split at ht
  · exact ⟨_, Overlong.ofDigits?_eq_some_iff.1 ht⟩
  · exact absurd ht (by simp)

/-- The reader accepts the texts that the grammar spells, unless an integer in them has too many
digits, and no others. What it gives is the left fold of the conditions in the order of the text,
after at most one token for each character. -/
theorem read_eq_ok_iff_spelled (s : String) :
    (Scan.ofText s.toList).tokens.length ≤ s.length ∧
      (∀ e, Expr.read s = .ok e ↔
        ∃ first steps, Readable first steps s.toList ∧ e = (Expr.leaf first).join steps) ∧
      ∀ first steps, (Spelled first steps s.toList → Readable first steps s.toList ∨
          ∃ n, digitLimit < n ∧ Expr.read s = .error (.overlong (.text n))) ∧
        ((Expr.leaf first).join steps).conditions = first :: steps.map Prod.snd ∧
        ((Expr.leaf first).join steps).combinators = steps.map Prod.fst ∧
        ((Expr.leaf first).join steps).LeftDeep := by
  refine ⟨?_, fun e => read_eq_ok_iff, fun first steps => ⟨fun text => ?_, ?_, ?_, ?_⟩⟩
  · rw [← String.length_toList]
    exact Scan.length_tokens_le _ _ _
  · cases h : (Scan.ofText s.toList).overlong? with
    | none => exact .inl (readable_iff.2 ⟨text, h⟩)
    | some o =>
      obtain ⟨n, hn, rfl⟩ := Scan.text_of_overlong h
      exact .inr ⟨n, hn, Expr.read_of_overlong h⟩
  · exact Expr.conditions_join (.leaf first) steps
  · exact Expr.combinators_join (.leaf first) steps
  · exact Expr.LeftDeep.leaf.join steps

end TaskSieve.Filter
