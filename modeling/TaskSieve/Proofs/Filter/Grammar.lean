import TaskSieve.Filter.Token

set_option autoImplicit false

/-! # The grammar of filter texts

What a filter text is, said on its characters and without a reader. A text is a chain of conditions
joined by combinators, with gaps wherever two tokens meet; a condition is the name of a field, an
operator and a value. Every relation is told what the text spells, the characters from the start of
the spelling on, and the characters that are left behind it. A spelling that a class of characters
could extend has to be a maximal run of that class, so a text is spelled in one way only. How many
digits the integers of a text may have is a parameter: the language itself knows no bound, and what
can be read has one. -/

namespace TaskSieve.Filter.Grammar

open Lexeme (isBare isLetter isNameChar startsName unescape)

/-! ## Runs of characters -/

/-- A gap between two tokens, which may be empty. -/
def Gap (g : List Char) : Prop := ∀ c ∈ g, isGap c = true

/-- A maximal run of a class of characters before `rest`. -/
structure Run (p : Char → Bool) (run rest : List Char) : Prop where
  ne_nil : run ≠ []
  all : ∀ c ∈ run, p c = true
  maximal : ∀ c ∈ rest.head?, p c = false

/-- A maximal run of letters that spells a word in any letter case. -/
structure Word (word : String) (run rest : List Char) : Prop extends Run isLetter run rest where
  spells : run.map Char.toLower = word.toList

/-! ## Fields and operators -/

/-- A name means a field in any letter case: by the name in filters or by the key in payloads. -/
def Names (name : List Char) (f : Field) : Prop :=
  name.map Char.toLower = f.name.toList.map Char.toLower ∨ name.map Char.toLower = f.taskKey.toList

/-- An operator is a run of symbols, or a word; the one of two words has a gap between them. -/
inductive OperatorText : Operator → List Char → List Char → Prop
  | symbols {op : Operator} {rest : List Char} (known : op ∈ Operator.symbolic)
      (run : Run isSymbol op.text.toList rest) : OperatorText op (op.text.toList ++ rest) rest
  | like {run rest : List Char} (word : Word "like" run rest) :
      OperatorText .like (run ++ rest) rest
  | isIn {run rest : List Char} (word : Word "in" run rest) :
      OperatorText .isIn (run ++ rest) rest
  | notIn {no g run rest : List Char} (first : Word "not" no (g ++ (run ++ rest))) (between : Gap g)
      (second : Word "in" run rest) : OperatorText .notIn (no ++ (g ++ (run ++ rest))) rest

/-! ## Values -/

/-- The characters between two quotes and the text that they stand for: a backslash takes the next
character with it, and any other character but the quote stands for itself. -/
inductive QuotedText (quote : Char) : List Char → List Char → Prop
  | nil : QuotedText quote [] []
  | plain {c : Char} {body s : List Char} (open_ : c ≠ quote) (bare : c ≠ '\\')
      (tail : QuotedText quote body s) : QuotedText quote (c :: body) (c :: s)
  | escaped {c : Char} {body s : List Char} (tail : QuotedText quote body s) :
      QuotedText quote ('\\' :: c :: body) (unescape c :: s)

/-- The text of a value has as many digits as the text of an integer may have, if it is an
integer. -/
def DigitsFit (fits : Nat → Prop) (raw : List Char) (v : Scalar) : Prop :=
  ∀ n, v = .int n → fits (raw.countP Text.isDigit)

section Spelling

-- how many digits the text of an integer may have
variable (fits : Nat → Prop)

/-- A single value: a closed quoted literal, which is a text, or a maximal run of bare characters,
which is typed by its shape. -/
inductive ItemText : Scalar → List Char → List Char → Prop
  | quoted {quote : Char} {body s rest : List Char} (mark : isQuote quote = true)
      (inside : QuotedText quote body s) :
      ItemText (.text (String.ofList s)) (quote :: (body ++ quote :: rest)) rest
  | bare {raw rest : List Char} (run : Run isBare raw rest)
      (digits : DigitsFit fits raw (.ofBare raw)) : ItemText (.ofBare raw) (raw ++ rest) rest

/-- The values of a list behind its opening parenthesis: at least one, with commas between them and
a closing parenthesis behind the last. -/
inductive ItemsText : List Scalar → List Char → List Char → Prop
  | last {v : Scalar} {g₁ g₂ t rest : List Char} (before : Gap g₁)
      (item : ItemText fits v t (g₂ ++ ')' :: rest)) (behind : Gap g₂) :
      ItemsText [v] (g₁ ++ t) rest
  | more {v : Scalar} {vs : List Scalar} {g₁ g₂ t later rest : List Char} (before : Gap g₁)
      (item : ItemText fits v t (g₂ ++ ',' :: later)) (behind : Gap g₂)
      (items : ItemsText vs later rest) : ItemsText (v :: vs) (g₁ ++ t) rest

/-- A single value or a list of values in parentheses. -/
inductive LiteralText : Literal → List Char → List Char → Prop
  | one {v : Scalar} {t rest : List Char} (item : ItemText fits v t rest) :
      LiteralText (.one v) t rest
  | many {vs : List Scalar} {t rest : List Char} (items : ItemsText fits vs t rest) :
      LiteralText (.many vs) ('(' :: t) rest

/-! ## Conditions and chains -/

/-- A condition: the name of a field, which starts with a letter or an underscore and is as long as
it can be, then an operator, then a value. -/
inductive ConditionText : Condition → List Char → List Char → Prop
  | mk {f : Field} {op : Operator} {v : Literal} {name g₁ g₂ t₁ t₂ rest : List Char}
      (starts : ∀ c ∈ name.head?, startsName c = true) (run : Run isNameChar name (g₁ ++ t₁))
      (names : Names name f) (gap₁ : Gap g₁) (operator : OperatorText op t₁ (g₂ ++ t₂))
      (gap₂ : Gap g₂) (value : LiteralText fits v t₂ rest) :
      ConditionText ⟨f, op, v⟩ (name ++ (g₁ ++ t₁)) rest

/-- Further conditions up to the end of the text, each behind its combinator. -/
inductive ChainText : List (Combinator × Condition) → List Char → Prop
  | done {g : List Char} (gap : Gap g) : ChainText [] g
  | next {k : Combinator} {c : Condition} {steps : List (Combinator × Condition)}
      {g₁ g₂ t rest : List Char} (gap₁ : Gap g₁) (gap₂ : Gap g₂)
      (condition : ConditionText fits c t rest) (chain : ChainText steps rest) :
      ChainText ((k, c) :: steps) (g₁ ++ (k.text.toList ++ (g₂ ++ t)))

/-- A whole filter: a first condition and the conditions that are joined to it. -/
inductive FilterText (first : Condition) (steps : List (Combinator × Condition)) : List Char → Prop
  | mk {g t rest : List Char} (gap : Gap g) (condition : ConditionText fits first t rest)
      (chain : ChainText fits steps rest) : FilterText first steps (g ++ t)

end Spelling

/-- The text is a filter of the language. -/
abbrev Spelled (first : Condition) (steps : List (Combinator × Condition)) : List Char → Prop :=
  FilterText (fun _ => True) first steps

/-- The text is a filter of the language, and its integers have few enough digits to be read. -/
abbrev Readable (first : Condition) (steps : List (Combinator × Condition)) : List Char → Prop :=
  FilterText (· ≤ digitLimit) first steps

/-! ## Maximal runs and reading -/

/-- Taking characters of a class takes a maximal run, and dropping them leaves what follows. -/
theorem Run.takeWhile {p : Char → Bool} {run rest : List Char} (h : Run p run rest) :
    (run ++ rest).takeWhile p = run := by
  have stop : rest.takeWhile p = [] := by
    cases rest with
    | nil => rfl
    | cons c rest => simp [h.maximal c rfl]
  rw [List.takeWhile_append_of_pos h.all, stop, List.append_nil]

theorem Run.dropWhile {p : Char → Bool} {run rest : List Char} (h : Run p run rest) :
    (run ++ rest).dropWhile p = rest := by
  rw [List.dropWhile_append_of_pos h.all]
  cases rest with
  | nil => rfl
  | cons c rest => simp [h.maximal c rfl]

/-- What is taken and what is left is a maximal run, if anything is taken at all. -/
theorem run_takeWhile {p : Char → Bool} {c : Char} (rest : List Char) (hc : p c = true) :
    Run p ((c :: rest).takeWhile p) ((c :: rest).dropWhile p) where
  ne_nil := by simp [hc]
  all := fun d hd => (List.all_eq_true.1 (List.all_takeWhile (l := c :: rest))) d hd
  maximal := fun d hd => by
    have := List.head?_dropWhile_not p (c :: rest)
    rw [Option.mem_def.1 hd] at this
    simpa using this

theorem Run.first {p : Char → Bool} {c : Char} {run rest tail : List Char} (h : Run p run rest)
    (hcons : run ++ rest = c :: tail) : p c = true := by
  obtain ⟨d, ds, rfl⟩ := List.exists_cons_of_ne_nil h.ne_nil
  obtain ⟨rfl, -⟩ := List.cons.inj hcons
  exact h.all d List.mem_cons_self

theorem gap_nil : Gap [] := fun _ h => absurd h List.not_mem_nil

theorem gap_blank : Gap [' '] := fun c hc => by
  obtain rfl := List.mem_singleton.1 hc
  rfl

/-- A gap is dropped as a whole before a character that belongs to no gap. -/
theorem Gap.dropWhile {g rest : List Char} {c : Char} (h : Gap g) (hc : isGap c = false) :
    (g ++ c :: rest).dropWhile isGap = c :: rest := by
  rw [List.dropWhile_append_of_pos h]
  simp [hc]

theorem gap_takeWhile (cs : List Char) : Gap (cs.takeWhile isGap) :=
  fun c hc => (List.all_eq_true.1 List.all_takeWhile) c hc

end TaskSieve.Filter.Grammar
