import TaskSieve.Filter.Token
import TaskSieve.Text.Blank

set_option autoImplicit false

/-! # Reading filter expressions

A filter is a chain of conditions joined from left to right by combinators; parentheses only
enclose the list values of a condition. Reading gives the whole expression or the first fault: a
token in a wrong place counts before a token further right that is none. An integer of too many
digits counts before every token in a wrong place, since it is converted as soon as it is found. -/

namespace TaskSieve.Filter

/-- The fault of a token that the grammar does not allow, or of the end of the text at `stop`. -/
def unexpected {α : Type} (stop : Nat) (ts : List Token) (wanted : Wanted) : Except ParseError α :=
  match ts with
  | [] => .error ⟨.unexpected "" wanted, stop⟩
  | t :: _ => .error ⟨.unexpected t.lexeme.text wanted, t.position⟩

namespace Literal

/-- Reads the items of a list up to its closing parenthesis. -/
def itemsOfTokens (stop : Nat) : List Token → Except ParseError (List Scalar × List Token)
  | ⟨.value _ v, _⟩ :: ⟨.comma, _⟩ :: rest => do
    let (vs, rest) ← itemsOfTokens stop rest
    .ok (v :: vs, rest)
  | ⟨.value _ v, _⟩ :: ⟨.closing, _⟩ :: rest => .ok ([v], rest)
  | ⟨.value _ _, _⟩ :: rest => unexpected stop rest .listEnd
  | ts => unexpected stop ts .item

/-- Reads a value or a list of values. -/
def ofTokens (stop : Nat) : List Token → Except ParseError (Literal × List Token)
  | ⟨.opening, _⟩ :: rest => do
    let (vs, rest) ← itemsOfTokens stop rest
    .ok (.many vs, rest)
  | ⟨.value _ v, _⟩ :: rest => .ok (.one v, rest)
  | ts => unexpected stop ts .value

end Literal

namespace Condition

/-- Reads a field, an operator and a value. -/
def ofTokens (stop : Nat) : List Token → Except ParseError (Condition × List Token)
  | ⟨.word name, position⟩ :: rest =>
    match Field.resolve? name.toList with
    | none => .error ⟨.unknownField name, position⟩
    | some field =>
      match rest with
      | ⟨.operator op, _⟩ :: rest => do
        let (value, rest) ← Literal.ofTokens stop rest
        .ok (⟨field, op, value⟩, rest)
      | ts => unexpected stop ts .operator
  | ts => unexpected stop ts .field

end Condition

/-! ## Every part takes a token -/

theorem length_itemsOfTokens {stop : Nat} {ts rest : List Token} {vs : List Scalar}
    (h : Literal.itemsOfTokens stop ts = .ok (vs, rest)) : rest.length < ts.length := by
  fun_induction Literal.itemsOfTokens stop ts generalizing vs rest with
  | case1 s v p p' ts ih =>
    cases hr : Literal.itemsOfTokens stop ts with
    | error e => simp [hr, bind, Except.bind] at h
    | ok r =>
      obtain ⟨vs', rest'⟩ := r
      simp only [hr, bind, Except.bind, Except.ok.injEq, Prod.mk.injEq] at h
      have := ih hr
      simp only [List.length_cons, ← h.2]
      omega
  | case2 s v p p' ts =>
    simp only [Except.ok.injEq, Prod.mk.injEq] at h
    simp only [List.length_cons, ← h.2]
    omega
  | case3 s v p ts _ _ => cases ts <;> simp [unexpected] at h
  | case4 ts _ _ _ => cases ts <;> simp [unexpected] at h

theorem length_literalOfTokens {stop : Nat} {ts rest : List Token} {v : Literal}
    (h : Literal.ofTokens stop ts = .ok (v, rest)) : rest.length < ts.length := by
  unfold Literal.ofTokens at h
  split at h
  · next p ts =>
    cases hr : Literal.itemsOfTokens stop ts with
    | error e => simp [hr, bind, Except.bind] at h
    | ok r =>
      obtain ⟨vs', rest'⟩ := r
      simp only [hr, bind, Except.bind, Except.ok.injEq, Prod.mk.injEq] at h
      have := length_itemsOfTokens hr
      simp only [List.length_cons, ← h.2]
      omega
  · simp only [Except.ok.injEq, Prod.mk.injEq] at h
    simp only [List.length_cons, ← h.2]
    omega
  · cases ts <;> simp [unexpected] at h

theorem length_conditionOfTokens {stop : Nat} {ts rest : List Token} {c : Condition}
    (h : Condition.ofTokens stop ts = .ok (c, rest)) : rest.length < ts.length := by
  unfold Condition.ofTokens at h
  split at h
  · next name position ts =>
    split at h
    · simp at h
    · next field _ =>
      split at h
      · next op p ts =>
        cases hr : Literal.ofTokens stop ts with
        | error e => simp [hr, bind, Except.bind] at h
        | ok r =>
          obtain ⟨v, rest'⟩ := r
          simp only [hr, bind, Except.bind, Except.ok.injEq, Prod.mk.injEq] at h
          have := length_literalOfTokens hr
          simp only [List.length_cons, ← h.2]
          omega
      · cases ts <;> simp [unexpected] at h
  · cases ts <;> simp [unexpected] at h

namespace Expr

/-! ## Expressions -/

/-- Joins the conditions that follow an expression. -/
def chainOfTokens (stop : Nat) (left : Expr) (ts : List Token) : Except ParseError Expr :=
  match ts with
  | [] => .ok left
  | ⟨.combinator c, _⟩ :: rest =>
    match _h : Condition.ofTokens stop rest with
    | .error e => .error e
    | .ok (condition, rest') => chainOfTokens stop (.node c left (.leaf condition)) rest'
  | ts => unexpected stop ts .ending
termination_by ts.length
decreasing_by
  have := length_conditionOfTokens _h
  simp only [List.length_cons]
  omega

/-- The expression that tokens write; the text ends at `stop`. -/
def ofTokens (stop : Nat) (ts : List Token) : Except ParseError Expr :=
  match ts with
  | [] => .error ⟨.empty, 0⟩
  | ts => do
    let (condition, rest) ← Condition.ofTokens stop ts
    chainOfTokens stop (.leaf condition) rest

/-- The expression that a scan gives. If scanning failed, a token before that place that the
grammar does not allow is reported instead. -/
def ofScan (s : Scan) : Except ParseError Expr :=
  match s.fault with
  | none => ofTokens s.stop s.tokens
  | some fault =>
    if s.tokens.isEmpty then .error ⟨fault, s.stop⟩
    else match ofTokens s.stop s.tokens with
      | .error e => .error (if e.position < s.stop then e else ⟨fault, s.stop⟩)
      | .ok _ => .error ⟨fault, s.stop⟩

/-- The expression that a text writes, if its integers can be read. -/
def ofText (cs : List Char) : Except ParseError Expr :=
  if (Text.trim cs).isEmpty then .error ⟨.empty, 0⟩ else ofScan (.ofText cs)

end Expr

/-- Why a filter text cannot be read. -/
inductive ReadError where
  /-- The text is none of the language. -/
  | malformed (error : ParseError)
  /-- An integer in the text has too many digits. -/
  | overlong (found : Overlong)
deriving DecidableEq, Repr

/-- Reads the expression that a string writes. -/
def Expr.read (s : String) : Except ReadError Expr :=
  match (Scan.ofText s.toList).overlong? with
  | some o => .error (.overlong o)
  | none => (Expr.ofText s.toList).mapError .malformed

end TaskSieve.Filter
