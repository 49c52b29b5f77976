import TaskSieve.Proofs.Filter.Cutting
import TaskSieve.Proofs.Filter.Reading

set_option autoImplicit false

/-! # Where the mistake is

A text that is no filter is refused at a place. The place is exact up to the mistake: what stands
before it can still be continued to a filter. So the reader of tokens and the readers of expressions
may fail both, but what is reported is what comes first; and a token that cannot be read is reported
exactly if nothing is wrong with the tokens before it. -/

namespace TaskSieve.Filter

open Grammar

/-! ## Filters as lexemes -/

/-- The lexemes of a whole filter. -/
def FilterLexemes (ls : List Lexeme) : Prop :=
  ∃ first steps ls₁ ls₂, ConditionLexemes first ls₁ ∧ ChainLexemes steps ls₂ ∧ ls = ls₁ ++ ls₂

/-- A text is accepted exactly if it splits into the lexemes of a filter, none of which has too many
digits. -/
theorem exists_read_eq_ok_iff {cs : List Char} :
    (∃ e, Expr.read (String.ofList cs) = .ok e) ↔
      ∃ ls, FilterLexemes ls ∧ AllFit (· ≤ digitLimit) ls ∧ Lexes .general cs ls := by
  simp only [read_eq_ok_iff, Readable, filterText_iff, String.toList_ofList]
  constructor
  · rintro ⟨e, first, steps, ⟨ls₁, ls₂, condition, chain, digits, lexes⟩, rfl⟩
    exact ⟨_, ⟨first, steps, ls₁, ls₂, condition, chain, rfl⟩, digits, lexes⟩
  · rintro ⟨_, ⟨first, steps, ls₁, ls₂, condition, chain, rfl⟩, digits, lexes⟩
    exact ⟨_, first, steps, ⟨ls₁, ls₂, condition, chain, digits, lexes⟩, rfl⟩

theorem exists_ofTokens_eq_ok_iff {stop : Nat} {ts : List Token} :
    (∃ e, Expr.ofTokens stop ts = .ok e) ↔ FilterLexemes (ts.map Token.lexeme) := by
  simp only [ofTokens_eq_ok_iff]
  constructor
  · rintro ⟨e, first, steps, ls₁, ls₂, condition, chain, hls, -⟩
    exact ⟨first, steps, ls₁, ls₂, condition, chain, hls⟩
  · rintro ⟨first, steps, ls₁, ls₂, condition, chain, hls⟩
    exact ⟨_, first, steps, ls₁, ls₂, condition, chain, hls, rfl⟩

/-! ## What a part leaves -/

theorem ItemsLexemes.modeAfter_eq {vs : List Scalar} {ls : List Lexeme} (h : ItemsLexemes vs ls)
    (mode : Mode) : modeAfter mode ls = .general := by
  induction h generalizing mode with
  | last => rfl
  | more _ ih => exact ih _

theorem LiteralLexemes.modeAfter_eq {v : Literal} {ls : List Lexeme} (h : LiteralLexemes v ls)
    (mode : Mode) : modeAfter mode ls = .general := by
  cases h with
  | one => rfl
  | many items => exact items.modeAfter_eq _

theorem ConditionLexemes.modeAfter_eq {c : Condition} {ls : List Lexeme}
    (h : ConditionLexemes c ls) (mode : Mode) : modeAfter mode ls = .general := by
  cases h with
  | mk known value => exact value.modeAfter_eq _

theorem ChainLexemes.modeAfter_eq {steps : List (Combinator × Condition)} {ls : List Lexeme}
    (h : ChainLexemes steps ls) : modeAfter .general ls = .general := by
  induction h with
  | done => rfl
  | next condition _ ih =>
    show modeAfter _ (_ ++ _) = _
    rw [modeAfter_append, condition.modeAfter_eq, ih]

/-! ## Continuations -/

/-- A text splits into tokens, none of which has too many digits. -/
structure ReadsAs (mode : Mode) (cs : List Char) (ls : List Lexeme) : Prop where
  digits : AllFit (· ≤ digitLimit) ls
  lexes : Lexes mode cs ls

/-- Some lexemes, read in a mode from the first on, are the start of a part of a filter: a text that
starts with a blank continues them. -/
def Continues (Spelled : List Lexeme → Prop) (mode : Mode) (ls : List Lexeme) : Prop :=
  ∃ more z, Spelled (ls ++ more) ∧ ReadsAs (modeAfter mode ls) (' ' :: z) more

theorem reads_blank : ReadsAs .general [' '] [] := ⟨allFit_nil, .done gap_blank⟩

theorem reads_after_blank {mode : Mode} {c : Char} {rest r : List Char} {l : Lexeme}
    {ls : List Lexeme} (hc : isGap c = false) (read : Lexeme.read mode c rest = .ok (l, r))
    (short : l.overlong? = none) (later : ReadsAs l.next r ls) :
    ReadsAs mode (' ' :: c :: rest) (l :: ls) where
  digits := allFit_cons_iff.2 ⟨Lexeme.overlong?_eq_none_iff.1 short, later.digits⟩
  lexes := .token gap_blank hc read later.lexes

theorem reads_nil : ReadsAs .general [] [] := ⟨allFit_nil, .done gap_nil⟩

/-- A single value. -/
theorem reads_true : ReadsAs .value " true".toList [.value "true" (.bool true)] :=
  reads_after_blank (r := []) (by decide) (by decide) rfl reads_nil

theorem reads_eq_true :
    ReadsAs .operator " = true".toList [.operator .eq, .value "true" (.bool true)] :=
  reads_after_blank (by decide) (by decide) rfl reads_true

theorem reads_done_eq_true : ReadsAs .general " done = true".toList
    [.word "done", .operator .eq, .value "true" (.bool true)] :=
  reads_after_blank (by decide) (by decide) rfl reads_eq_true

theorem reads_closing : ReadsAs .general " )".toList [.closing] :=
  reads_after_blank (r := []) (by decide) (by decide) rfl reads_nil

theorem reads_item : ReadsAs .value " 1 )".toList [.value "1" (.int 1), .closing] :=
  reads_after_blank (by decide) (by decide) (by decide) reads_closing

/-! ## Where the readers of tokens break off -/

/-- A reader fails on tokens at the start of some of them, which are left: those before it are the
start of a part of a filter. If any are left then more tokens behind them do not help. -/
def BreaksOff {α : Type} (Spelled : List Lexeme → Prop) (mode : Mode)
    (reader : Nat → List Token → Except ParseError α) (stop : Nat) (ts : List Token)
    (e : ParseError) : Prop :=
  ∃ front left, ts = front ++ left ∧ e.position = startOf stop left ∧
    Continues Spelled mode (front.map Token.lexeme) ∧
    (left ≠ [] → ∀ stop' more, ∃ e', reader stop' (ts ++ more) = .error e')

theorem position_of_unexpected {α : Type} {stop : Nat} {ts : List Token} {wanted : Wanted}
    {e : ParseError} (h : unexpected (α := α) stop ts wanted = .error e) :
    e.position = startOf stop ts := by
  cases ts with
  | nil => rw [← Except.error.inj h]; rfl
  | cons t ts => rw [← Except.error.inj h]; rfl

theorem exists_unexpected_eq (α : Type) (stop : Nat) (ts : List Token) (wanted : Wanted) :
    ∃ e, unexpected (α := α) stop ts wanted = .error e := by
  cases ts with
  | nil => exact ⟨_, rfl⟩
  | cons t ts => exact ⟨_, rfl⟩

/-- A part of a filter breaks off where a part within it does. -/
theorem BreaksOff.behind {α β : Type} {Inner Spelled : List Lexeme → Prop} {mode : Mode}
    {inner : Nat → List Token → Except ParseError α}
    {reader : Nat → List Token → Except ParseError β} {stop : Nat} {ts : List Token}
    {e : ParseError} (first : List Token)
    (h : BreaksOff Inner (modeAfter mode (first.map Token.lexeme)) inner stop ts e)
    (spells : ∀ ls, Inner ls → Spelled (first.map Token.lexeme ++ ls))
    (fails : ∀ stop ts e, inner stop ts = .error e → ∃ e', reader stop (first ++ ts) = .error e') :
    BreaksOff Spelled mode reader stop (first ++ ts) e := by
  obtain ⟨front, left, rfl, hposition, ⟨more, z, spelled, reads⟩, persists⟩ := h
  refine ⟨first ++ front, left, (List.append_assoc _ _ _).symm, hposition, ⟨more, z, ?_, ?_⟩, ?_⟩
  · rw [List.map_append, List.append_assoc]
    exact spells _ spelled
  · rw [List.map_append, modeAfter_append]
    exact reads
  · intro hleft stop' more'
    obtain ⟨e', he'⟩ := persists hleft stop' more'
    rw [List.append_assoc]
    exact fails _ _ _ he'

namespace Literal

theorem itemsOfTokens_breaksOff {stop : Nat} {ts : List Token} {e : ParseError}
    (h : itemsOfTokens stop ts = .error e) :
    BreaksOff (fun ls => ∃ vs, ItemsLexemes vs ls) .value itemsOfTokens stop ts e := by
  fun_induction itemsOfTokens stop ts with
  | case1 s v p p' ts ih =>
    rcases bind_eq_error_iff.1 h with h | ⟨a, -, h⟩
    · refine (ih h).behind [⟨.value s v, p⟩, ⟨.comma, p'⟩] ?_ ?_
      · rintro ls ⟨vs, items⟩
        exact ⟨v :: vs, .more items⟩
      · intro stop ts e h
        exact ⟨e, bind_eq_error_iff.2 (.inl h)⟩
    · exact absurd h (by simp)
  | case2 s v p p' ts => exact absurd h (by simp)
  | case3 s v p ts hcomma hclosing =>
    refine ⟨[⟨.value s v, p⟩], ts, rfl, position_of_unexpected h,
      ⟨[.closing], [')'], ⟨[v], .last⟩, reads_closing⟩, fun hts stop' more => ?_⟩
    obtain ⟨t, ts, rfl⟩ := List.exists_cons_of_ne_nil hts
    rw [List.cons_append, itemsOfTokens.eq_3]
    · exact exists_unexpected_eq _ _ _ _
    · rintro p' rest heq
      exact hcomma p' ts (by rw [(List.cons.inj heq).1])
    · rintro p' rest heq
      exact hclosing p' ts (by rw [(List.cons.inj heq).1])
  | case4 ts hcomma hclosing hvalue =>
    refine ⟨[], ts, rfl, position_of_unexpected h,
      ⟨[.value "1" (.int 1), .closing], "1 )".toList, ⟨[.int 1], .last⟩, reads_item⟩,
      fun hts stop' more => ?_⟩
    obtain ⟨t, ts, rfl⟩ := List.exists_cons_of_ne_nil hts
    have first : ∀ s v p rest, t :: (ts ++ more) = ⟨.value s v, p⟩ :: rest → False :=
      fun s v p rest heq => hvalue s v p ts (by rw [(List.cons.inj heq).1])
    rw [List.cons_append, itemsOfTokens.eq_4 _ _ (fun s v p _ _ => first s v p _)
      (fun s v p _ _ => first s v p _) first]
    exact exists_unexpected_eq _ _ _ _

theorem ofTokens_breaksOff {stop : Nat} {ts : List Token} {e : ParseError}
    (h : ofTokens stop ts = .error e) :
    BreaksOff (fun ls => ∃ v, LiteralLexemes v ls) .value ofTokens stop ts e := by
  unfold ofTokens at h
  split at h
  · next p ts =>
    rcases bind_eq_error_iff.1 h with h | ⟨a, -, h⟩
    · refine (itemsOfTokens_breaksOff h).behind [⟨.opening, p⟩] ?_ ?_
      · rintro ls ⟨vs, items⟩
        exact ⟨.many vs, .many items⟩
      · intro stop ts e h
        exact ⟨e, bind_eq_error_iff.2 (.inl h)⟩
    · exact absurd h (by simp)
  · exact absurd h (by simp)
  · next hopening hvalue =>
    refine ⟨[], ts, rfl, position_of_unexpected h,
      ⟨[.value "true" (.bool true)], "true".toList, ⟨.one (.bool true), .one⟩, reads_true⟩,
      fun hts stop' more => ?_⟩
    obtain ⟨t, ts, rfl⟩ := List.exists_cons_of_ne_nil hts
    rw [List.cons_append, ofTokens.eq_3]
    · exact exists_unexpected_eq _ _ _ _
    · rintro p rest heq
      exact hopening p ts (by rw [(List.cons.inj heq).1])
    · rintro s v p rest heq
      exact hvalue s v p ts (by rw [(List.cons.inj heq).1])

end Literal

/-- The lexemes of a condition that tells tasks by whether they are done. -/
theorem conditionLexemes_done : ConditionLexemes ⟨.done, .eq, .one (.bool true)⟩
    [.word "done", .operator .eq, .value "true" (.bool true)] :=
  .mk (by decide) .one

theorem Condition.ofTokens_breaksOff {stop : Nat} {ts : List Token} {e : ParseError}
    (h : ofTokens stop ts = .error e) :
    BreaksOff (fun ls => ∃ c, ConditionLexemes c ls) .general ofTokens stop ts e := by
  unfold ofTokens at h
  split at h
  · next name p ts =>
    split at h
    · next unknown =>
      refine ⟨[], _, rfl, (congrArg ParseError.position (Except.error.inj h)).symm,
        ⟨_, _, ⟨_, conditionLexemes_done⟩, reads_done_eq_true⟩, fun _ stop' more => ?_⟩
      simp only [List.cons_append, ofTokens, unknown]
      exact ⟨_, rfl⟩
    · next field known =>
      split at h
      · next op p' ts =>
        rcases bind_eq_error_iff.1 h with h | ⟨a, -, h⟩
        · refine (Literal.ofTokens_breaksOff h).behind
            [⟨.word name, p⟩, ⟨.operator op, p'⟩] ?_ ?_
          · rintro ls ⟨v, value⟩
            exact ⟨_, .mk known value⟩
          · intro stop ts e h
            refine ⟨e, ?_⟩
            simp only [List.cons_append, List.nil_append, ofTokens, known]
            exact bind_eq_error_iff.2 (.inl h)
        · exact absurd h (by simp)
      · next hoperator =>
        refine ⟨[⟨.word name, p⟩], ts, rfl, position_of_unexpected h,
          ⟨_, _, ⟨_, .mk known .one⟩, reads_eq_true⟩, fun hts stop' more => ?_⟩
        obtain ⟨t, ts, rfl⟩ := List.exists_cons_of_ne_nil hts
        simp only [List.cons_append, ofTokens, known]
        split
        · next heq => exact absurd (List.cons.inj heq).1 fun ht => hoperator _ _ _ (by rw [ht])
        · exact exists_unexpected_eq _ _ _ _
  · next hword =>
    refine ⟨[], ts, rfl, position_of_unexpected h,
      ⟨_, _, ⟨_, conditionLexemes_done⟩, reads_done_eq_true⟩, fun hts stop' more => ?_⟩
    obtain ⟨t, ts, rfl⟩ := List.exists_cons_of_ne_nil hts
    rw [List.cons_append, ofTokens.eq_2]
    · exact exists_unexpected_eq _ _ _ _
    · rintro name p rest heq
      exact hword name p ts (by rw [(List.cons.inj heq).1])

namespace Expr

theorem chainOfTokens_breaksOff {stop : Nat} {left : Expr} {ts : List Token} {e : ParseError}
    (h : chainOfTokens stop left ts = .error e) :
    BreaksOff (fun ls => ∃ steps, ChainLexemes steps ls) .general
      (fun stop => chainOfTokens stop left) stop ts e := by
  fun_induction chainOfTokens stop left ts with
  | case1 left => exact absurd h (by simp)
  | case2 left k p ts e' hcondition =>
    obtain rfl := Except.error.inj h
    refine (Condition.ofTokens_breaksOff hcondition).behind [⟨.combinator k, p⟩] ?_ ?_
    · rintro ls ⟨c, condition⟩
      refine ⟨[(k, c)], ?_⟩
      simpa using ChainLexemes.next (k := k) condition .done
    · exact fun stop ts e h => ⟨e, chainOfTokens_eq_error h⟩
  | case3 left k p ts c rest hcondition ih =>
    obtain ⟨front, condition, rfl⟩ := conditionOfTokens_eq_ok_iff.1 hcondition
    have hmode : modeAfter .general ((⟨.combinator k, p⟩ :: front).map Token.lexeme) = .general :=
      condition.modeAfter_eq .general
    refine (hmode.symm ▸ ih h).behind (⟨.combinator k, p⟩ :: front) ?_ ?_
    · rintro ls ⟨steps, chain⟩
      exact ⟨(k, c) :: steps, .next condition chain⟩
    · intro stop ts e h
      refine ⟨e, ?_⟩
      rw [List.cons_append,
        chainOfTokens_of_condition (conditionOfTokens_eq_ok_iff.2 ⟨front, condition, rfl⟩)]
      exact h
  | case4 left ts hnil hcombinator =>
    refine ⟨[], ts, rfl, position_of_unexpected h, ⟨[], [], ⟨[], .done⟩, reads_blank⟩,
      fun hts stop' more => ?_⟩
    obtain ⟨t, ts, rfl⟩ := List.exists_cons_of_ne_nil hts
    dsimp only
    rw [List.cons_append, chainOfTokens.eq_3]
    · exact exists_unexpected_eq _ _ _ _
    · exact fun heq => absurd heq (by simp)
    · rintro k p rest heq
      exact hcombinator k p ts (by rw [(List.cons.inj heq).1])

theorem exists_ofTokens_eq_error {stop : Nat} {ts : List Token} {e : ParseError}
    (h : Condition.ofTokens stop ts = .error e) : ∃ e', ofTokens stop ts = .error e' := by
  cases ts with
  | nil => exact ⟨_, rfl⟩
  | cons t ts => exact ⟨e, bind_eq_error_iff.2 (.inl h)⟩

theorem ofTokens_breaksOff {stop : Nat} {ts : List Token} {e : ParseError} (hts : ts ≠ [])
    (h : ofTokens stop ts = .error e) : BreaksOff FilterLexemes .general ofTokens stop ts e := by
  cases hcondition : Condition.ofTokens stop ts with
  | error e' =>
    obtain ⟨t, ts, rfl⟩ := List.exists_cons_of_ne_nil hts
    simp only [ofTokens, hcondition, bind, Except.bind] at h
    obtain rfl := Except.error.inj h
    refine (Condition.ofTokens_breaksOff hcondition).behind [] ?_ ?_
    · rintro ls ⟨c, condition⟩
      exact ⟨c, [], ls, [], condition, .done, (List.append_nil ls).symm⟩
    · exact fun stop ts e h => exists_ofTokens_eq_error h
  | ok r =>
    obtain ⟨c, rest⟩ := r
    rw [ofTokens_eq hcondition] at h
    obtain ⟨front, condition, rfl⟩ := conditionOfTokens_eq_ok_iff.1 hcondition
    have hmode := condition.modeAfter_eq .general
    refine (hmode.symm ▸ chainOfTokens_breaksOff h).behind front ?_ ?_
    · rintro ls ⟨steps, chain⟩
      exact ⟨c, steps, _, ls, condition, chain, rfl⟩
    · intro stop ts e h
      rw [ofTokens_eq (conditionOfTokens_eq_ok_iff.2 ⟨front, condition, rfl⟩)]
      exact ⟨e, h⟩

end Expr

theorem continues_nil : Continues FilterLexemes .general [] :=
  ⟨_, _, ⟨_, [], _, [], conditionLexemes_done, .done, rfl⟩, reads_done_eq_true⟩

/-- A whole filter is the start of one. -/
theorem FilterLexemes.continues {ls : List Lexeme} (h : FilterLexemes ls) :
    Continues FilterLexemes .general ls := by
  have hmode : modeAfter .general ls = .general := by
    obtain ⟨first, steps, ls₁, ls₂, condition, chain, rfl⟩ := h
    rw [modeAfter_append, condition.modeAfter_eq, chain.modeAfter_eq]
  refine ⟨[], [], by rwa [List.append_nil], ?_⟩
  rw [hmode]
  exact reads_blank

/-! ## Viable texts -/

/-- A text that can be continued to a filter. -/
def Viable (cs : List Char) : Prop := ∃ c e, Expr.read (String.ofList (cs ++ c)) = .ok e

theorem Viable.of_append {cs c : List Char} (h : Viable (cs ++ c)) : Viable cs := by
  obtain ⟨c', e, h⟩ := h
  exact ⟨c ++ c', e, by rwa [← List.append_assoc]⟩

namespace Scan

/-- Where the tokens before a place are the start of a filter, the text before it and a blank are
viable, and only there. -/
theorem viable_take_iff {cs : List Char} {front left : List Token}
    (short : (ofText cs).overlong? = none) (h : (ofText cs).tokens = front ++ left) :
    startOf (ofText cs).stop left ≤ cs.length ∧
      (Viable (cs.take (startOf (ofText cs).stop left) ++ [' ']) ↔
        Continues FilterLexemes .general (front.map Token.lexeme)) := by
  have before_short : AllFit (· ≤ digitLimit) (front.map Token.lexeme) := by
    rw [overlong?_eq_none_iff, h, List.map_append] at short
    exact (allFit_append_iff.1 short).1
  obtain ⟨before, after, rfl, hstart, same⟩ := exists_cut h
  have hlength : startOf (ofText (before ++ after)).stop left = before.length := by
    rw [ofText, hstart, List.length_append, Nat.add_sub_cancel]
  rw [hlength, List.take_left]
  refine ⟨by rw [List.length_append]; exact Nat.le_add_right _ _, ?_⟩
  constructor
  · rintro ⟨z, accepted⟩
    rw [List.append_assoc] at accepted
    obtain ⟨ls, filter, digits, lexes⟩ := exists_read_eq_ok_iff.1 accepted
    obtain ⟨more, rfl, later⟩ := (same z ls).1 lexes
    exact ⟨more, z, filter, (allFit_append_iff.1 digits).2, later⟩
  · rintro ⟨more, z, filter, digits, later⟩
    refine ⟨z, ?_⟩
    rw [List.append_assoc]
    exact exists_read_eq_ok_iff.2 ⟨_, filter, allFit_append_iff.2 ⟨before_short, digits⟩,
      (same z _).2 ⟨more, rfl, later⟩⟩

/-- Where the reader of tokens breaks off, a text is viable. All its tokens are the start of a
filter only if it breaks off behind the last of them. -/
theorem viable_of_breaksOff {cs : List Char} {e : ParseError}
    (short : (ofText cs).overlong? = none)
    (h : BreaksOff FilterLexemes .general Expr.ofTokens (ofText cs).stop (ofText cs).tokens e) :
    e.position ≤ cs.length ∧ Viable (cs.take e.position) ∧
      (e.position < (ofText cs).stop ↔ ¬ Viable (cs.take (ofText cs).stop ++ [' '])) := by
  obtain ⟨front, left, htokens, hposition, continues, persists⟩ := h
  obtain ⟨hle, before⟩ := viable_take_iff short htokens
  rw [← hposition] at hle before
  obtain ⟨-, whole⟩ := viable_take_iff short (List.append_nil (ofText cs).tokens).symm
  refine ⟨hle, (before.2 continues).of_append, ?_⟩
  cases left with
  | nil =>
    rw [List.append_nil] at htokens
    have viable := whole.2 (htokens ▸ continues)
    exact iff_of_false (hposition ▸ Nat.lt_irrefl _) (not_not_intro viable)
  | cons t left =>
    have hstop : t.position < (ofText cs).stop :=
      (position_lt_stop (le_refl cs.length)).2.2 t (htokens ▸ by simp)
    refine iff_of_true (hposition ▸ hstop) fun viable => ?_
    obtain ⟨more, z, filter, -⟩ := whole.1 viable
    -- the place of a token is no part of the grammar, so any will do for those that follow
    let later : List Token := more.map fun l => ⟨l, 0⟩
    obtain ⟨e', fails⟩ := persists (List.cons_ne_nil t left) 0 later
    have hlexemes : ((ofText cs).tokens ++ later).map Token.lexeme =
        (ofText cs).tokens.map Token.lexeme ++ more := by simp [later, Function.comp_def]
    obtain ⟨expr, reads⟩ : ∃ expr, Expr.ofTokens 0 ((ofText cs).tokens ++ later) = .ok expr :=
      exists_ofTokens_eq_ok_iff.2 (hlexemes ▸ filter)
    exact absurd (reads.symm.trans fails) (by simp)

end Scan

/-! ## Blank texts -/

/-- A blank character that ends no token is read as a literal. -/
theorem Lexeme.read_of_isBlank {c : Char} (hc : isGap c = false) (blank : Text.isBlank c = true)
    (rest : List Char) : read .general c rest = readBare (c :: rest) := by
  have hbare : isBare c = true := by
    rw [isBare, Bool.not_eq_true', ← Bool.not_eq_true, isStop_iff]
    intro hstop
    simp only [List.mem_cons, List.not_mem_nil, or_false] at hstop
    -- what ends a literal is a gap or is not blank
    rcases hstop with rfl | rfl | rfl | rfl | rfl | rfl | rfl | rfl | rfl | rfl | rfl | rfl | rfl |
      rfl | rfl <;> revert hc blank <;> decide
  have hname : startsName c = false := by
    rw [← Bool.not_eq_true]
    intro h
    exact absurd (isBlank_of_isNameChar (isNameChar_of_startsName h)) (by simp [blank])
  obtain ⟨-, hquote, hsymbol, hmark⟩ := isBare_iff.1 hbare
  simp [read, readGeneral, hquote, hsymbol, hmark, hname]

/-- A blank text has no token that cannot be read. -/
theorem Scan.fault_of_blank {total : Nat} {cs : List Char}
    (blank : ∀ c ∈ cs, Text.isBlank c = true) : (scan total .general cs).fault = none := by
  generalize hmode : Mode.general = mode
  fun_induction scan total mode cs with
  | case1 => rfl
  | case2 mode cs c tail hcs position fault hread =>
    subst hmode
    have hc := blank c ((List.dropWhile_sublist isGap).subset (hcs ▸ List.mem_cons_self))
    rw [Lexeme.read_of_isBlank (Lexeme.isGap_of_dropWhile hcs) hc] at hread
    exact absurd hread (by simp [Lexeme.readBare])
  | case3 mode cs c tail hcs position l rest' hread later ih =>
    subst hmode
    have sub : ∀ d ∈ c :: tail, Text.isBlank d = true := fun d hd =>
      blank d ((List.dropWhile_sublist isGap).subset (hcs ▸ hd))
    rw [Lexeme.read_of_isBlank (Lexeme.isGap_of_dropWhile hcs) (sub c List.mem_cons_self)] at hread
    obtain ⟨rfl, rfl⟩ := Prod.mk.inj (Except.ok.inj hread)
    exact ih (fun d hd => sub d ((List.dropWhile_sublist _).subset hd)) rfl

/-! ## Errors -/

theorem viable_nil : Viable [] := by
  obtain ⟨more, z, filter, digits, lexes⟩ := continues_nil
  exact ⟨' ' :: z, exists_read_eq_ok_iff.2 ⟨more, filter, digits, lexes⟩⟩

/-- What is reported of a text with a token that cannot be read: that token, if the tokens before it
are the start of a filter, or else what is wrong with them. -/
theorem Scan.error_of_fault {cs : List Char} {fault : ParseFault} {e : ParseError}
    (short : (ofText cs).overlong? = none) (hfault : (ofText cs).fault = some fault)
    (h : Expr.ofScan (ofText cs) = .error e) :
    e = ⟨fault, (ofText cs).stop⟩ ∧ Viable (cs.take (ofText cs).stop ++ [' ']) ∨
      (ofText cs).tokens ≠ [] ∧
        Expr.ofTokens (ofText cs).stop (ofText cs).tokens = .error e ∧
        e.position < (ofText cs).stop := by
  obtain ⟨-, whole⟩ := viable_take_iff short (List.append_nil (ofText cs).tokens).symm
  unfold Expr.ofScan at h
  rw [hfault] at h
  dsimp only at h
  split at h
  · next hempty =>
    rw [List.isEmpty_iff.1 hempty] at whole
    exact .inl ⟨(Except.error.inj h).symm, whole.2 continues_nil⟩
  next hsome =>
  have hts : (ofText cs).tokens ≠ [] := fun hnil => hsome (List.isEmpty_iff.2 hnil)
  split at h
  · next e' htokens =>
    split at h
    · next hlt =>
      obtain rfl := Except.error.inj h
      exact .inr ⟨hts, htokens, hlt⟩
    · next hge =>
      have tokens := (viable_of_breaksOff short (Expr.ofTokens_breaksOff hts htokens)).2.2
      exact .inl ⟨(Except.error.inj h).symm, not_not.1 fun hviable => hge (tokens.2 hviable)⟩
  · next expr htokens =>
    have filter := exists_ofTokens_eq_ok_iff.1 ⟨expr, htokens⟩
    exact .inl ⟨(Except.error.inj h).symm, whole.2 filter.continues⟩

/-- A text whose tokens can all be read is viable up to its error. -/
theorem Scan.viable_of_no_fault {cs : List Char} {e : ParseError}
    (short : (ofText cs).overlong? = none) (hfault : (ofText cs).fault = none)
    (h : Expr.ofScan (ofText cs) = .error e) :
    e.position ≤ cs.length ∧ Viable (cs.take e.position) := by
  unfold Expr.ofScan at h
  rw [hfault] at h
  dsimp only at h
  by_cases hts : (ofText cs).tokens = []
  · rw [hts] at h
    obtain rfl := Except.error.inj h
    exact ⟨Nat.zero_le _, viable_nil⟩
  · obtain ⟨hle, viable, -⟩ := viable_of_breaksOff short (Expr.ofTokens_breaksOff hts h)
    exact ⟨hle, viable⟩

/-- The place of an error is exact up to the mistake: it is in the text or at its end, and the text
before it is viable. If some token of the text cannot be read, then an error in the tokens before it
is reported instead; and the unreadable token is reported exactly if what stands before it is
viable still, with a blank to end its last token. -/
theorem error_position_viable {s : String} {e : ParseError}
    (h : Expr.read s = .error (.malformed e)) :
    e.position ≤ s.length ∧ Viable (s.toList.take e.position) ∧
      ∀ fault, (Scan.ofText s.toList).fault = some fault →
        (∀ e', (Scan.ofText s.toList).tokens ≠ [] →
          Expr.ofTokens (Scan.ofText s.toList).stop (Scan.ofText s.toList).tokens = .error e' →
          e'.position < (Scan.ofText s.toList).stop → e = e') ∧
        (e = ⟨fault, (Scan.ofText s.toList).stop⟩ ↔
          Viable (s.toList.take (Scan.ofText s.toList).stop ++ [' '])) := by
  rw [← String.length_toList]
  obtain ⟨short, h⟩ := Expr.read_eq_malformed_iff.1 h
  generalize s.toList = cs at short h ⊢
  unfold Expr.ofText at h
  split at h
  · next hblank =>
    obtain rfl := Except.error.inj h
    refine ⟨Nat.zero_le _, viable_nil, fun fault hfault => ?_⟩
    have blank := Text.trimWhile_eq_nil_iff.1 (List.isEmpty_iff.1 hblank)
    rw [Scan.ofText, Scan.fault_of_blank blank] at hfault
    exact absurd hfault (by simp)
  cases hfault : (Scan.ofText cs).fault with
  | none =>
    obtain ⟨hle, viable⟩ := Scan.viable_of_no_fault short hfault h
    exact ⟨hle, viable, fun fault hsome => absurd hsome (by simp)⟩
  | some fault =>
    rcases Scan.error_of_fault short hfault h with ⟨rfl, viable⟩ | ⟨hts, htokens, hlt⟩
    · -- the tokens before the unreadable one are in order
      refine ⟨(Scan.position_lt_stop (le_refl cs.length)).2.1, viable.of_append, ?_⟩
      rintro _ ⟨⟩
      refine ⟨fun e' hts he' hlt => ?_, iff_of_true rfl viable⟩
      have broken := (Scan.viable_of_breaksOff short (Expr.ofTokens_breaksOff hts he')).2.2
      exact absurd viable (broken.1 hlt)
    · obtain ⟨hle, viable, broken⟩ :=
        Scan.viable_of_breaksOff short (Expr.ofTokens_breaksOff hts htokens)
      refine ⟨hle, viable, ?_⟩
      rintro _ ⟨⟩
      refine ⟨fun e' _ he' _ => Except.error.inj (htokens.symm.trans he'), iff_of_false ?_ ?_⟩
      · rintro rfl
        exact Nat.lt_irrefl _ hlt
      · exact broken.1 hlt

/-- The unknown field comes before the single `&`, and nothing can make up for it. -/
theorem error_position_viable_of_unknown_field :
    Expr.read "priority > 3 && foo & done" = .error (.malformed ⟨.unknownField "foo", 16⟩) ∧
      Viable "priority > 3 && ".toList ∧ ¬ Viable "priority > 3 && foo  ".toList := by
  have refused : Expr.read "priority > 3 && foo & done" =
      .error (.malformed ⟨.unknownField "foo", 16⟩) := by
    decide +kernel
  have scanned : Scan.ofText "priority > 3 && foo & done".toList = ⟨[⟨.word "priority", 0⟩,
      ⟨.operator .gt, 9⟩, ⟨.value "3" (.int 3), 11⟩, ⟨.combinator .and, 13⟩, ⟨.word "foo", 16⟩], 20,
      some (.unexpected "&" .combinator)⟩ := by
    decide +kernel
  obtain ⟨-, viable, faults⟩ := error_position_viable refused
  obtain ⟨-, reported⟩ := faults (.unexpected "&" .combinator) (by rw [scanned])
  rw [scanned] at reported
  exact ⟨refused, viable, fun h => absurd (reported.2 h) (by decide)⟩

/-- What stands before the single `&` could be continued to `done`, but as a whole name it is the
name of no field, and that is what is reported. -/
theorem unknown_field_before_unreadable :
    (Scan.ofText "don&".toList).fault = some (.unexpected "&" .combinator) ∧
      (Scan.ofText "don&".toList).stop = 3 ∧ Viable ("don&".toList.take 3) ∧
      Expr.read "don&" = .error (.malformed ⟨.unknownField "don", 0⟩) := by
  refine ⟨by decide +kernel, by decide +kernel, ⟨"e = true".toList, ?_⟩, by decide +kernel⟩
  exact ⟨.leaf ⟨.done, .eq, .one (.bool true)⟩, by decide +kernel⟩

end TaskSieve.Filter
