import Mathlib.Data.List.Basic
import TaskSieve.Proofs.Filter.Printing

set_option autoImplicit false

/-! # What a builder remembers

A builder is told combinators and conditions in any order, and some of the conditions cannot be
made. What it holds then is told by the whole history: the conditions that could be made stand in
their order, each behind the combinator that was asked for last since the one before it, and what
was asked for since the last condition is kept for the next one. Conditions that could not be made
leave no trace, and neither does what was asked for before the first condition:
`run_remembers`. -/

namespace TaskSieve.Filter.Builder

/-! ## Histories -/

/-- The condition that a step adds, if one can be made. -/
def Step.condition? : Step → Option Condition
  | .joinBy _ => none
  | .where_ field operator value => (Condition.make field operator value).toOption

/-- The combinator that a step asks for. -/
def Step.combinator? : Step → Option Combinator
  | .joinBy k => some k
  | .where_ _ _ _ => none

/-- The combinator that was asked for last since the last condition that was added. -/
def asked (steps : List Step) : Option Combinator :=
  (steps.reverse.takeWhile fun s => s.condition?.isNone).findSome? Step.combinator?

/-- The condition that was added by one of the steps, behind the combinator that had been asked for
last since the condition before it, or behind `and` if none had been. -/
def addedAt (steps : List Step) (i : Nat) : Option (Combinator × Condition) :=
  (steps[i]?.bind Step.condition?).map fun c => ((asked (steps.take i)).getD .and, c)

/-- The conditions that were added, in their order. -/
def history (steps : List Step) : List (Combinator × Condition) :=
  (List.range steps.length).filterMap (addedAt steps)

variable {steps : List Step} {s : Step} {c : Condition}

theorem asked_concat_of_some (h : s.condition? = some c) : asked (steps ++ [s]) = none := by
  simp [asked, h]

theorem asked_concat_of_none (h : s.condition? = none) :
    asked (steps ++ [s]) = s.combinator?.or (asked steps) := by
  cases hs : s.combinator? <;> simp [asked, h, hs]

theorem addedAt_concat_of_lt {i : Nat} (h : i < steps.length) :
    addedAt (steps ++ [s]) i = addedAt steps i := by
  rw [addedAt, addedAt, List.getElem?_append_left h, List.take_append_of_le_length h.le]

theorem addedAt_concat (steps : List Step) (s : Step) :
    addedAt (steps ++ [s]) steps.length =
      s.condition?.map fun c => ((asked steps).getD .and, c) := by
  rw [addedAt, List.getElem?_concat_length, List.take_left, Option.bind_some]

/-- A step is added behind the history before it. -/
theorem history_concat (steps : List Step) (s : Step) :
    history (steps ++ [s]) =
      history steps ++ (s.condition?.map fun c => ((asked steps).getD .and, c)).toList := by
  have hbefore : (List.range steps.length).filterMap (addedAt (steps ++ [s])) = history steps :=
    List.filterMap_congr fun i hi => addedAt_concat_of_lt (List.mem_range.1 hi)
  rw [history, List.length_append, List.length_singleton, List.range_succ, List.filterMap_append,
    hbefore, List.filterMap_cons, addedAt_concat]
  cases s.condition? <;> rfl

/-- Nothing was added just if no condition could be made. -/
theorem history_eq_nil_iff : history steps = [] ↔ ∀ s ∈ steps, s.condition? = none := by
  induction steps using List.reverseRecOn with
  | nil => simp [history]
  | append_singleton steps s ih =>
    rw [history_concat, List.append_eq_nil_iff, ih]
    simp [or_imp, forall_and]

/-! ## Runs -/

theorem tree?_concat (xs : List (Combinator × Condition)) (k : Combinator) (c : Condition) :
    tree? (xs ++ [(k, c)]) = some (match tree? xs with
      | none => .leaf c
      | some e => .node k e (.leaf c)) := by
  cases xs with
  | nil => rfl
  | cons x xs => exact congrArg some (Expr.join_concat _ xs k c)

theorem tree?_eq_none_iff {xs : List (Combinator × Condition)} : tree? xs = none ↔ xs = [] := by
  cases xs <;> simp [tree?]

theorem run_append (steps later : List Step) :
    run (steps ++ later) = later.foldl Step.run (run steps) :=
  List.foldl_append

/-- A condition that cannot be made changes nothing. -/
theorem Step.run_of_error {b : Builder} {field operator : String} {value : Literal}
    {e : BuildError} (h : b.where_ field operator value = .error e) :
    (Step.where_ field operator value).run b = b := by
  rw [Step.run, h]
  rfl

/-- A condition that can be made is joined by what was asked for, which is then forgotten. -/
theorem Step.run_of_condition (b : Builder) (h : s.condition? = some c) : s.run b = b.add c := by
  cases s with
  | joinBy k => cases h
  | where_ field operator value =>
    rw [Step.condition?] at h
    cases hmake : Condition.make field operator value with
    | error e =>
      rw [hmake] at h
      cases h
    | ok c' =>
      rw [hmake] at h
      obtain rfl := Option.some.inj h
      rw [Step.run, Builder.where_, hmake]
      rfl

theorem Step.run_of_none (b : Builder) (h : s.condition? = none) :
    s.run b = ⟨b.expr, s.combinator?.or b.pending⟩ := by
  cases s with
  | joinBy k => rfl
  | where_ field operator value =>
    rw [Step.condition?] at h
    cases hmake : Condition.make field operator value with
    | error e =>
      rw [Step.run, Builder.where_, hmake]
      rfl
    | ok c' =>
      rw [hmake] at h
      cases h

theorem add_eq (xs : List (Combinator × Condition)) (pending : Option Combinator) (c : Condition) :
    add ⟨tree? xs, pending⟩ c = ⟨tree? (xs ++ [(pending.getD .and, c)]), none⟩ := by
  rw [tree?_concat, add]
  cases tree? xs <;> rfl

/-- What a builder holds, and what it keeps for the next condition, is told by its history. -/
theorem run_eq (steps : List Step) : run steps = ⟨tree? (history steps), asked steps⟩ := by
  induction steps using List.reverseRecOn with
  | nil => rfl
  | append_singleton steps s ih =>
    rw [run_append, List.foldl_cons, List.foldl_nil, ih, history_concat]
    -- a step adds a condition, or only asks how the next one is joined
    cases h : s.condition? with
    | none =>
      rw [Step.run_of_none _ h, asked_concat_of_none h, Option.map_none, Option.toList_none,
        List.append_nil]
    | some c =>
      rw [Step.run_of_condition _ h, asked_concat_of_some h, add_eq, Option.map_some,
        Option.toList_some]

/-- The condition of a step can be made just if its names are known and its value is no empty
list. -/
theorem where_eq_error_iff {b : Builder} {field operator : String} {value : Literal} :
    (∃ e, b.where_ field operator value = .error e) ↔
      Field.resolve? field.toList = none ∨ Operator.ofText? operator = none ∨
        value = .many [] := by
  rw [where_, Condition.make]
  cases Field.resolve? field.toList with
  | none => simp [Except.map]
  | some f =>
    cases Operator.ofText? operator with
    | none => simp [Except.map]
    | some op => by_cases hvalue : value = .many [] <;> simp [Condition.checked, hvalue, Except.map]

/-- Builders that hold nothing come to hold the same, whatever they were asked for before. -/
theorem expr_foldl_eq {b b' : Builder} (h : b.expr = none) (h' : b'.expr = none)
    (later : List Step) : (later.foldl Step.run b).expr = (later.foldl Step.run b').expr := by
  induction later generalizing b b' with
  | nil => rw [List.foldl_nil, List.foldl_nil, h, h']
  | cons s later ih =>
    rw [List.foldl_cons, List.foldl_cons]
    cases hs : s.condition? with
    | none =>
      rw [Step.run_of_none b hs, Step.run_of_none b' hs]
      exact ih h h'
    -- from the first condition on the builders are the same
    | some c => rw [Step.run_of_condition b hs, Step.run_of_condition b' hs, add, add, h, h']

/-! ## Texts -/

/-- A chain is written in some characters: there is a blank behind the name of its first field. -/
theorem canonical_ne_empty (first : Condition) (rest : List (Combinator × Condition)) :
    Expr.canonical first rest ≠ "" := by
  intro h
  have hnil := congrArg String.toList h
  rw [toList_canonical] at hnil
  simp [Condition.canonical] at hnil

/-- What keeps the conditions that were added from being written. -/
def overlong? (steps : List Step) : Option Overlong :=
  (history steps).findSome? (·.2.value.overlong?)

/-- What a builder holds can be written unless something in it has too many digits, and the text is
empty just if it holds nothing. -/
theorem print_spec (steps : List Step) :
    (overlong? steps = none →
      ∃ text, (run steps).print = .ok text ∧ (text = "" ↔ (run steps).expr = none)) ∧
      ∀ o, overlong? steps = some o → (run steps).print = .error (.overlong o) := by
  have hexpr : (run steps).expr = tree? (history steps) := by rw [run_eq]
  rw [overlong?]
  cases hhistory : history steps with
  | nil =>
    rw [hhistory] at hexpr
    refine ⟨fun _ => ⟨"", ?_, iff_of_true rfl hexpr⟩, fun o ho => absurd ho (by simp)⟩
    rw [print, hexpr, tree?]
  | cons x rest =>
    rw [hhistory, tree?] at hexpr
    have hfound : ((Expr.leaf x.2).join rest).overlong? =
        (x :: rest).findSome? (·.2.value.overlong?) := by
      rw [Expr.overlong?, Expr.conditions_chain, ← List.map_cons, List.findSome?_map]
      rfl
    rw [print_of_expr hexpr, Expr.print_join, hfound]
    constructor
    · intro short
      rw [short]
      exact ⟨_, rfl, iff_of_false (canonical_ne_empty _ _) (by simp [hexpr])⟩
    · intro o found
      rw [found]
      rfl

/-! ## All histories -/

/-- A builder after any steps holds the conditions that could be made, joined from left to right,
each by what was asked for last since the one before it. A condition that cannot be made leaves no
trace, and what happens before the first condition does not show. What the builder holds can be
written unless one of the conditions that were added has too many digits, and the text is empty only
before the first condition. -/
theorem run_remembers (steps : List Step) :
    ((run steps).expr = tree? (history steps) ∧ (run steps).pending = asked steps) ∧
      (∀ field operator value,
        ((∃ e, (run steps).where_ field operator value = .error e) ↔
          Field.resolve? field.toList = none ∨ Operator.ofText? operator = none ∨
            value = .many []) ∧
        ∀ e, (run steps).where_ field operator value = .error e →
          ∀ later, run (steps ++ .where_ field operator value :: later) = run (steps ++ later)) ∧
      ((∀ s ∈ steps, s.condition? = none) →
        ∀ later, (run (steps ++ later)).expr = (run later).expr) ∧
      (overlong? steps = none →
        ∃ text, (run steps).print = .ok text ∧ (text = "" ↔ ∀ s ∈ steps, s.condition? = none)) ∧
      ∀ o, overlong? steps = some o → (run steps).print = .error (.overlong o) := by
  have hstate := run_eq steps
  have hempty : (run steps).expr = none ↔ ∀ s ∈ steps, s.condition? = none := by
    rw [hstate, tree?_eq_none_iff, history_eq_nil_iff]
  have written := print_spec steps
  rw [hempty] at written
  refine ⟨by rw [hstate]; exact ⟨rfl, rfl⟩, ?_, ?_, written⟩
  · intro field operator value
    refine ⟨where_eq_error_iff, fun e he later => ?_⟩
    rw [run_append, run_append, List.foldl_cons, Step.run_of_error he]
  · intro hsteps later
    rw [run_append]
    exact expr_foldl_eq (hempty.2 hsteps) rfl later

/-- A field that is not known is passed over, and what was asked for before it still counts. -/
theorem run_remembers_of_unknown_field :
    let steps : List Step := [.joinBy .or, .where_ "done" "=" (.one (.bool false)), .joinBy .and,
      .joinBy .or]
    let later : List Step := [.where_ "priority" ">" (.one (.int 3))]
    run (steps ++ .where_ "state" "=" (.one (.int 1)) :: later) = run (steps ++ later) ∧
      (run (steps ++ later)).expr = some (.node .or (.leaf ⟨.done, .eq, .one (.bool false)⟩)
        (.leaf ⟨.priority, .gt, .one (.int 3)⟩)) := by
  intro steps later
  obtain ⟨-, refused, -⟩ := run_remembers steps
  obtain ⟨⟨built, -⟩, -⟩ := run_remembers (steps ++ later)
  exact ⟨(refused "state" "=" (.one (.int 1))).2 (.unknownField "state") rfl later,
    built.trans (by decide)⟩

end TaskSieve.Filter.Builder
