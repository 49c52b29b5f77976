import TaskSieve.Filter.Evaluation
import TaskSieve.Proofs.Filter.Printing

set_option autoImplicit false

/-! # Writing trees without parentheses

The language has no grouping, so a tree is written as a chain or not at all. A node whose right part
is again a node can be regrouped, `a ∘ (b ∘ c)` into `(a ∘ b) ∘ c`, if both are joined by the same
combinator. Regrouping on and on gives the same texts as the printer, which collects the chain in
one pass; it comes to an end because each step makes the right part smaller and no step makes the
tree larger. What is written means the same as the tree, because both combinators are
associative. -/

namespace TaskSieve.Filter

/-! ## Parts of a tree -/

namespace Expr

/-- An expression stands somewhere in a tree. -/
inductive IsPart (x : Expr) : Expr → Prop
  | self : IsPart x x
  | left {k : Combinator} {l r : Expr} (part : IsPart x l) : IsPart x (.node k l r)
  | right {k : Combinator} {l r : Expr} (part : IsPart x r) : IsPart x (.node k l r)

/-- An expression is a tree, or its left part, or the left part of that, and so on. -/
inductive OnSpine (x : Expr) : Expr → Prop
  | root : OnSpine x x
  | left {k : Combinator} {l r : Expr} (spine : OnSpine x l) : OnSpine x (.node k l r)

/-- A node on the left spine has a node with the other combinator in its right part. -/
def NeedsGrouping (e : Expr) : Prop :=
  ∃ k l r, OnSpine (.node k l r) e ∧ ∃ k' l' r', IsPart (.node k' l' r') r ∧ k' ≠ k

/-- The combinators of a tree are those of its nodes. -/
theorem mem_combinators_iff {e : Expr} {k : Combinator} :
    k ∈ e.combinators ↔ ∃ l r, IsPart (.node k l r) e := by
  constructor
  · intro h
    induction e with
    | leaf c => exact absurd h List.not_mem_nil
    | node k' l r ihl ihr =>
      rw [combinators, List.mem_append, List.mem_cons] at h
      rcases h with h | rfl | h
      · obtain ⟨l', r', part⟩ := ihl h
        exact ⟨l', r', part.left⟩
      · exact ⟨l, r, .self⟩
      · obtain ⟨l', r', part⟩ := ihr h
        exact ⟨l', r', part.right⟩
  · rintro ⟨l, r, part⟩
    induction part with
    | self => simp [combinators]
    | left _ ih => simp [combinators, ih]
    | right _ ih => simp [combinators, ih]

/-- All nodes of a tree have one combinator. -/
def JoinedBy (k : Combinator) (e : Expr) : Prop := ∀ k' ∈ e.combinators, k' = k

theorem all_combinators_iff {k : Combinator} {e : Expr} :
    (e.combinators.all (· == k)) = true ↔ e.JoinedBy k := by
  simp [JoinedBy]

theorem joinedBy_node_iff {k k' : Combinator} {l r : Expr} :
    (node k' l r).JoinedBy k ↔ k' = k ∧ l.JoinedBy k ∧ r.JoinedBy k := by
  simp only [JoinedBy, combinators, List.mem_append, List.mem_cons]
  constructor
  · intro h
    exact ⟨h k' (.inr (.inl rfl)), fun x hx => h x (.inl hx), fun x hx => h x (.inr (.inr hx))⟩
  · rintro ⟨rfl, hl, hr⟩ x (hx | rfl | hx)
    · exact hl x hx
    · rfl
    · exact hr x hx

theorem needsGrouping_leaf (c : Condition) : ¬ NeedsGrouping (leaf c) := by
  rintro ⟨k, l, r, spine, -⟩
  cases spine

theorem needsGrouping_node_iff {k : Combinator} {l r : Expr} :
    NeedsGrouping (node k l r) ↔ NeedsGrouping l ∨ ¬ r.JoinedBy k := by
  have mixed : ¬ r.JoinedBy k ↔ ∃ k' l' r', IsPart (.node k' l' r') r ∧ k' ≠ k := by
    simp only [JoinedBy, not_forall, mem_combinators_iff]
    constructor
    · rintro ⟨k', ⟨l', r', part⟩, hne⟩
      exact ⟨k', l', r', part, hne⟩
    · rintro ⟨k', l', r', part, hne⟩
      exact ⟨k', ⟨l', r', part⟩, hne⟩
  rw [mixed]
  constructor
  · rintro ⟨k₁, l₁, r₁, spine, other⟩
    cases spine with
    | root => exact .inr other
    | left spine => exact .inl ⟨k₁, l₁, r₁, spine, other⟩
  · rintro (⟨k₁, l₁, r₁, spine, other⟩ | other)
    · exact ⟨k₁, l₁, r₁, spine.left, other⟩
    · exact ⟨k, l, r, .root, other⟩

/-! ## The chain of a tree -/

theorem chain?_node (k : Combinator) (l r : Expr) :
    (node k l r).chain? = l.chain?.bind fun p =>
      if r.combinators.all (· == k) then some (p.1, p.2 ++ r.conditions.map fun x => (k, x))
      else none := rfl

theorem chain?_node_of_joinedBy {k : Combinator} {l r : Expr} (h : r.JoinedBy k) :
    (node k l r).chain? = l.chain?.map fun p => (p.1, p.2 ++ r.conditions.map fun x => (k, x)) := by
  rw [chain?_node, all_combinators_iff.2 h]
  cases l.chain? <;> rfl

theorem chain?_node_of_not_joinedBy {k : Combinator} {l r : Expr} (h : ¬ r.JoinedBy k) :
    (node k l r).chain? = none := by
  have other := mt all_combinators_iff.1 h
  rw [chain?_node]
  cases l.chain? with
  | none => rfl
  | some p => exact if_neg other

/-- A tree is no chain exactly if it needs grouping. -/
theorem chain?_eq_none_iff {e : Expr} : e.chain? = none ↔ e.NeedsGrouping := by
  induction e with
  | leaf c => simp [chain?, needsGrouping_leaf]
  | node k l r ihl _ =>
    rw [needsGrouping_node_iff, ← ihl]
    by_cases h : r.JoinedBy k
    · rw [chain?_node_of_joinedBy h, Option.map_eq_none_iff]
      simp [h]
    · simp [chain?_node_of_not_joinedBy h, h]

/-- A part that is joined by one combinator brings that combinator before each of its conditions. -/
theorem map_conditions_of_joinedBy {k : Combinator} {e : Expr} (h : e.JoinedBy k) :
    (e.conditions.map fun _ => k) = k :: e.combinators := by
  induction e with
  | leaf c => rfl
  | node k' l r ihl ihr =>
    obtain ⟨rfl, hl, hr⟩ := joinedBy_node_iff.1 h
    rw [conditions, List.map_append, ihl hl, ihr hr, combinators, List.cons_append]

theorem conditions_of_chain? {e : Expr} {first : Condition} {steps : List (Combinator × Condition)}
    (h : e.chain? = some (first, steps)) :
    e.conditions = first :: steps.map Prod.snd ∧ e.combinators = steps.map Prod.fst := by
  induction e generalizing first steps with
  | leaf c =>
    obtain ⟨rfl, rfl⟩ := Prod.mk.inj (Option.some.inj h)
    exact ⟨rfl, rfl⟩
  | node k l r ihl _ =>
    by_cases joined : r.JoinedBy k
    · rw [chain?_node_of_joinedBy joined] at h
      obtain ⟨⟨first', before⟩, hl, heq⟩ := Option.map_eq_some_iff.1 h
      obtain ⟨rfl, rfl⟩ := Prod.mk.inj heq
      obtain ⟨hconditions, hcombinators⟩ := ihl hl
      have hr := map_conditions_of_joinedBy joined
      constructor
      · simp [conditions, hconditions, Function.comp_def]
      · simp [combinators, hcombinators, ← hr, Function.comp_def]
    · exact absurd h (by simp [chain?_node_of_not_joinedBy joined])

end Expr

/-! ## Meaning -/

/-- What a combinator makes of two truth values. -/
def Combinator.combine : Combinator → Bool → Bool → Bool
  | .and, a, b => a && b
  | .or, a, b => a || b

theorem Combinator.combine_assoc (k : Combinator) (a b c : Bool) :
    k.combine (k.combine a b) c = k.combine a (k.combine b c) := by
  cases k
  · exact Bool.and_assoc a b c
  · exact Bool.or_assoc a b c

namespace Expr

section Meaning

variable {now : Calendar.Stamp} {task : Fields}

theorem matches_node (k : Combinator) (l r : Expr) :
    (node k l r).matches now task = k.combine (l.matches now task) (r.matches now task) := by
  cases k <;> rfl

theorem join_append (e : Expr) (steps steps' : List (Combinator × Condition)) :
    e.join (steps ++ steps') = (e.join steps).join steps' :=
  List.foldl_append

/-- Joining the conditions of a part one by one means the same as joining the part. -/
theorem matches_join_conditions {k : Combinator} {r : Expr} (h : r.JoinedBy k) (e : Expr) :
    (e.join (r.conditions.map fun c => (k, c))).matches now task =
      k.combine (e.matches now task) (r.matches now task) := by
  induction r generalizing e with
  | leaf c => exact matches_node k e (.leaf c)
  | node k' r₁ r₂ ih₁ ih₂ =>
    obtain ⟨rfl, h₁, h₂⟩ := joinedBy_node_iff.1 h
    -- the right half goes first, since its conditions stand at the end
    rw [conditions, List.map_append, join_append, ih₂ h₂, ih₁ h₁, matches_node,
      Combinator.combine_assoc]

theorem matches_of_chain? {e : Expr} {first : Condition} {steps : List (Combinator × Condition)}
    (h : e.chain? = some (first, steps)) :
    ((leaf first).join steps).matches now task = e.matches now task := by
  induction e generalizing first steps with
  | leaf c =>
    obtain ⟨rfl, rfl⟩ := Prod.mk.inj (Option.some.inj h)
    rfl
  | node k l r ihl _ =>
    by_cases joined : r.JoinedBy k
    · rw [chain?_node_of_joinedBy joined] at h
      obtain ⟨⟨first', before⟩, hl, heq⟩ := Option.map_eq_some_iff.1 h
      obtain ⟨rfl, rfl⟩ := Prod.mk.inj heq
      rw [join_append, matches_join_conditions joined, ihl hl, matches_node]
    · exact absurd h (by simp [chain?_node_of_not_joinedBy joined])

end Meaning

/-! ## Regrouping -/

/-- How many nodes a tree has. -/
def size : Expr → Nat
  | leaf _ => 0
  | node _ l r => l.size + r.size + 1

/-- How many nodes the right part of a tree has. -/
def rightSize : Expr → Nat
  | leaf _ => 0
  | node _ _ r => r.size

/-- The text of an expression, if regrouping makes every right part on its left spine a condition. A
step keeps the number of nodes and takes at least one away from the right part. -/
def printRegrouped : Expr → Except PrintError String
  | leaf c => c.print.mapError .overlong
  | node k l (leaf c) => do
    let left ← printRegrouped l
    let condition ← c.print.mapError .overlong
    .ok (left ++ " " ++ k.text ++ " " ++ condition)
  | node k l (node k' m r) =>
    if k' = k then printRegrouped (node k' (node k l m) r) else .error .grouping
termination_by e => (e.size, e.rightSize)
decreasing_by
  · simp only [size]
    exact Prod.Lex.left _ _ (by omega)
  · have same : size (node k' (node k l m) r) = size (node k l (node k' m r)) := by
      simp only [size]
      omega
    rw [same]
    exact Prod.Lex.right _ (by simp only [rightSize, size]; omega)

/-- Regrouping a node does not change its chain. -/
theorem chain?_regroup (k : Combinator) (l m r : Expr) :
    (node k (node k l m) r).chain? = (node k l (node k m r)).chain? := by
  by_cases hr : r.JoinedBy k
  · by_cases hm : m.JoinedBy k
    · rw [chain?_node_of_joinedBy hr, chain?_node_of_joinedBy hm,
        chain?_node_of_joinedBy (joinedBy_node_iff.2 ⟨rfl, hm, hr⟩), Option.map_map]
      congr 1
      funext p
      simp [conditions]
    · rw [chain?_node_of_joinedBy hr, chain?_node_of_not_joinedBy hm,
        chain?_node_of_not_joinedBy fun h => hm (joinedBy_node_iff.1 h).2.1, Option.map_none]
  · rw [chain?_node_of_not_joinedBy hr,
      chain?_node_of_not_joinedBy fun h => hr (joinedBy_node_iff.1 h).2.2]

theorem canonical_concat (first : Condition) (steps : List (Combinator × Condition))
    (k : Combinator) (c : Condition) : canonical first (steps ++ [(k, c)]) =
      canonical first steps ++ " " ++ k.text ++ " " ++ c.canonical := by
  rw [canonical, List.foldl_append]
  rfl

/-- The last condition of a chain is written after all that stand before it. -/
theorem printChain_concat (first : Condition) (steps : List (Combinator × Condition))
    (k : Combinator) (c : Condition) : printChain first (steps ++ [(k, c)]) =
      ((printChain first steps).bind fun left => c.print.map fun condition =>
        left ++ " " ++ k.text ++ " " ++ condition) := by
  rw [printChain_eq, printChain_eq, Condition.print_eq, canonical_concat, overlong?, overlong?,
    conditions_chain, conditions_chain, List.map_append, List.map_singleton, ← List.cons_append,
    List.findSome?_append, List.findSome?_singleton]
  generalize (first :: steps.map Prod.snd).findSome? (·.value.overlong?) = before
  cases before with
  | some o => rfl
  | none => cases c.value.overlong? <;> rfl

theorem print_of_chain? {e : Expr} {first : Condition} {steps : List (Combinator × Condition)}
    (h : e.chain? = some (first, steps)) :
    e.print = (printChain first steps).mapError .overlong := by
  rw [print, h]

theorem print_of_needsGrouping {e : Expr} (h : e.NeedsGrouping) : e.print = .error .grouping := by
  rw [print, chain?_eq_none_iff.2 h]

theorem printRegrouped_eq_print (e : Expr) : e.printRegrouped = e.print := by
  fun_induction printRegrouped e with
  | case1 c =>
    rw [print_of_chain? (chain?.eq_1 c), printChain]
    cases c.print <;> rfl
  | case2 k l c ih =>
    have joined : (leaf c).JoinedBy k := fun _ h => absurd h List.not_mem_nil
    rw [ih, print, print, chain?_node_of_joinedBy joined]
    cases l.chain? with
    | none => rfl
    | some p =>
      simp only [Option.map_some, conditions, List.map_singleton, printChain_concat]
      cases printChain p.1 p.2 with
      | error o => rfl
      | ok text => cases c.print <;> rfl
  | case3 k l m r ih => rw [ih, print, print, chain?_regroup]
  | case4 k l k' m r hne =>
    rw [print, chain?_node_of_not_joinedBy fun h => hne (joinedBy_node_iff.1 h).1]

/-- An expression is written by regrouping it. It cannot be written if a node on its left spine has
the other combinator in its right part. Any other one is the same as a chain, with the same
conditions and combinators and selecting the same tasks, and is written as that chain, unless
something in it has too many digits. -/
theorem print_eq_regrouped (e : Expr) :
    e.print = e.printRegrouped ∧
      ((e.NeedsGrouping ∧ e.print = .error .grouping) ∨
        (¬ e.NeedsGrouping ∧ ∃ first steps,
          let chain := (leaf first).join steps
          chain.LeftDeep ∧ chain.conditions = e.conditions ∧
          chain.combinators = e.combinators ∧
          (∀ now task, chain.matches now task = e.matches now task) ∧
          (e.overlong? = none → e.print = .ok (canonical first steps) ∧
            chain.print = .ok (canonical first steps)) ∧
          ∀ o, e.overlong? = some o → e.print = .error (.overlong o))) := by
  refine ⟨(printRegrouped_eq_print e).symm, ?_⟩
  cases hchain : e.chain? with
  | none =>
    have grouping := chain?_eq_none_iff.1 hchain
    exact .inl ⟨grouping, print_of_needsGrouping grouping⟩
  | some p =>
    obtain ⟨first, steps⟩ := p
    obtain ⟨hconditions, hcombinators⟩ := conditions_of_chain? hchain
    have conditions_eq : ((leaf first).join steps).conditions = e.conditions := by
      rw [conditions_chain, hconditions]
    have same : ((leaf first).join steps).overlong? = e.overlong? := by
      rw [overlong?, overlong?, conditions_eq]
    refine .inr ⟨fun h => ?_, first, steps, LeftDeep.leaf.join steps, conditions_eq, ?_,
      fun now task => matches_of_chain? hchain, fun short => ?_, fun o found => ?_⟩
    · exact absurd (chain?_eq_none_iff.2 h) (by simp [hchain])
    · rw [combinators_join, hcombinators]
      rfl
    · rw [print_join, print_of_chain? hchain, printChain_eq, same, short]
      exact ⟨rfl, rfl⟩
    · rw [print_of_chain? hchain, printChain_eq, same, found]
      rfl

end Expr

end TaskSieve.Filter
