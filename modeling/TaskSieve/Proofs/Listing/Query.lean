import TaskSieve.Listing.Query
import TaskSieve.Proofs.Schema.Value

set_option autoImplicit false

/-! # Valid arguments

What is known of a listing once its arguments have been read: its page and project are numbers from
1 on, and no page is longer than the server allows. -/

namespace TaskSieve.Listing

open Schema

/-- The numbers in the arguments of a listing are within their bounds. -/
structure Query.Bounded (q : Query) : Prop where
  page : 1 ≤ q.page
  perPage : 1 ≤ q.perPage ∧ q.perPage ≤ 50
  project : ∀ id ∈ q.project, 1 ≤ id

theorem Query.bounded_of_ofFields {fs : Fields} {q : Query} (h : Query.ofFields fs = .valid q) :
    q.Bounded := by
  obtain ⟨_, project, h₁, hproject, rfl⟩ := Checked.seq_eq_valid_iff.1 h
  obtain ⟨_, done, h₂, -, rfl⟩ := Checked.seq_eq_valid_iff.1 h₁
  obtain ⟨_, all, h₃, -, rfl⟩ := Checked.seq_eq_valid_iff.1 h₂
  obtain ⟨_, search, h₄, -, rfl⟩ := Checked.seq_eq_valid_iff.1 h₃
  obtain ⟨_, sort, h₅, -, rfl⟩ := Checked.seq_eq_valid_iff.1 h₄
  obtain ⟨_, perPage, h₆, hperPage, rfl⟩ := Checked.seq_eq_valid_iff.1 h₅
  obtain ⟨_, page, h₇, hpage, rfl⟩ := Checked.seq_eq_valid_iff.1 h₆
  obtain ⟨_, filterId, h₈, -, rfl⟩ := Checked.seq_eq_valid_iff.1 h₇
  obtain ⟨filter, -, rfl⟩ := Checked.map_eq_valid_iff.1 h₈
  exact
    { page := of_optional hpage (by decide) fun _ _ => le_of_integerFrom
      perPage := of_optional (p := fun n => 1 ≤ n ∧ n ≤ 50) hperPage (by decide)
        fun _ _ => le_of_integerWithin
      project := of_optional (p := fun o => ∀ id ∈ o, 1 ≤ id) hproject (by simp)
        fun _ _ hd => of_nullable hd fun _ => le_of_integerFrom }

theorem Query.Bounded.scope {q : Query} (h : q.Bounded) : ∀ id ∈ q.scope, 1 ≤ id := by
  intro id hid
  unfold Query.scope at hid
  split at hid
  · exact absurd hid (by simp)
  · exact h.project id hid

end TaskSieve.Listing
