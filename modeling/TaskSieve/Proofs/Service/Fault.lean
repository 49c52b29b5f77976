import TaskSieve.Proofs.Saved.Fault

set_option autoImplicit false

/-! # Faulty filters in the tools

A filter text alone makes a tool answer with an unexpected error exactly if it is faulty. Otherwise
such an answer has one of two other reasons: the file of saved filters holds something else, or two
tasks of a listing have sort values without an order. The check of a text fails without being faulty
for too many digits, and then the tools say so. -/

namespace TaskSieve

open Schema TaskSieve.Filter Remote

/-! ## Listings -/

namespace Listing

/-- A listing whose arguments, but for the check of its filter, are in order, and whose filter comes
down to a text. -/
def SelectsBy (store : Store) (arguments : Fields) (text : String) : Prop :=
  ∃ q keys origin, Query.ofFields arguments = .valid q ∧ sortKeys q = .ok keys ∧
    source store q = .ok origin ∧ origin.text? = some text

/-- Whether an answer is an unexpected error. -/
def ListingError.IsUnexpected (answer : Except ListingError Result) : Prop :=
  ∃ e, answer = .error e ∧ e.kind = "unexpected_error"

theorem ListingError.kind_eq_unexpected_iff {e : ListingError} :
    e.kind = "unexpected_error" ↔ (∃ f, e = .refused (.fault f)) ∨ e = .unordered := by
  constructor
  · intro h
    cases e with
    | refused refusal =>
      cases refusal with
      | fault f => exact .inl ⟨f, rfl⟩
      | unreadable _ | rejected _ | overlong _ => simp [kind] at h
    | unordered => exact .inr rfl
    | api failure => cases hkind : failure.kind <;> simp [kind, hkind, apiReport] at h
    | _ => simp [kind] at h
  · rintro (⟨f, rfl⟩ | rfl) <;> rfl

variable {now : Calendar.Stamp} {store : Store} {arguments : Fields} {text : String} {e : Expr}

/-- What the arguments of such a listing come to. -/
theorem SelectsBy.exists_plan (h : SelectsBy store arguments text) (now : Calendar.Stamp) :
    ∃ q keys origin, Query.ofFields arguments = .valid q ∧ origin.text? = some text ∧
      plan now store q = (do
        let (expr, report) ← (accept now text).mapError .refused
        .ok ⟨q, keys, origin, some expr,
          report.warnings ++ if q.done.isSome then [doneWarning] else []⟩) := by
  obtain ⟨q, keys, origin, hquery, hkeys, hsource, htext⟩ := h
  refine ⟨q, keys, origin, hquery, htext, ?_⟩
  simp only [plan, hkeys, hsource, bind, Except.bind]
  rw [htext]

variable {α : Type} [Measure α] {client : Client α} {settings : Fallback} {c : Connection α}

/-- A listing by a text whose check fails is answered with the fault; without one that is not
foreseen only sort values can be the reason for an unexpected error. -/
theorem SelectsBy.answer (h : SelectsBy store arguments text) (hread : Expr.read text = .ok e) :
    (e.IsFaulty → ListingError.IsUnexpected
        (ListingRun.ofCall client settings now store arguments c).answer) ∧
      (ListingError.IsUnexpected (ListingRun.ofCall client settings now store arguments c).answer →
        e.IsFaulty ∨
          (ListingRun.ofCall client settings now store arguments c).answer = .error .unordered) ∧
      ∀ o, e.FailsBy (.overlong o) →
        (ListingRun.ofCall client settings now store arguments c).answer =
          .error (.refused (.overlong o)) := by
  obtain ⟨q, keys, origin, hquery, htext, hplan⟩ := h.exists_plan now
  rw [ListingRun.answer_ofCall hquery, produce]
  have hfails {fault : Fault} (hfault : e.FailsBy fault) :
      plan now store q = .error (.refused fault.toRefusal) := by
    rw [hplan, accept_of_failsBy hread hfault]
    rfl
  refine ⟨?_, ?_, fun o hfault => by rw [hfails hfault]; rfl⟩
  · rintro ⟨fault, hfault, hunforeseen⟩
    rw [hfails hfault, Fault.toRefusal_of_isUnforeseen hunforeseen]
    exact ⟨_, rfl, rfl⟩
  · rintro ⟨error, hproduce, hkind⟩
    rcases ListingError.kind_eq_unexpected_iff.1 hkind with ⟨f, rfl⟩ | rfl
    · left
      split at hproduce
      · next hplan' =>
        rw [hplan] at hplan'
        cases hproduce
        cases haccept : accept now text with
        | error refusal =>
          rw [haccept] at hplan'
          cases hplan'
          exact isFaulty_of_accept hread haccept
        | ok accepted =>
          rw [haccept] at hplan'
          cases hplan'
      · exact absurd hproduce run_ne_refused
    · exact .inr hproduce

end Listing

/-! ## Both tools -/

/-- The check of a text that can be read fails at any time for its faults only: an integer beyond
the largest number, a distance in long s, or one of too many digits. The first two kinds are the
faulty ones: a call that checks the text and a listing by it are answered with an unexpected error,
and no other text makes a tool answer so by itself. For too many digits the tools refuse the
text. -/
theorem isUnexpected_of_read {text : String} {e : Expr} (hread : Expr.read text = .ok e) :
    (∀ now fault, e.check now = .error fault ↔ e.FailsBy fault) ∧
      (∀ fault, e.FailsBy fault → fault = .numberTooLarge ∨ fault = .unknownUnit 'ſ' ∨
        ∃ n, digitLimit < n ∧ fault = .overlong (.text n)) ∧
      (∀ (c : FiltersCall) (s : Sessions) (session : String), c.Checks text →
        let answer := (c.run s session).answer
        (e.IsFaulty → ActionError.IsUnexpected answer) ∧
          (ActionError.IsUnexpected answer → e.IsFaulty ∨ s.HoldsOther) ∧
          ∀ o, e.FailsBy (.overlong o) → answer = .error (.overlong o)) ∧
      ∀ {α : Type} [Measure α] (client : Client α) (settings : Listing.Fallback)
        (now : Calendar.Stamp) (store : Store) (arguments : Fields) (c : Connection α),
        Listing.SelectsBy store arguments text →
        let answer := (Listing.ListingRun.ofCall client settings now store arguments c).answer
        (e.IsFaulty → Listing.ListingError.IsUnexpected answer) ∧
          (Listing.ListingError.IsUnexpected answer → e.IsFaulty ∨ answer = .error .unordered) ∧
          ∀ o, e.FailsBy (.overlong o) → answer = .error (.refused (.overlong o)) :=
  ⟨fun now fault => e.check_eq_error_iff now fault, fun _ => fault_of_read hread,
    fun _ _ _ hchecks => hchecks.answer hread,
    fun _ _ _ _ _ _ hselects => hselects.answer hread⟩

/-- A due date at a distance in long s is read, but it cannot be validated at any time. -/
theorem isUnexpected_of_long_s :
    ∃ e, Expr.read "dueDate = now+1ſ" = .ok e ∧ (∀ now r, e.check now ≠ .ok r) ∧
      ∀ ticket session, ActionError.IsUnexpected (FiltersCall.run ⟨.memory, [(session, [])]⟩ session
        ⟨ticket, "validate", .record [("filter", .text "dueDate = now+1ſ")]⟩).answer := by
  have hread : Expr.read "dueDate = now+1ſ" =
      .ok (.leaf ⟨.dueDate, .eq, .one (.text "now+1ſ")⟩) := by decide +kernel
  have told : Moment.RelativeText (some ⟨false, ['1'], 'ſ'⟩) "now+1ſ".toList :=
    Moment.relative?_eq_some_iff.1 (by decide +kernel)
  have untold : Moment.Faulty (Text.trim "now+1ſ".toList) (.unknownUnit 'ſ') :=
    ⟨_, told, .timeless (by decide) rfl⟩
  have fails : (Expr.leaf ⟨.dueDate, .eq, .one (.text "now+1ſ")⟩).FailsBy (.unknownUnit 'ſ') :=
    firstFailsBy_singleton_iff.2 ⟨.inr ⟨by decide, _, rfl⟩,
      firstFailsBy_singleton_iff.2 (.untold rfl untold)⟩
  obtain ⟨check, -, calls, -⟩ := isUnexpected_of_read hread
  refine ⟨_, hread, fun now r hr => ?_, fun ticket session => ?_⟩
  · have herror := (check now _).2 fails
    rw [hr] at herror
    cases herror
  · exact (calls _ _ session ⟨.validate, rfl, .validated rfl⟩).1 ⟨_, fails, nofun⟩

end TaskSieve
