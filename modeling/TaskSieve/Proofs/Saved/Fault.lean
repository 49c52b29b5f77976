import TaskSieve.Proofs.Filter.Fault
import TaskSieve.Proofs.Saved.Vetting

set_option autoImplicit false

/-! # Faulty filters in the tool for saved filters

Four actions check a filter text: the text of a new filter, a changed one, one that is built from
conditions, and one that is validated. If the check fails, the action is refused by the fault. So an
unexpected error comes from the text if it is faulty, and else from the file of saved filters
only. -/

namespace TaskSieve

open Schema TaskSieve.Filter

namespace FiltersCall

/-- The parameters of a call give a text to an action that checks it. -/
inductive Gives (c : FiltersCall) (text : String) : Action → Prop
  | created {p : CreateParameters} (read : record CreateParameters.ofFields c.given = .valid p)
      (chosen : Action.chosenText p = .ok text) : Gives c text .create
  | changed {p : UpdateParameters} (read : record UpdateParameters.ofFields c.given = .valid p)
      (chosen : p.filter = some text) : Gives c text .update
  | built {p : BuildParameters} (read : record BuildParameters.ofFields c.given = .valid p)
      (lists : ∀ x ∈ p.conditions, x.value ≠ .many [])
      (joined : Builder.joinAll p.combinator p.conditions = .ok text) (ne_empty : text ≠ "") :
      Gives c text .build
  | validated (read : record textParameter c.given = .valid text) : Gives c text .validate

/-- A call asks for an action that checks a filter text. -/
def Checks (c : FiltersCall) (text : String) : Prop :=
  ∃ action : Action, c.action = action.name ∧ c.Gives text action

variable {c : FiltersCall} {text : String} {e : Expr} {store : Store} {action : Action}

/-- An action that checks a text whose check fails is refused by the fault. -/
theorem Gives.runOn_of_failsBy (h : c.Gives text action) (hread : Expr.read text = .ok e)
    {fault : Fault} (hfault : e.FailsBy fault) :
    action.runOn store c.ticket c.given = .error (action.refused fault.toRefusal) := by
  have haccept := accept_of_failsBy hread hfault c.ticket.time
  have hcheck := (e.check_eq_error_iff c.ticket.time fault).2 hfault
  cases h with
  | created read chosen =>
    simp only [Action.runOn, read, Action.withParameters, Action.runCreate, chosen]
    simp only [ok_bind, Action.warnings, haccept]
    rfl
  | @changed p read chosen =>
    have given : p.changes.isEmpty = false := by
      have := p.get?_changes_filter
      rw [chosen] at this
      cases hchanges : p.changes with
      | nil =>
        rw [hchanges] at this
        cases this
      | cons _ _ => rfl
    simp only [Action.runOn, read, Action.withParameters, Action.runUpdate, given, chosen]
    simp only [Action.warnings, haccept]
    rfl
  | built read lists joined ne_empty =>
    simp only [Action.runOn, read, Action.withParameters, Action.runBuild,
      Builder.mapM_checked lists, joined, Except.mapError, ok_bind, if_neg ne_empty, hread, hcheck]
    rfl
  | validated read =>
    simp only [Action.runOn, read, Action.withParameters, Action.runValidate, hread, hcheck]
    rfl

theorem refused_eq_unexpected_iff {refusal : Refusal} {name : String} :
    action.refused refusal = .unexpected name ↔
      (∃ fault, refusal = .fault fault) ∧ action.name = name := by
  cases refusal <;> simp [Action.refused]

theorem warnings_ne_unexpected (hread : Expr.read text = .ok e) (he : ¬ e.IsFaulty) (a : Action)
    (time : Calendar.Stamp) (name : String) : a.warnings time text ≠ .error (.unexpected name) := by
  intro hunexpected
  unfold Action.warnings at hunexpected
  split at hunexpected
  · cases hunexpected
  · next haccept =>
    obtain ⟨⟨fault, rfl⟩, -⟩ := refused_eq_unexpected_iff.1 (Except.error.inj hunexpected)
    exact he (isFaulty_of_accept hread haccept)

/-- An action that checks a text without faults gives no unexpected error. -/
theorem Gives.runOn_ne_unexpected (h : c.Gives text action) (hread : Expr.read text = .ok e)
    (he : ¬ e.IsFaulty) (name : String) :
    action.runOn store c.ticket c.given ≠ .error (.unexpected name) := by
  intro hrun
  -- only the actions that look at the check themselves need to know how it ended
  cases hcheck : e.check c.ticket.time with
  | error fault =>
    have hfault := (e.check_eq_error_iff c.ticket.time fault).1 hcheck
    rw [h.runOn_of_failsBy hread hfault] at hrun
    obtain ⟨⟨other, hother⟩, -⟩ := refused_eq_unexpected_iff.1 (Except.error.inj hrun)
    exact he ⟨fault, hfault, Fault.isUnforeseen_of_toRefusal hother⟩
  | ok r =>
    cases h with
    | @created p read chosen =>
      simp only [Action.runOn, read, Action.withParameters] at hrun
      have hcreate := map_eq_error_iff.1 hrun
      rw [Action.runCreate, chosen, ok_bind] at hcreate
      rcases bind_eq_error_iff.1 hcreate with hfound | ⟨found, -, hcreate⟩
      · exact warnings_ne_unexpected hread he _ _ name hfound
      · split at hcreate <;> cases hcreate
    | @changed p read chosen =>
      simp only [Action.runOn, read, Action.withParameters] at hrun
      have hupdate := map_eq_error_iff.1 hrun
      rw [Action.runUpdate, chosen] at hupdate
      split at hupdate
      · cases hupdate
      rcases bind_eq_error_iff.1 hupdate with hfound | ⟨found, -, hupdate⟩
      · exact warnings_ne_unexpected hread he _ _ name hfound
      · split at hupdate <;> cases hupdate
    | built read lists joined ne_empty =>
      simp only [Action.runOn, read, Action.withParameters] at hrun
      have hbuild := map_eq_error_iff.1 hrun
      simp only [Action.runBuild, Builder.mapM_checked lists, joined, Except.mapError, ok_bind,
        if_neg ne_empty, hread, hcheck] at hbuild
      cases hbuild
    | validated read =>
      simp only [Action.runOn, read, Action.withParameters, Action.runValidate, hread, hcheck]
        at hrun
      cases hrun

end FiltersCall

/-! ## Unexpected errors of a call -/

/-- Whether an answer is an unexpected error. -/
def ActionError.IsUnexpected (answer : Except ActionError Reply) : Prop :=
  ∃ e, answer = .error e ∧ e.kind = "unexpected_error"

theorem ActionError.kind_eq_unexpected_iff {e : ActionError} :
    e.kind = "unexpected_error" ↔ ∃ action, e = .unexpected action := by
  constructor
  · intro h
    cases e with
    | unexpected action => exact ⟨action, rfl⟩
    | store e => cases e <;> simp [kind] at h
    | _ => simp [kind] at h
  · rintro ⟨action, rfl⟩
    rfl

/-- Whether sessions have a file that holds a JSON value other than an object. -/
def Sessions.HoldsOther (s : Sessions) : Prop :=
  ∃ text d, s.shelf = .file (some text) ∧ Datum.read text = .ok d ∧ ∀ fields, d ≠ .record fields

theorem Action.ofName?_name (action : Action) : ofName? action.name = some action := by
  cases action <;> decide

/-- A change that cannot be written is an unexpected error only if the file holds another value. -/
theorem Sessions.holdsOther_of_commit {s : Sessions} {session : String} {store : Store}
    {action : Action} {e : FileError} (h : s.commit session store = .error e) {name : String}
    (hunexpected : action.writeError e = .unexpected name) : s.HoldsOther := by
  unfold commit at h
  split at h
  · cases h
  next file hshelf =>
  have hsave : SavedFile.save session store file = .error e := by
    rcases bind_eq_error_iff.1 h with hsave | ⟨_, -, hpair⟩
    · exact hsave
    · cases hpair
  have write {fields : Fields} :
      (Datum.record fields).write.mapError FileError.overlong ≠ .error e := by
    intro hwrite
    obtain ⟨o, -, rfl⟩ := mapError_eq_error_iff.1 hwrite
    cases hunexpected
  unfold SavedFile.save at hsave
  dsimp only at hsave
  split at hsave
  · exact absurd hsave write
  next text =>
  split at hsave
  · next fault hread =>
    cases hsave
    cases fault <;> cases hunexpected
  · exact absurd hsave write
  · next d hother hread =>
    exact ⟨text, d, hshelf, hread, hother⟩

namespace FiltersCall

variable {c : FiltersCall} {text : String} {e : Expr} {action : Action} {s : Sessions}
  {session : String}

/-- What the run of an action answers is what its call answers. -/
theorem answer_run (haction : c.action = action.name) :
    (c.run s session).answer =
      (action.run s session ((s.store? session).getD []) c.ticket c.given).map (·.1) := by
  rw [run, FiltersRun.ofCall, haction, Action.ofName?_name]
  dsimp only
  rw [given]
  split
  · next hrun => rw [hrun]; rfl
  · next hrun => rw [hrun]; rfl

/-- A call that checks a text whose check fails is answered with the fault; without one that the
tools do not foresee only the file can be the reason for an unexpected error. -/
theorem Checks.answer (h : c.Checks text) (hread : Expr.read text = .ok e) :
    (e.IsFaulty → ActionError.IsUnexpected (c.run s session).answer) ∧
      (ActionError.IsUnexpected (c.run s session).answer → e.IsFaulty ∨ s.HoldsOther) ∧
        ∀ o, e.FailsBy (.overlong o) → (c.run s session).answer = .error (.overlong o) := by
  obtain ⟨action, haction, hgives⟩ := h
  have hfails {fault : Fault} (hfault : e.FailsBy fault) :
      (c.run s session).answer = .error (action.refused fault.toRefusal) := by
    rw [answer_run haction, Action.run, hgives.runOn_of_failsBy hread hfault]
    rfl
  refine ⟨?_, ?_, fun o hfault => hfails hfault⟩
  · rintro ⟨fault, hfault, hunforeseen⟩
    have hanswer := hfails hfault
    rw [Fault.toRefusal_of_isUnforeseen hunforeseen] at hanswer
    exact ⟨.unexpected action.name, hanswer, rfl⟩
  · rintro ⟨error, hanswer, hkind⟩
    rw [answer_run haction] at hanswer
    obtain ⟨name, rfl⟩ := ActionError.kind_eq_unexpected_iff.1 hkind
    by_cases he : e.IsFaulty
    · exact .inl he
    rcases bind_eq_error_iff.1 (map_eq_error_iff.1 hanswer) with hon | ⟨⟨reply, changed⟩, -, hkeep⟩
    · exact absurd hon (hgives.runOn_ne_unexpected hread he name)
    cases changed with
    | none => cases hkeep
    | some new =>
      dsimp only at hkeep
      split at hkeep
      · cases hkeep
      · next hcommit => exact .inr (Sessions.holdsOther_of_commit hcommit (Except.error.inj hkeep))

end FiltersCall

end TaskSieve
