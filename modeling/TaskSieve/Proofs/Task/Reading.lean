import Mathlib.Data.List.Forall2
import TaskSieve.Proofs.Schema.Value
import TaskSieve.Task.Basic

set_option autoImplicit false

/-! # How a task is read

A task that was read has each of its parts from its own key: `Task.ofFields_eq_valid_iff`, and so
have its labels and the people it is assigned to. The items of a list are read one by one. -/

namespace TaskSieve

open Schema

/-! ## Lists -/

theorem exists_of_forall₂ {α β : Type} {R : α → β → Prop} {as : List α} {bs : List β}
    (h : List.Forall₂ R as bs) {b : β} (hb : b ∈ bs) : ∃ a ∈ as, R a b := by
  induction h with
  | nil => exact absurd hb List.not_mem_nil
  | cons hab _ ih =>
    rcases List.mem_cons.1 hb with rfl | hb
    · exact ⟨_, List.mem_cons_self, hab⟩
    · obtain ⟨a, ha, hr⟩ := ih hb
      exact ⟨a, List.mem_cons_of_mem _ ha, hr⟩

namespace Schema.Checked

variable {α β : Type}

theorem pure_eq_valid_iff {a b : α} : (pure a : Checked α) = .valid b ↔ a = b :=
  Iff.of_eq (Checked.valid.injEq a b)

theorem mapped_eq_valid_iff {f : α → β} {a : Checked α} {b : β} :
    f <$> a = .valid b ↔ ∃ x, a = .valid x ∧ f x = b :=
  map_eq_valid_iff

/-- A list is valid exactly if each of its items is. -/
theorem eachFrom_eq_valid_iff {f : α → Checked β} {index : Nat} {xs : List α} {ys : List β} :
    eachFrom f index xs = .valid ys ↔ List.Forall₂ (fun x y => f x = .valid y) xs ys := by
  induction xs generalizing index ys with
  | nil =>
    rw [List.forall₂_nil_left_iff, eachFrom, Checked.valid.injEq]
    exact eq_comm
  | cons x xs ih =>
    simp only [eachFrom, seq_eq_valid_iff, mapped_eq_valid_iff, inside_eq_valid_iff, ih,
      List.forall₂_cons_left_iff]
    constructor
    · rintro ⟨_, ys, ⟨y, hy, rfl⟩, hys, rfl⟩
      exact ⟨y, ys, hy, hys, rfl⟩
    · rintro ⟨y, ys, hy, hys, rfl⟩
      exact ⟨_, ys, ⟨y, hy, rfl⟩, hys, rfl⟩

end Schema.Checked

theorem Schema.list_eq_valid_iff {α : Type} {item : Datum → Checked α} {d : Datum} {xs : List α} :
    Schema.list item d = .valid xs ↔
      ∃ items, d = .list items ∧ List.Forall₂ (fun d x => item d = .valid x) items xs := by
  cases d with
  | list items => simp [Schema.list, Checked.each, Checked.eachFrom_eq_valid_iff]
  | _ => simp [Schema.list, Checked.complain]

theorem Schema.record_eq_valid_iff {α : Type} {read : Fields → Checked α} {d : Datum} {a : α} :
    Schema.record read d = .valid a ↔ ∃ fs, d = .record fs ∧ read fs = .valid a := by
  cases d with
  | record fs => simp [Schema.record]
  | _ => simp [Schema.record, Checked.complain]

/-! ## Labels and people -/

theorem Label.ofFields_eq_valid_iff {fs : Fields} {l : Label} :
    ofFields fs = .valid l ↔
      required fs "id" integer = .valid l.id ∧ optional fs "title" "" text = .valid l.title ∧
        extras keys fs = l.extra := by
  simp only [ofFields, Checked.seq_eq_valid_iff, Checked.mapped_eq_valid_iff,
    Checked.pure_eq_valid_iff]
  constructor
  · rintro ⟨_, _, ⟨_, _, ⟨_, hid, rfl⟩, htitle, rfl⟩, rfl, rfl⟩
    exact ⟨hid, htitle, rfl⟩
  · rintro ⟨hid, htitle, hextra⟩
    exact ⟨_, _, ⟨_, _, ⟨_, hid, rfl⟩, htitle, rfl⟩, hextra, rfl⟩

theorem Person.ofFields_eq_valid_iff {fs : Fields} {p : Person} :
    ofFields fs = .valid p ↔
      required fs "id" integer = .valid p.id ∧
        optional fs "username" "" text = .valid p.username ∧
        optional fs "name" "" text = .valid p.name ∧ extras keys fs = p.extra := by
  simp only [ofFields, Checked.seq_eq_valid_iff, Checked.mapped_eq_valid_iff,
    Checked.pure_eq_valid_iff]
  constructor
  · rintro ⟨_, _, ⟨_, _, ⟨_, _, ⟨_, hid, rfl⟩, husername, rfl⟩, hname, rfl⟩, rfl, rfl⟩
    exact ⟨hid, husername, hname, rfl⟩
  · rintro ⟨hid, husername, hname, hextra⟩
    exact ⟨_, _, ⟨_, _, ⟨_, _, ⟨_, hid, rfl⟩, husername, rfl⟩, hname, rfl⟩, hextra, rfl⟩

/-! ## Tasks -/

namespace Task

/-- Where the parts of a task come from that was read from fields. -/
structure ReadFrom (fs : Fields) (t : Task) : Prop where
  id : required fs "id" integer = .valid t.id
  title : optional fs "title" "" text = .valid t.title
  description : optional fs "description" "" text = .valid t.description
  done : optional fs "done" false truth = .valid t.done
  priority : optional fs "priority" 0 (integerWithin minPriority maxPriority) = .valid t.priority
  percentDone : optional fs "percent_done" 0 number = .valid t.percentDone
  dueDate : optional fs "due_date" none date = .valid t.dueDate
  created : optional fs "created" none date = .valid t.created
  updated : optional fs "updated" none date = .valid t.updated
  projectId : optional fs "project_id" none (nullable integer) = .valid t.projectId
  labels : optional fs "labels" [] (listOrNull Label.ofDatum) = .valid t.labels
  assignees : optional fs "assignees" [] (listOrNull Person.ofDatum) = .valid t.assignees
  extra : extras keys fs = t.extra

/-- The parts of a task that was read, each from its own key. -/
theorem ofFields_eq_valid_iff {fs : Fields} {t : Task} :
    ofFields fs = .valid t ↔ ReadFrom fs t := by
  simp only [ofFields, Checked.seq_eq_valid_iff, Checked.mapped_eq_valid_iff,
    Checked.pure_eq_valid_iff]
  constructor
  · rintro ⟨_, _, ⟨_, _, ⟨_, _, ⟨_, _, ⟨_, _, ⟨_, _, ⟨_, _, ⟨_, _, ⟨_, _, ⟨_, _, ⟨_, _, ⟨_, _, ⟨_, id,
      rfl⟩, title, rfl⟩, description, rfl⟩, done, rfl⟩, priority, rfl⟩, percentDone, rfl⟩, dueDate,
      rfl⟩, created, rfl⟩, updated, rfl⟩, projectId, rfl⟩, labels, rfl⟩, assignees, rfl⟩, rfl, rfl⟩
    exact ⟨id, title, description, done, priority, percentDone, dueDate, created, updated, projectId,
      labels, assignees, rfl⟩
  · intro h
    exact ⟨_, _, ⟨_, _, ⟨_, _, ⟨_, _, ⟨_, _, ⟨_, _, ⟨_, _, ⟨_, _, ⟨_, _, ⟨_, _, ⟨_, _, ⟨_, _, ⟨_, h.id,
      rfl⟩, h.title, rfl⟩, h.description, rfl⟩, h.done, rfl⟩, h.priority, rfl⟩, h.percentDone, rfl⟩,
      h.dueDate, rfl⟩, h.created, rfl⟩, h.updated, rfl⟩, h.projectId, rfl⟩, h.labels, rfl⟩,
      h.assignees, rfl⟩, h.extra, rfl⟩

end Task

end TaskSieve
