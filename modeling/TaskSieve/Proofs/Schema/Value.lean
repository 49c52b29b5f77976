import TaskSieve.Schema.Value

set_option autoImplicit false

/-! # What a schema lets through

A value that was read is known to have passed the checks of its reader, whatever else was wrong with
the record that it came from. -/

namespace TaskSieve.Schema

namespace Checked

variable {α β : Type}

/-- Two checked parts give a whole exactly if both are valid. -/
theorem seq_eq_valid_iff {f : Checked (α → β)} {a : Checked α} {b : β} :
    f <*> a = .valid b ↔ ∃ g x, f = .valid g ∧ a = .valid x ∧ g x = b := by
  change seq f a = .valid b ↔ _
  cases f <;> cases a <;> simp [seq]

theorem map_eq_valid_iff {f : α → β} {a : Checked α} {b : β} :
    a.map f = .valid b ↔ ∃ x, a = .valid x ∧ f x = b := by
  cases a <;> simp [map]

theorem andThen_eq_valid_iff {a : Checked α} {f : α → Checked β} {b : β} :
    a.andThen f = .valid b ↔ ∃ x, a = .valid x ∧ f x = .valid b := by
  cases a <;> simp [andThen]

theorem inside_eq_valid_iff {part : String} {a : Checked α} {x : α} :
    a.inside part = .valid x ↔ a = .valid x := by
  cases a <;> simp [inside]

theorem value?_eq_some_iff {a : Checked α} {x : α} : a.value? = some x ↔ a = .valid x := by
  cases a <;> simp [value?]

end Checked

variable {α : Type}

/-- A field with a default is that default, or what its reader took. -/
theorem of_optional {fs : Fields} {key : String} {default a : α} {item : Datum → Checked α}
    {p : α → Prop} (h : optional fs key default item = .valid a) (hdefault : p default)
    (hitem : ∀ d a, item d = .valid a → p a) : p a := by
  unfold optional at h
  split at h
  · exact hitem _ a (Checked.inside_eq_valid_iff.1 h)
  · cases h
    exact hdefault

theorem of_nullable {d : Datum} {a : Option α} {item : Datum → Checked α} {p : α → Prop}
    (h : nullable item d = .valid a) (hitem : ∀ a, item d = .valid a → p a) : ∀ x ∈ a, p x := by
  unfold nullable at h
  split at h
  · cases h
    exact fun x hx => absurd hx (by simp)
  · obtain ⟨x, hx, rfl⟩ := Checked.map_eq_valid_iff.1 h
    intro y hy
    obtain rfl := Option.mem_some_iff.1 hy
    exact hitem x hx

theorem le_of_integerFrom {low n : Int} {d : Datum} (h : integerFrom low d = .valid n) :
    low ≤ n := by
  obtain ⟨m, -, hm⟩ := Checked.andThen_eq_valid_iff.1 h
  split at hm
  · cases hm
  · cases hm
    omega

theorem le_of_integerWithin {low high n : Int} {d : Datum}
    (h : integerWithin low high d = .valid n) : low ≤ n ∧ n ≤ high := by
  obtain ⟨m, hfrom, hm⟩ := Checked.andThen_eq_valid_iff.1 h
  split at hm
  · cases hm
  · cases hm
    exact ⟨le_of_integerFrom hfrom, by omega⟩

theorem number_int_eq_valid_iff {n : Int} {x : Binary64} :
    number (.int n) = .valid x ↔ Binary64.ofInt? n = some x := by
  rw [number]
  cases Binary64.ofInt? n <;> simp [Checked.complain]

/-- An integer within bounds is read as itself. -/
theorem eq_of_integerWithin {low high n m : Int} (h : integerWithin low high (.int n) = .valid m) :
    n = m := by
  obtain ⟨k, hfrom, hk⟩ := Checked.andThen_eq_valid_iff.1 h
  obtain ⟨j, hj, hlow⟩ := Checked.andThen_eq_valid_iff.1 hfrom
  obtain rfl : n = j := Checked.valid.inj hj
  split at hlow
  · cases hlow
  split at hk
  · cases hk
  obtain rfl := Checked.valid.inj hlow
  exact Checked.valid.inj hk

/-! ## Fields and texts -/

section

variable {fs : Fields} {key : String} {item : Datum → Checked α} {a : α}

theorem required_eq_valid_iff :
    required fs key item = .valid a ↔ ∃ d, Fields.get? fs key = some d ∧ item d = .valid a := by
  unfold required
  cases Fields.get? fs key <;> simp [Checked.inside_eq_valid_iff]

theorem optional_of_some {d : Datum} {default : α} (hd : Fields.get? fs key = some d)
    (h : optional fs key default item = .valid a) : item d = .valid a := by
  rw [optional, hd] at h
  exact Checked.inside_eq_valid_iff.1 h

theorem optional_of_get? {d : Datum} {default : α} (hd : Fields.get? fs key = some d)
    (h : item d = .valid a) : optional fs key default item = .valid a := by
  rw [optional, hd]
  exact Checked.inside_eq_valid_iff.2 h

theorem optional_of_none {default : α} (hd : Fields.get? fs key = none)
    (h : optional fs key default item = .valid a) : a = default := by
  rw [optional, hd] at h
  cases h
  rfl

end

theorem text_eq_valid_iff {d : Datum} {s : String} : text d = .valid s ↔ d = .text s := by
  cases d <;> simp [text, Checked.complain]

theorem filledText_eq_valid_iff {d : Datum} {s : String} :
    filledText d = .valid s ↔ d = .text s ∧ s ≠ "" := by
  rw [filledText, Checked.andThen_eq_valid_iff]
  constructor
  · rintro ⟨t, ht, hs⟩
    split at hs
    · cases hs
    · next hne =>
      cases hs
      exact ⟨text_eq_valid_iff.1 ht, hne⟩
  · rintro ⟨rfl, hne⟩
    exact ⟨s, rfl, if_neg hne⟩

/-- A value that may be null is read back, if its reader reads back what is not null. -/
theorem nullable_ofOption {β : Type} {f : β → Datum} {read : Datum → Checked β}
    (hread : ∀ b, read (f b) = .valid b) (hnull : ∀ b, f b ≠ .null) (o : Option β) :
    nullable read (.ofOption f o) = .valid o := by
  cases o with
  | none => rfl
  | some b =>
    have : nullable read (f b) = (read (f b)).map some := by
      unfold nullable
      split
      · next h => exact absurd h (hnull b)
      · rfl
    simpa [Datum.ofOption, hread, Checked.map] using this

theorem nullable_text_ofOption (o : Option String) :
    nullable text (.ofOption .text o) = .valid o :=
  nullable_ofOption (f := Datum.text) (fun _ => rfl) (fun _ => by simp) o

theorem nullable_integer_ofOption (o : Option Int) :
    nullable integer (.ofOption .int o) = .valid o :=
  nullable_ofOption (f := Datum.int) (fun _ => rfl) (fun _ => by simp) o

end TaskSieve.Schema
