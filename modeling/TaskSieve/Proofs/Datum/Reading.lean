import TaskSieve.Proofs.Datum.Writing

set_option autoImplicit false

/-! # What is read can be written

Whatever a JSON text holds is a plain value: `plain_of_read`. Its integers had few enough digits,
its other numbers were rounded, so they are in normal form, and of two fields with one key only the
later value is kept. So a value that was read is read back from its text, whatever the text was
that it came from. -/

namespace TaskSieve

namespace Fields

theorem mem_put {fields : Fields} {key : String} {v : Datum} {f : String × Datum}
    (h : f ∈ put fields key v) : f ∈ fields ∨ f.2 = v := by
  induction fields with
  | nil => exact .inr (List.mem_singleton.1 h ▸ rfl)
  | cons g rest ih =>
    rw [put] at h
    split at h
    · rcases List.mem_cons.1 h with rfl | h
      · exact .inr rfl
      · exact .inl (List.mem_cons_of_mem _ h)
    · rcases List.mem_cons.1 h with rfl | h
      · exact .inl List.mem_cons_self
      · exact (ih h).imp_left (List.mem_cons_of_mem _)

/-- Fields set one after another have each key once and none but the given values. -/
theorem ofList_spec (entries : List (String × Datum)) :
    ((ofList entries).map Prod.fst).Nodup ∧ ∀ f ∈ ofList entries, ∃ e ∈ entries, f.2 = e.2 := by
  induction entries using List.reverseRecOn with
  | nil => exact ⟨List.nodup_nil, by simp [ofList]⟩
  | append_singleton entries e ih =>
    have heq : ofList (entries ++ [e]) = (ofList entries).put e.1 e.2 := by
      simp [ofList]
    rw [heq]
    refine ⟨nodup_put _ _ ih.1, fun f hf => ?_⟩
    rcases mem_put hf with hf | hf
    · obtain ⟨e', he', heq'⟩ := ih.2 f hf
      exact ⟨e', List.mem_append_left _ he', heq'⟩
    · exact ⟨e, by simp, hf⟩

end Fields

namespace Datum

open Reader

theorem ReadFault.wanted_eq_ok_iff {α : Type} {found : Option α} {a : α} :
    wanted found = .ok a ↔ found = some a := by
  cases found <;> simp [wanted]

/-- A number is a short integer or was rounded. -/
theorem plain_of_number {negative : Bool} {cs rest : List Char} {d : Datum}
    (h : number negative cs = .ok (d, rest)) : d.Plain := by
  rw [number] at h
  split at h
  next whole behind _ =>
  split at h
  · cases h
  · next hne =>
    dsimp only at h
    split at h
    · obtain ⟨short, heq⟩ := Overlong.guard_eq_ok_iff.1 (mapError_eq_ok_iff.1 h)
      obtain ⟨rfl, -⟩ := Prod.mk.inj heq
      exact .int (Overlong.ofInt?_digitsValue (by simpa using hne) short negative)
    · cases h
      exact .num (Decimal.canonical_toBinary64 _)

theorem plain_of_atom {cs rest : List Char} {d : Datum} (h : atom cs = .ok (d, rest)) :
    d.Plain := by
  have named {word : String} {d' : Datum}
      (h : ReadFault.wanted ((word? word cs).map fun rest => (d', rest)) = .ok (d, rest))
      (hplain : d'.Plain) : d.Plain := by
    obtain ⟨_, -, heq⟩ := Option.map_eq_some_iff.1 (ReadFault.wanted_eq_ok_iff.1 h)
    obtain ⟨rfl, -⟩ := Prod.mk.inj heq
    exact hplain
  unfold atom at h
  split at h
  · exact named h .null
  · exact named h (.bool true)
  · exact named h (.bool false)
  · exact named h (.num trivial)
  · exact named h (.num trivial)
  · exact named h (.num trivial)
  · exact plain_of_number h
  · exact plain_of_number h

/-- What the three readers of values take within a number of steps is plain. -/
structure ReadsPlain (fuel : Nat) : Prop where
  value : ∀ cs d rest, value fuel cs = .ok (d, rest) → d.Plain
  items : ∀ cs ds rest, items fuel cs = .ok (ds, rest) → ∀ d ∈ ds, d.Plain
  entries : ∀ cs es rest, entries fuel cs = .ok (es, rest) → ∀ e ∈ es, e.2.Plain

theorem plain_record {entries : List (String × Datum)} (h : ∀ e ∈ entries, e.2.Plain) :
    (Datum.record (Fields.ofList entries)).Plain := by
  obtain ⟨keys, values⟩ := Fields.ofList_spec entries
  refine .record keys fun f hf => ?_
  obtain ⟨e, he, heq⟩ := values f hf
  exact heq ▸ h e he

theorem ReadsPlain.value_succ {fuel : Nat} (h : ReadsPlain fuel) (cs : List Char) (d : Datum)
    (rest : List Char) (hread : Reader.value (fuel + 1) cs = .ok (d, rest)) : d.Plain := by
  unfold Reader.value at hread
  split at hread
  · cases ‹fuel + 1 = 0›
  · obtain ⟨s, -, heq⟩ := Option.map_eq_some_iff.1 (ReadFault.wanted_eq_ok_iff.1 hread)
    obtain ⟨rfl, -⟩ := Prod.mk.inj heq
    exact .text _
  · next heq =>
    obtain rfl := Nat.succ.inj heq
    split at hread
    · cases hread
      exact .list (by simp)
    · obtain ⟨r, hitems, heq⟩ := map_eq_ok_iff.1 hread
      obtain ⟨rfl, -⟩ := Prod.mk.inj heq
      exact .list (h.items _ _ _ hitems)
  · next heq =>
    obtain rfl := Nat.succ.inj heq
    split at hread
    · cases hread
      exact .record List.nodup_nil (by simp)
    · obtain ⟨r, hentries, heq⟩ := map_eq_ok_iff.1 hread
      obtain ⟨rfl, -⟩ := Prod.mk.inj heq
      exact plain_record (h.entries _ _ _ hentries)
  · exact plain_of_atom hread

theorem ReadsPlain.items_succ {fuel : Nat} (h : ReadsPlain fuel) (cs : List Char)
    (ds : List Datum) (rest : List Char) (hread : Reader.items (fuel + 1) cs = .ok (ds, rest)) :
    ∀ d ∈ ds, d.Plain := by
  rw [Reader.items] at hread
  obtain ⟨⟨item, behind⟩, hitem, hread⟩ := bind_eq_ok_iff.1 hread
  have hplain := h.value _ _ _ hitem
  dsimp only at hread
  split at hread
  · cases hread
    exact fun d hd => List.mem_singleton.1 hd ▸ hplain
  · obtain ⟨⟨more, behind⟩, hmore, heq⟩ := bind_eq_ok_iff.1 hread
    cases heq
    exact List.forall_mem_cons.2 ⟨hplain, h.items _ _ _ hmore⟩
  · cases hread

theorem ReadsPlain.entries_succ {fuel : Nat} (h : ReadsPlain fuel) (cs : List Char)
    (es : List (String × Datum)) (rest : List Char)
    (hread : Reader.entries (fuel + 1) cs = .ok (es, rest)) : ∀ e ∈ es, e.2.Plain := by
  unfold Reader.entries at hread
  split at hread
  · obtain ⟨⟨key, behind⟩, -, hread⟩ := bind_eq_ok_iff.1 hread
    dsimp only at hread
    split at hread
    · obtain ⟨⟨item, behind⟩, hitem, hread⟩ := bind_eq_ok_iff.1 hread
      have hplain := h.value _ _ _ hitem
      dsimp only at hread
      split at hread
      · cases hread
        exact fun e he => List.mem_singleton.1 he ▸ hplain
      · obtain ⟨⟨more, behind⟩, hmore, heq⟩ := bind_eq_ok_iff.1 hread
        cases heq
        exact List.forall_mem_cons.2 ⟨hplain, h.entries _ _ _ hmore⟩
      · cases hread
    · cases hread
  · cases hread

theorem readsPlain (fuel : Nat) : ReadsPlain fuel := by
  induction fuel with
  | zero =>
    constructor
    · exact fun _ _ _ h => absurd h (by simp [Reader.value])
    · exact fun _ _ _ h => absurd h (by simp [Reader.items])
    · exact fun _ _ _ h => absurd h (by simp [Reader.entries])
  | succ fuel ih => exact ⟨ih.value_succ, ih.items_succ, ih.entries_succ⟩

/-- What a JSON text holds is plain, so it is read back when it is written again. -/
theorem plain_of_read {source : String} {d : Datum} (h : read source = .ok d) : d.Plain := by
  obtain ⟨⟨d', rest⟩, hread, h⟩ := bind_eq_ok_iff.1 h
  dsimp only at h
  split at h
  · cases h
    exact (readsPlain _).value _ _ _ hread
  · cases h

end Datum

end TaskSieve
