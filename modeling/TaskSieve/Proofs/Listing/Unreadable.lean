import TaskSieve.Listing.Run
import TaskSieve.Proofs.Except

set_option autoImplicit false

/-! # Listings by unreadable filters

A listing fails as unreadable for one reason only: the text that its filter comes down to, given
with the call or saved, cannot be read. -/

namespace TaskSieve.Listing

open Schema TaskSieve.Filter Remote

/-- Whether an error says that a filter cannot be read. -/
def ListingError.IsUnreadable (e : ListingError) : Prop := ∃ p, e = .refused (.unreadable p)

/-- Only an unreadable filter is reported as one. -/
theorem ListingError.kind_eq_parse_error_iff {e : ListingError} :
    e.kind = "parse_error" ↔ e.IsUnreadable := by
  constructor
  · intro h
    cases e with
    | refused refusal =>
      cases refusal with
      | unreadable p => exact ⟨p, rfl⟩
      | rejected _ | overlong _ | fault _ => exact absurd h (by simp [kind])
    | api failure =>
      cases hkind : failure.kind <;> exact absurd h (by simp [kind, hkind, apiReport])
    | badArguments _ | unknownFilter _ | badSort _ | unfetched _ | unordered =>
      exact absurd h (by simp [kind])
  · rintro ⟨p, rfl⟩
    rfl

variable {now : Calendar.Stamp} {store : Store} {q : Query} {e : ListingError}

theorem not_isUnreadable_of_sortKeys (h : sortKeys q = .error e) : ¬ e.IsUnreadable := by
  rintro ⟨p, rfl⟩
  unfold sortKeys at h
  split at h
  · cases h
  next s _ =>
  cases hkeys : SortKey.ofText s <;> rw [hkeys] at h <;> cases h

theorem not_isUnreadable_of_source (h : source store q = .error e) : ¬ e.IsUnreadable := by
  rintro ⟨p, rfl⟩
  unfold source at h
  split at h
  · cases h
  split at h <;> cases h

theorem unreadable_of_accept {text : String} {p : ParseError}
    (h : accept now text = .error (.unreadable p)) : Expr.read text = .error (.malformed p) := by
  unfold accept at h
  split at h
  · next e hread =>
    cases e with
    | malformed p =>
      cases h
      exact hread
    | overlong o => cases h
  split at h
  · next fault hcheck => cases fault <;> cases h
  split at h <;> cases h

/-- A listing that cannot be prepared because its filter is unreadable has an unreadable text. -/
theorem exists_of_plan (h : plan now store q = .error e) (he : e.IsUnreadable) :
    ∃ origin text p, source store q = .ok origin ∧ origin.text? = some text ∧
      Expr.read text = .error (.malformed p) := by
  rcases bind_eq_error_iff.1 h with hsort | ⟨keys, -, h⟩
  · exact absurd he (not_isUnreadable_of_sortKeys hsort)
  rcases bind_eq_error_iff.1 h with hsource | ⟨origin, hsource, h⟩
  · exact absurd he (not_isUnreadable_of_source hsource)
  split at h
  · cases h
  next text htext =>
  obtain ⟨p, rfl⟩ := he
  cases haccept : accept now text with
  | error refusal =>
    rw [haccept] at h
    cases h
    exact ⟨origin, text, p, hsource, htext, unreadable_of_accept haccept⟩
  | ok accepted =>
    rw [haccept] at h
    cases h

/-- A listing that was prepared does not fail because of its filter. -/
theorem run_ne_refused {α : Type} [Measure α] {client : Client α} {settings : Fallback}
    {p : Plan} {c : Connection α} {refusal : Refusal} :
    (p.run client settings now c).1 ≠ .error (.refused refusal) := by
  intro h
  unfold Plan.run at h
  split at h
  · cases h
  · cases h
  · cases h
  · next expr _ _ _ _ =>
    unfold Plan.runLocally at h
    split at h
    · cases h
    · next fetched _ _ =>
      unfold Plan.selectLocally at h
      cases hsorted : Task.sortBy? p.keys (fetched.filter fun t => expr.matches now t.toFields) <;>
        rw [hsorted] at h <;> cases h

/-- A listing that is answered with a parse error asks for a filter whose text cannot be read. -/
theorem exists_of_parse_error {α : Type} [Measure α] {client : Client α} {settings : Fallback}
    {arguments : Fields} {c : Connection α}
    (h : (ListingRun.ofCall client settings now store arguments c).answer = .error e)
    (hkind : e.kind = "parse_error") :
    ∃ q origin text p, Query.ofFields arguments = .valid q ∧ source store q = .ok origin ∧
      origin.text? = some text ∧ Expr.read text = .error (.malformed p) := by
  have he := ListingError.kind_eq_parse_error_iff.1 hkind
  unfold ListingRun.ofCall at h
  split at h
  · cases h
    obtain ⟨p, hp⟩ := he
    cases hp
  next q hquery =>
  have hproduce : (produce client settings now store q c).1 = .error e := h
  unfold produce at hproduce
  split at hproduce
  · next hplan =>
    cases hproduce
    obtain ⟨origin, text, p, hsource, htext, hread⟩ := exists_of_plan hplan he
    exact ⟨q, origin, text, p, hquery, hsource, htext, hread⟩
  · obtain ⟨p, rfl⟩ := he
    exact absurd hproduce run_ne_refused

end TaskSieve.Listing
