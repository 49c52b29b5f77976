import TaskSieve.Proofs.Filter.Viability

set_option autoImplicit false

/-! # What is found at a mistake

An error about an unexpected token gives the text of the token that stands at its place, and an
empty text at the end of the input. A quoted literal without characters has an empty text too, so
for such a literal the words of the error speak of the end of the input wherever it stands; every
other token has characters: `found_eq_empty_iff`. -/

namespace TaskSieve.Filter

open Grammar

/-! ## Errors about tokens

The readers of tokens report a token that they were given, or the end. -/

/-- What may be reported of tokens that end at `stop`: the end, one of the tokens, or a word that is
the name of no field. -/
inductive Reported (stop : Nat) (ts : List Token) : ParseError → Prop
  | ending {wanted : Wanted} : Reported stop ts ⟨.unexpected "" wanted, stop⟩
  | token {t : Token} {wanted : Wanted} (mem : t ∈ ts) :
      Reported stop ts ⟨.unexpected t.lexeme.text wanted, t.position⟩
  | unknown {name : String} {position : Nat} (mem : ⟨.word name, position⟩ ∈ ts) :
      Reported stop ts ⟨.unknownField name, position⟩

theorem Reported.mono {stop : Nat} {ts ts' : List Token} {e : ParseError} (h : Reported stop ts e)
    (sub : ts ⊆ ts') : Reported stop ts' e := by
  cases h with
  | ending => exact .ending
  | token mem => exact .token (sub mem)
  | unknown mem => exact .unknown (sub mem)

theorem reported_of_unexpected {α : Type} {stop : Nat} {ts : List Token} {wanted : Wanted}
    {e : ParseError} (h : unexpected (α := α) stop ts wanted = .error e) : Reported stop ts e := by
  cases ts with
  | nil =>
    obtain rfl := Except.error.inj h
    exact .ending
  | cons t ts =>
    obtain rfl := Except.error.inj h
    exact .token List.mem_cons_self

theorem Literal.reported_of_items {stop : Nat} {ts : List Token} {e : ParseError}
    (h : itemsOfTokens stop ts = .error e) : Reported stop ts e := by
  fun_induction itemsOfTokens stop ts with
  | case1 s v p p' ts ih =>
    rcases bind_eq_error_iff.1 h with h | ⟨a, -, h⟩
    · exact (ih h).mono fun _ ht => .tail _ (.tail _ ht)
    · exact absurd h (by simp)
  | case2 s v p p' ts => exact absurd h (by simp)
  | case3 s v p ts => exact (reported_of_unexpected h).mono (List.subset_cons_self _ _)
  | case4 ts => exact reported_of_unexpected h

theorem Literal.reported_of_error {stop : Nat} {ts : List Token} {e : ParseError}
    (h : ofTokens stop ts = .error e) : Reported stop ts e := by
  unfold ofTokens at h
  split at h
  · next p ts =>
    rcases bind_eq_error_iff.1 h with h | ⟨a, -, h⟩
    · exact (reported_of_items h).mono (List.subset_cons_self _ _)
    · exact absurd h (by simp)
  · exact absurd h (by simp)
  · exact reported_of_unexpected h

theorem Condition.reported_of_error {stop : Nat} {ts : List Token} {e : ParseError}
    (h : ofTokens stop ts = .error e) : Reported stop ts e := by
  unfold ofTokens at h
  split at h
  · next name p ts =>
    split at h
    · obtain rfl := Except.error.inj h
      exact .unknown List.mem_cons_self
    · split at h
      · next op p' ts =>
        rcases bind_eq_error_iff.1 h with h | ⟨a, -, h⟩
        · exact (Literal.reported_of_error h).mono fun _ ht => .tail _ (.tail _ ht)
        · exact absurd h (by simp)
      · exact (reported_of_unexpected h).mono (List.subset_cons_self _ _)
  · exact reported_of_unexpected h

theorem Expr.reported_of_chain {stop : Nat} {left : Expr} {ts : List Token} {e : ParseError}
    (h : chainOfTokens stop left ts = .error e) : Reported stop ts e := by
  fun_induction chainOfTokens stop left ts with
  | case1 left => exact absurd h (by simp)
  | case2 left k p ts e' hcondition =>
    obtain rfl := Except.error.inj h
    exact (Condition.reported_of_error hcondition).mono (List.subset_cons_self _ _)
  | case3 left k p ts c rest hcondition ih =>
    -- the tokens behind a condition are among those that it was read from
    obtain ⟨front, -, rfl⟩ := conditionOfTokens_eq_ok_iff.1 hcondition
    exact (ih h).mono fun _ ht => .tail _ (List.mem_append_right front ht)
  | case4 left ts => exact reported_of_unexpected h

theorem Expr.reported_of_error {stop : Nat} {ts : List Token} {e : ParseError} (hts : ts ≠ [])
    (h : ofTokens stop ts = .error e) : Reported stop ts e := by
  cases hcondition : Condition.ofTokens stop ts with
  | error e' =>
    obtain ⟨t, ts, rfl⟩ := List.exists_cons_of_ne_nil hts
    simp only [ofTokens, hcondition, bind, Except.bind] at h
    obtain rfl := Except.error.inj h
    exact Condition.reported_of_error hcondition
  | ok r =>
    obtain ⟨c, rest⟩ := r
    rw [ofTokens_eq hcondition] at h
    obtain ⟨front, -, rfl⟩ := conditionOfTokens_eq_ok_iff.1 hcondition
    exact (reported_of_chain h).mono (List.subset_append_right _ _)

/-! ## Places of tokens -/

/-- The reading of a token at a place of a text, in one of the modes. -/
def ReadsAt (cs : List Char) (position : Nat) (result : Lexeme.Read) : Prop :=
  ∃ mode c rest, cs.drop position = c :: rest ∧ isGap c = false ∧ Lexeme.read mode c rest = result

theorem ReadsAt.lt_length {cs : List Char} {position : Nat} {result : Lexeme.Read}
    (h : ReadsAt cs position result) : position < cs.length := by
  obtain ⟨mode, c, rest, hdrop, -⟩ := h
  rw [← Nat.not_le, ← List.drop_eq_nil_iff, hdrop]
  exact List.cons_ne_nil c rest

namespace Scan

theorem stop_of_no_fault {total : Nat} {mode : Mode} {cs : List Char}
    (h : (scan total mode cs).fault = none) : (scan total mode cs).stop = total := by
  fun_induction scan total mode cs with
  | case1 => rfl
  | case2 => exact absurd h (by simp)
  | case3 mode cs c tail hcs position l rest' hread later ih => exact ih h

/-- Each token of a scan is read at its place, and what stopped the scan at the place where it
stopped. -/
theorem readsAt {text cs : List Char} (mode : Mode) (suffix : cs <:+ text) :
    (∀ t ∈ (scan text.length mode cs).tokens, ∃ r, ReadsAt text t.position (.ok (t.lexeme, r))) ∧
      ∀ fault, (scan text.length mode cs).fault = some fault →
        ReadsAt text (scan text.length mode cs).stop (.error fault) := by
  fun_induction scan text.length mode cs with
  | case1 => exact ⟨by simp, by simp⟩
  | case2 mode cs c tail hcs position fault hread =>
    have here : c :: tail <:+ text := hcs ▸ (List.dropWhile_suffix isGap).trans suffix
    have hdrop : text.drop position = c :: tail := (List.suffix_iff_eq_drop.1 here).symm
    refine ⟨by simp, ?_⟩
    rintro _ ⟨⟩
    exact ⟨mode, c, tail, hdrop, Lexeme.isGap_of_dropWhile hcs, hread⟩
  | case3 mode cs c tail hcs position l rest' hread later ih =>
    have here : c :: tail <:+ text := hcs ▸ (List.dropWhile_suffix isGap).trans suffix
    have hdrop : text.drop position = c :: tail := (List.suffix_iff_eq_drop.1 here).symm
    have hc := Lexeme.isGap_of_dropWhile hcs
    obtain ⟨taken, rfl, -⟩ := Lexeme.exists_taken_of_read hc hread
    obtain ⟨tokens, fault⟩ := ih ((List.suffix_append (c :: taken) rest').trans here)
    refine ⟨fun t ht => ?_, fault⟩
    rcases List.mem_cons.1 ht with rfl | ht
    · exact ⟨rest', mode, c, _, hdrop, hc, hread⟩
    · exact tokens t ht

end Scan

/-! ## Tokens without text -/

/-- A quoted literal without characters stands at the start of a text. -/
def StartsWithEmptyLiteral (cs : List Char) : Prop :=
  ∃ quote rest, isQuote quote = true ∧ cs = quote :: quote :: rest

theorem isQuote_of_startsWithEmptyLiteral {c : Char} {rest : List Char}
    (h : StartsWithEmptyLiteral (c :: rest)) : isQuote c = true := by
  obtain ⟨quote, rest', mark, h⟩ := h
  exact (List.cons.inj h).1 ▸ mark

namespace Lexeme

theorem text_ne_empty_of_isMark {l : Lexeme} (h : l.IsMark) : l.text ≠ "" := by
  match l, h with
  | opening, _ => decide
  | closing, _ => decide
  | comma, _ => decide
  | combinator .and, _ => decide
  | combinator .or, _ => decide

theorem text_ne_empty_of_symbols {c : Char} {rest r : List Char} {l : Lexeme}
    (hc : isSymbol c = true) (h : readSymbols (c :: rest) = .ok (l, r)) : l.text ≠ "" := by
  obtain ⟨rfl, -⟩ := Prod.mk.inj (Except.ok.inj h)
  exact mt String.ofList_eq_empty_iff.1 (run_takeWhile rest hc).ne_nil

theorem text_ne_empty_of_bare {c : Char} {rest r : List Char} {l : Lexeme}
    (hc : isBare c = true) (h : readBare (c :: rest) = .ok (l, r)) : l.text ≠ "" := by
  obtain ⟨rfl, -⟩ := Prod.mk.inj (Except.ok.inj h)
  exact mt String.ofList_eq_empty_iff.1 (run_takeWhile rest hc).ne_nil

/-- A quoted literal has no characters exactly if its quotes stand next to each other. -/
theorem text_readQuoted_iff {quote : Char} {rest r : List Char} {l : Lexeme}
    (mark : isQuote quote = true) (h : readQuoted quote rest = .ok (l, r)) :
    l.text = "" ↔ StartsWithEmptyLiteral (quote :: rest) := by
  unfold readQuoted at h
  split at h
  · next s r' hrest =>
    obtain ⟨rfl, rfl⟩ := Prod.mk.inj (Except.ok.inj h)
    obtain ⟨body, inside, rfl⟩ := (quotedRest?_eq_some_iff (ne_backslash_of_isQuote mark)).1 hrest
    cases inside with
    | nil => exact iff_of_true rfl ⟨quote, r', mark, rfl⟩
    | plain open_ bare tail =>
      refine iff_of_false (mt String.ofList_eq_empty_iff.1 (List.cons_ne_nil _ _)) ?_
      rintro ⟨q, rest, -, heq⟩
      obtain ⟨rfl, heq⟩ := List.cons.inj heq
      exact open_ (List.cons.inj heq).1
    | escaped tail =>
      refine iff_of_false (mt String.ofList_eq_empty_iff.1 (List.cons_ne_nil _ _)) ?_
      rintro ⟨q, rest, -, heq⟩
      obtain ⟨rfl, heq⟩ := List.cons.inj heq
      exact ne_backslash_of_isQuote mark (List.cons.inj heq).1.symm
  · exact absurd h (by simp)

/-- Every token that is no quoted literal has characters. -/
theorem text_ne_empty {mode : Mode} {c : Char} {rest r : List Char} {l : Lexeme}
    (hgap : isGap c = false) (hquote : isQuote c = false) (h : read mode c rest = .ok (l, r)) :
    l.text ≠ "" := by
  by_cases hmark : isMark c = true
  · rw [read_of_isMark hmark] at h
    exact text_ne_empty_of_isMark (readMark_eq_ok_iff.1 h).1
  rw [Bool.not_eq_true] at hmark
  have bare (hsymbol : ¬ isSymbol c = true) : isBare c = true :=
    isBare_iff.2 ⟨hgap, hquote, by simpa using hsymbol, hmark⟩
  cases mode with
  | general =>
    simp only [read, readGeneral, hmark, hquote, Bool.false_eq_true, if_false] at h
    split at h
    · next hsymbol => exact text_ne_empty_of_symbols hsymbol h
    next hsymbol =>
    split at h
    · obtain ⟨rfl, -⟩ := Prod.mk.inj (Except.ok.inj h)
      exact mt String.ofList_eq_empty_iff.1 (List.cons_ne_nil _ _)
    · exact text_ne_empty_of_bare (bare hsymbol) h
  | operator =>
    obtain ⟨op, rfl⟩ := operator_of_readOperator hmark h
    cases op <;> decide
  | value =>
    simp only [read, readValue, hmark, hquote, Bool.false_eq_true, if_false] at h
    split at h
    · next hsymbol => exact text_ne_empty_of_symbols hsymbol h
    · next hsymbol => exact text_ne_empty_of_bare (bare hsymbol) h

/-- Where a quote stands, a quoted literal is read or nothing. -/
theorem readQuoted_of_isQuote {mode : Mode} {c : Char} {rest r : List Char} {l : Lexeme}
    (mark : isQuote c = true) (h : read mode c rest = .ok (l, r)) :
    readQuoted c rest = .ok (l, r) := by
  have hmark : isMark c = false := by
    rw [← Bool.not_eq_true]
    exact fun hmark => absurd mark (by simp [isQuote_of_isMark hmark])
  cases mode with
  | general => simpa only [read, readGeneral, hmark, mark, if_true, Bool.false_eq_true, if_false]
      using h
  | operator =>
    simp only [isQuote, Bool.or_eq_true, beq_iff_eq] at mark
    have refused : read .operator c rest = .error (.unknownOperator (String.singleton c)) := by
      rcases mark with rfl | rfl <;> rfl
    exact absurd (refused.symm.trans h) (by simp)
  | value => simpa only [read, readValue, mark, if_true] using h

/-- Only a quoted literal without characters is a token without text. -/
theorem text_eq_empty_iff {mode : Mode} {c : Char} {rest r : List Char} {l : Lexeme}
    (hgap : isGap c = false) (h : read mode c rest = .ok (l, r)) :
    l.text = "" ↔ StartsWithEmptyLiteral (c :: rest) := by
  cases hquote : isQuote c with
  | false =>
    refine iff_of_false (text_ne_empty hgap hquote h) fun hempty => ?_
    exact absurd (isQuote_of_startsWithEmptyLiteral hempty) (by simp [hquote])
  | true => exact text_readQuoted_iff hquote (readQuoted_of_isQuote hquote h)

/-- A token that is unexpected before it is read at all is half of a combinator. -/
theorem found_of_unexpected {mode : Mode} {c : Char} {rest : List Char} {found : String}
    {wanted : Wanted} (h : read mode c rest = .error (.unexpected found wanted)) :
    isMark c = true ∧ found = String.singleton c := by
  by_cases hmark : isMark c = true
  · rw [read_of_isMark hmark] at h
    refine ⟨hmark, ?_⟩
    unfold readMark at h
    split at h
    case h_6 => exact (ParseFault.unexpected.inj (Except.error.inj h)).1.symm
    all_goals exact absurd h (by simp)
  · -- all other characters start a token, or one that is wrong in another way
    rw [Bool.not_eq_true] at hmark
    refine absurd h ?_
    cases mode with
    | general =>
      simp only [read, readGeneral, hmark, readQuoted, readSymbols, readBare]
      grind
    | operator =>
      simp only [read, readOperator, hmark, readNegated]
      grind
    | value =>
      simp only [read, readValue, hmark, readQuoted, readSymbols, readBare]
      grind

end Lexeme

/-! ## Errors about texts -/

/-- What the tokens of a text are refused for as unexpected: their end, or one that is read at the
place of the error. -/
theorem Scan.unexpected_of_tokens {cs : List Char} {found : String} {wanted : Wanted}
    {position : Nat} (hts : (ofText cs).tokens ≠ [])
    (h : Expr.ofTokens (ofText cs).stop (ofText cs).tokens =
      .error ⟨.unexpected found wanted, position⟩) :
    found = "" ∧ position = (ofText cs).stop ∨
      ∃ l r, ReadsAt cs position (.ok (l, r)) ∧ found = l.text := by
  cases Expr.reported_of_error hts h with
  | ending => exact .inl ⟨rfl, rfl⟩
  | @token t _ mem =>
    obtain ⟨r, reads⟩ := (readsAt .general (List.suffix_refl cs)).1 t mem
    exact .inr ⟨t.lexeme, r, reads, rfl⟩

/-- What is unexpected in a text: its end, or a token of it, or half a combinator. -/
theorem unexpected_cases {cs : List Char} {found : String} {wanted : Wanted} {position : Nat}
    (short : (Scan.ofText cs).overlong? = none)
    (h : Expr.ofText cs = .error ⟨.unexpected found wanted, position⟩) :
    found = "" ∧ position = cs.length ∨
      (∃ l r, ReadsAt cs position (.ok (l, r)) ∧ found = l.text) ∨
      ReadsAt cs position (.error (.unexpected found wanted)) := by
  unfold Expr.ofText at h
  split at h
  · exact absurd h (by simp)
  cases hfault : (Scan.ofText cs).fault with
  | none =>
    unfold Expr.ofScan at h
    rw [hfault] at h
    dsimp only at h
    have hts : (Scan.ofText cs).tokens ≠ [] := by
      intro hnil
      rw [hnil] at h
      exact absurd h (by simp [Expr.ofTokens])
    rcases Scan.unexpected_of_tokens hts h with ⟨hfound, hposition⟩ | token
    · exact .inl ⟨hfound, hposition.trans (Scan.stop_of_no_fault hfault)⟩
    · exact .inr (.inl token)
  | some fault =>
    rcases Scan.error_of_fault short hfault h with ⟨heq, -⟩ | ⟨hts, htokens, hlt⟩
    · obtain ⟨rfl, rfl⟩ := ParseError.mk.inj heq
      exact .inr (.inr ((Scan.readsAt .general (List.suffix_refl cs)).2 _ hfault))
    · -- the end of the tokens before an unreadable one is not reported
      rcases Scan.unexpected_of_tokens hts htokens with ⟨-, hposition⟩ | token
      · exact absurd hposition (Nat.ne_of_lt hlt)
      · exact .inr (.inl token)

theorem ParseFault.summary_unexpected (found : String) (wanted : Wanted) :
    summary (.unexpected found wanted) =
      "Unexpected " ++ (if found = "" then "end of input" else "'" ++ found ++ "'") ++
        ", expected one of: " ++ ", ".intercalate wanted.texts := rfl

/-- The words of an error speak of the end of the input exactly if its text is empty. -/
theorem message_ending_iff (found : String) (wanted : Wanted) (position : Nat) :
    "Unexpected end of input".toList <+:
        (ParseError.message ⟨.unexpected found wanted, position⟩).toList ↔ found = "" := by
  have opening : "Unexpected end of input" = "Unexpected " ++ "end of input" := by decide
  rw [ParseError.message, ParseFault.summary_unexpected, opening]
  simp only [String.toList_append, List.append_assoc, List.prefix_append_right_inj]
  split
  · next hempty => exact iff_of_true (List.prefix_append _ _) hempty
  · next hfound =>
    -- a text that is not empty is shown between quotes
    refine iff_of_false (fun h => ?_) hfound
    simp only [String.toList_append, List.append_assoc] at h
    exact absurd (List.cons_prefix_cons.1 h).1 (by decide)

/-- An error about an unexpected token has an empty text exactly at the end of the text that was
read and where a quoted literal without characters stands, and then its words speak of the end of
the input. -/
theorem found_eq_empty_iff {s found : String} {wanted : Wanted} {position : Nat}
    (h : Expr.read s = .error (.malformed ⟨.unexpected found wanted, position⟩)) :
    (found = "" ↔ position = s.length ∨ StartsWithEmptyLiteral (s.toList.drop position)) ∧
      ("Unexpected end of input".toList <+:
        (ParseError.message ⟨.unexpected found wanted, position⟩).toList ↔ found = "") := by
  refine ⟨?_, message_ending_iff found wanted position⟩
  obtain ⟨short, h⟩ := Expr.read_eq_malformed_iff.1 h
  rw [← String.length_toList]
  rcases unexpected_cases short h with ⟨hfound, hposition⟩ | ⟨l, r, reads, rfl⟩ | reads
  · exact iff_of_true hfound (.inl hposition)
  · have hne : position ≠ s.toList.length := Nat.ne_of_lt reads.lt_length
    obtain ⟨mode, c, rest, hdrop, hgap, hread⟩ := reads
    rw [hdrop, or_iff_right hne]
    exact Lexeme.text_eq_empty_iff hgap hread
  · have hne : position ≠ s.toList.length := Nat.ne_of_lt reads.lt_length
    obtain ⟨mode, c, rest, hdrop, -, hread⟩ := reads
    obtain ⟨mark, rfl⟩ := Lexeme.found_of_unexpected hread
    rw [hdrop, or_iff_right hne]
    refine iff_of_false (mt String.ofList_eq_empty_iff.1 (List.cons_ne_nil c [])) fun hempty => ?_
    exact absurd (isQuote_of_startsWithEmptyLiteral hempty)
      (by simp [Lexeme.isQuote_of_isMark mark])

/-- The empty literal where a field is wanted is not at the end of the text, but it is reported in
the same words. -/
theorem found_eq_empty_iff_of_literal :
    Expr.read "labels in (1, '') && '' = 1" = .error (.malformed ⟨.unexpected "" .field, 21⟩) ∧
      21 < "labels in (1, '') && '' = 1".length ∧
      StartsWithEmptyLiteral ("labels in (1, '') && '' = 1".toList.drop 21) ∧
      "Unexpected end of input".toList <+:
        (ParseError.message ⟨.unexpected "" .field, 21⟩).toList := by
  have refused : Expr.read "labels in (1, '') && '' = 1" =
      .error (.malformed ⟨.unexpected "" .field, 21⟩) := by
    decide +kernel
  have inside : 21 < "labels in (1, '') && '' = 1".length := by decide
  obtain ⟨place, words⟩ := found_eq_empty_iff refused
  exact ⟨refused, inside, (place.1 rfl).resolve_left (Nat.ne_of_lt inside), words.2 rfl⟩

end TaskSieve.Filter
