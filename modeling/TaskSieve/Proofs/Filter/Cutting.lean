import TaskSieve.Proofs.Filter.Lexing

set_option autoImplicit false

/-! # Texts that are cut between tokens

A token ends where a character stands that it cannot take. So the tokens before a place are read in
the same way if the text from there on is cut off and a blank follows instead, whatever comes behind
the blank: the rest is then read in the mode that the last of them leaves. -/

namespace TaskSieve.Filter

open Grammar

/-! ## One token -/

/-- What may stand behind a token in place of `r`: a blank, or what starts like `r`. -/
def Closes (r r' : List Char) : Prop := ∀ c ∈ r'.head?, c = ' ' ∨ c ∈ r.head?

theorem closes_cut (before after z : List Char) :
    Closes (before ++ after) (before ++ ' ' :: z) := by
  intro c hc
  cases before with
  | nil => exact .inl (Option.mem_some_iff.1 hc).symm
  | cons d rest => exact .inr hc

theorem Grammar.Run.closes {p : Char → Bool} {run r r' : List Char} (h : Run p run r)
    (blank : p ' ' = false) (hcloses : Closes r r') : Run p run r' where
  ne_nil := h.ne_nil
  all := h.all
  maximal := by
    intro c hc
    rcases hcloses c hc with rfl | hr
    · exact blank
    · exact h.maximal c hr

theorem Grammar.Word.closes {word : String} {run r r' : List Char} (h : Word word run r)
    (hcloses : Closes r r') : Word word run r' :=
  ⟨h.toRun.closes (by decide) hcloses, h.spells⟩

/-- An operator stays the same if what follows it is cut off. -/
theorem Grammar.OperatorText.closes {op : Operator} {t r : List Char} (h : OperatorText op t r) :
    ∃ taken, t = taken ++ r ∧ ∀ r', Closes r r' → OperatorText op (taken ++ r') r' := by
  cases h with
  | symbols known run =>
    exact ⟨_, rfl, fun r' hcloses => .symbols known (run.closes (by decide) hcloses)⟩
  | like word => exact ⟨_, rfl, fun r' hcloses => .like (word.closes hcloses)⟩
  | isIn word => exact ⟨_, rfl, fun r' hcloses => .isIn (word.closes hcloses)⟩
  | @notIn no g run _ first between second =>
    refine ⟨no ++ (g ++ run), by simp, fun r' hcloses => ?_⟩
    -- what stands behind the first word is not what is cut off
    have first' : Word "not" no (g ++ (run ++ r')) := by
      refine first.closes fun c hc => .inr ?_
      obtain ⟨d, ds, rfl⟩ := List.exists_cons_of_ne_nil second.ne_nil
      cases g with
      | nil => exact hc
      | cons e es => exact hc
    simpa using OperatorText.notIn first' between (second.closes hcloses)

namespace Lexeme

theorem exists_taken_of_mark {c : Char} {rest r : List Char} {l : Lexeme}
    (h : readMark c rest = .ok (l, r)) :
    ∃ taken, rest = taken ++ r ∧ ∀ r', readMark c (taken ++ r') = .ok (l, r') := by
  obtain ⟨hl, htext⟩ := readMark_eq_ok_iff.1 h
  obtain ⟨d, taken, hcons⟩ : ∃ d taken, l.text.toList = d :: taken := by
    match l, hl with
    | opening, _ => exact ⟨_, _, rfl⟩
    | closing, _ => exact ⟨_, _, rfl⟩
    | comma, _ => exact ⟨_, _, rfl⟩
    | combinator .and, _ => exact ⟨_, _, rfl⟩
    | combinator .or, _ => exact ⟨_, _, rfl⟩
  rw [hcons] at htext
  obtain ⟨rfl, rfl⟩ := List.cons.inj htext
  exact ⟨taken, rfl, fun r' => readMark_eq_ok_iff.2 ⟨hl, by rw [hcons]; rfl⟩⟩

theorem exists_taken_of_quoted {quote : Char} {rest r : List Char} {l : Lexeme}
    (hquote : isQuote quote = true) (h : readQuoted quote rest = .ok (l, r)) :
    ∃ taken, rest = taken ++ r ∧ ∀ r', readQuoted quote (taken ++ r') = .ok (l, r') := by
  have bare := ne_backslash_of_isQuote hquote
  unfold readQuoted at h
  split at h
  · next s r'' hrest =>
    obtain ⟨rfl, rfl⟩ := Prod.mk.inj (Except.ok.inj h)
    obtain ⟨body, inside, rfl⟩ := (quotedRest?_eq_some_iff bare).1 hrest
    refine ⟨body ++ [quote], by simp, fun r' => ?_⟩
    have hread : quotedRest? quote (body ++ [quote] ++ r') = some (s, r') :=
      (quotedRest?_eq_some_iff bare).2 ⟨body, inside, by simp⟩
    rw [readQuoted, hread]
  · exact absurd h (by simp)

/-- A run of a class of characters is taken as before if what follows it is cut off. -/
theorem exists_taken_of_run {p : Char → Bool} {c : Char} (rest : List Char) (hc : p c = true)
    (blank : p ' ' = false) :
    ∃ taken, rest = taken ++ (c :: rest).dropWhile p ∧ (c :: rest).takeWhile p = c :: taken ∧
      ∀ r', Closes ((c :: rest).dropWhile p) r' →
        (c :: (taken ++ r')).takeWhile p = c :: taken ∧ (c :: (taken ++ r')).dropWhile p = r' := by
  have run := run_takeWhile rest hc
  have htake : (c :: rest).takeWhile p = c :: rest.takeWhile p := by simp [hc]
  have hdrop : (c :: rest).dropWhile p = rest.dropWhile p := by simp [hc]
  refine ⟨rest.takeWhile p, by rw [hdrop, List.takeWhile_append_dropWhile], htake, fun r' hr' => ?_⟩
  rw [htake] at run
  have run' := run.closes blank hr'
  exact ⟨run'.takeWhile, run'.dropWhile⟩

theorem exists_taken_of_symbols {c : Char} {rest r : List Char} {l : Lexeme}
    (hc : isSymbol c = true) (h : readSymbols (c :: rest) = .ok (l, r)) :
    ∃ taken, rest = taken ++ r ∧
      ∀ r', Closes r r' → readSymbols (c :: (taken ++ r')) = .ok (l, r') := by
  obtain ⟨rfl, rfl⟩ := Prod.mk.inj (Except.ok.inj h)
  obtain ⟨taken, hrest, htake, same⟩ := exists_taken_of_run rest hc (by decide)
  refine ⟨taken, hrest, fun r' hr' => ?_⟩
  rw [readSymbols, (same r' hr').1, (same r' hr').2, htake]

theorem exists_taken_of_bare {c : Char} {rest r : List Char} {l : Lexeme} (hc : isBare c = true)
    (h : readBare (c :: rest) = .ok (l, r)) :
    ∃ taken, rest = taken ++ r ∧
      ∀ r', Closes r r' → readBare (c :: (taken ++ r')) = .ok (l, r') := by
  obtain ⟨rfl, rfl⟩ := Prod.mk.inj (Except.ok.inj h)
  obtain ⟨taken, hrest, htake, same⟩ := exists_taken_of_run rest hc (by decide)
  refine ⟨taken, hrest, fun r' hr' => ?_⟩
  dsimp only [readBare]
  rw [(same r' hr').1, (same r' hr').2, htake]

/-- A token is read in the same way if what follows it is cut off. -/
theorem exists_taken_of_read {mode : Mode} {c : Char} {rest r : List Char} {l : Lexeme}
    (hc : isGap c = false) (h : read mode c rest = .ok (l, r)) :
    ∃ taken, rest = taken ++ r ∧ ∀ r', Closes r r' → read mode c (taken ++ r') = .ok (l, r') := by
  by_cases hmark : isMark c = true
  · rw [read_of_isMark hmark] at h
    obtain ⟨taken, hrest, same⟩ := exists_taken_of_mark h
    refine ⟨taken, hrest, fun r' _ => ?_⟩
    rw [read_of_isMark hmark]
    exact same r'
  rw [Bool.not_eq_true] at hmark
  cases mode with
  | operator =>
    obtain ⟨op, rfl⟩ := operator_of_readOperator hmark h
    have hop : OperatorText op (c :: rest) r := read_eq_ok_operator_iff.1 h
    obtain ⟨taken, hrest, same⟩ := hop.closes
    cases taken with
    | nil =>
      -- an operator takes at least its first character
      have := length_readOperator h
      rw [hrest] at this
      exact absurd this (by simp)
    | cons d taken =>
      obtain ⟨rfl, rfl⟩ := List.cons.inj hrest
      exact ⟨taken, rfl, fun r' hr' => read_eq_ok_operator_iff.2 (same r' hr')⟩
  | general =>
    by_cases hquote : isQuote c = true
    · simp only [read, readGeneral, hmark, hquote, if_true, Bool.false_eq_true, if_false] at h ⊢
      obtain ⟨taken, hrest, same⟩ := exists_taken_of_quoted hquote h
      exact ⟨taken, hrest, fun r' _ => same r'⟩
    by_cases hsymbol : isSymbol c = true
    · simp only [read, readGeneral, hmark, hquote, hsymbol, if_true, Bool.false_eq_true, if_false]
        at h ⊢
      exact exists_taken_of_symbols hsymbol h
    by_cases hname : startsName c = true
    · have hname' := isNameChar_of_startsName hname
      obtain ⟨taken, hrest, htake, same⟩ := exists_taken_of_run rest hname' (by decide)
      rw [List.takeWhile_cons_of_pos hname'] at htake
      rw [List.dropWhile_cons_of_pos hname'] at hrest same
      simp only [read, readGeneral, hmark, hquote, hsymbol, hname, if_true, Bool.false_eq_true,
        if_false] at h ⊢
      obtain ⟨rfl, rfl⟩ := Prod.mk.inj (Except.ok.inj h)
      refine ⟨taken, hrest, fun r' hr' => ?_⟩
      obtain ⟨taken', left⟩ := same r' hr'
      rw [List.takeWhile_cons_of_pos hname'] at taken'
      rw [List.dropWhile_cons_of_pos hname'] at left
      rw [(List.cons.inj taken').2, left, (List.cons.inj htake).2]
    · simp only [read, readGeneral, hmark, hquote, hsymbol, hname, Bool.false_eq_true, if_false]
        at h ⊢
      have hbare : isBare c = true :=
        isBare_iff.2 ⟨hc, by simpa using hquote, by simpa using hsymbol, hmark⟩
      exact exists_taken_of_bare hbare h
  | value =>
    by_cases hquote : isQuote c = true
    · simp only [read, readValue, hquote, if_true] at h ⊢
      obtain ⟨taken, hrest, same⟩ := exists_taken_of_quoted hquote h
      exact ⟨taken, hrest, fun r' _ => same r'⟩
    by_cases hsymbol : isSymbol c = true
    · simp only [read, readValue, hmark, hquote, hsymbol, if_true, Bool.false_eq_true, if_false]
        at h ⊢
      exact exists_taken_of_symbols hsymbol h
    · simp only [read, readValue, hmark, hquote, hsymbol, Bool.false_eq_true, if_false] at h ⊢
      have hbare : isBare c = true :=
        isBare_iff.2 ⟨hc, by simpa using hquote, by simpa using hsymbol, hmark⟩
      exact exists_taken_of_bare hbare h

end Lexeme

/-! ## Splittings of texts -/

/-- A gap in front changes no splitting. -/
theorem lexes_gap_iff {mode : Mode} {g cs : List Char} {ls : List Lexeme} (gap : Gap g) :
    Lexes mode (g ++ cs) ls ↔ Lexes mode cs ls := by
  cases ls with
  | nil =>
    rw [lexes_nil_iff, lexes_nil_iff]
    constructor
    · exact fun h c hc => h c (List.mem_append_right g hc)
    · intro h c hc
      rcases List.mem_append.1 hc with hg | hcs
      · exact gap c hg
      · exact h c hcs
  | cons l ls =>
    rw [lexes_cons_iff, lexes_cons_iff]
    constructor
    · rintro ⟨g', c, rest, r, gap', hc, heq, read, later⟩
      have whole := congrArg (List.dropWhile isGap) heq
      rw [gap'.dropWhile hc, List.dropWhile_append_of_pos gap] at whole
      refine ⟨cs.takeWhile isGap, c, rest, r, gap_takeWhile cs, hc, ?_, read, later⟩
      rw [← whole, List.takeWhile_append_dropWhile]
    · rintro ⟨g', c, rest, r, gap', hc, rfl, read, later⟩
      refine ⟨g ++ g', c, rest, r, fun d hd => ?_, hc, (List.append_assoc g g' _).symm, read, later⟩
      rcases List.mem_append.1 hd with hg | hg'
      · exact gap d hg
      · exact gap' d hg'

/-- Behind a gap, the first token is the one that is read there. -/
theorem lexes_read_iff {mode : Mode} {g rest r : List Char} {c : Char} {l : Lexeme}
    {ls : List Lexeme} (gap : Gap g) (hc : isGap c = false)
    (read : Lexeme.read mode c rest = .ok (l, r)) :
    Lexes mode (g ++ c :: rest) ls ↔ ∃ ls', ls = l :: ls' ∧ Lexes l.next r ls' := by
  constructor
  · intro h
    cases ls with
    | nil =>
      have := lexes_nil_iff.1 h c (by simp)
      exact absurd this (by simp [hc])
    | cons l' ls =>
      obtain ⟨g', c', rest', r', gap', hc', heq, read', later⟩ := lexes_cons_iff.1 h
      have whole := congrArg (List.dropWhile isGap) heq
      rw [gap.dropWhile hc, gap'.dropWhile hc'] at whole
      obtain ⟨rfl, rfl⟩ := List.cons.inj whole
      obtain ⟨rfl, rfl⟩ := Prod.mk.inj (Except.ok.inj (read.symm.trans read'))
      exact ⟨ls, rfl, later⟩
  · rintro ⟨ls', rfl, later⟩
    exact .token gap hc read later

/-- How the token behind some others is read. -/
def modeAfter (mode : Mode) (ls : List Lexeme) : Mode := ls.foldl (fun _ l => l.next) mode

theorem modeAfter_append (mode : Mode) (ls ls' : List Lexeme) :
    modeAfter mode (ls ++ ls') = modeAfter (modeAfter mode ls) ls' := List.foldl_append

/-- Where tokens start; without any, that is where the text stops. -/
def startOf (stop : Nat) : List Token → Nat
  | [] => stop
  | t :: _ => t.position

namespace Scan

/-- A text can be cut in front of any of its tokens, and where its reading stopped: the tokens
before that place are read as before, and those behind the blank after them. -/
theorem exists_cut {total : Nat} {mode : Mode} {cs : List Char} {front rest : List Token}
    (h : (scan total mode cs).tokens = front ++ rest) :
    ∃ before after, cs = before ++ after ∧
      startOf (scan total mode cs).stop rest = total - after.length ∧
      ∀ z ls, Lexes mode (before ++ ' ' :: z) ls ↔ ∃ more, ls = front.map Token.lexeme ++ more ∧
        Lexes (modeAfter mode (front.map Token.lexeme)) (' ' :: z) more := by
  -- a cut in front of everything leaves the gap at the start
  have atStart : ∀ {mode : Mode} {g : List Char}, Gap g → ∀ z ls, Lexes mode (g ++ ' ' :: z) ls ↔
      ∃ more, ls = [].map Token.lexeme ++ more ∧
        Lexes (modeAfter mode ([].map Token.lexeme)) (' ' :: z) more := by
    intro mode g gap z ls
    rw [lexes_gap_iff gap]
    constructor
    · exact fun h => ⟨ls, rfl, h⟩
    · rintro ⟨more, rfl, h⟩
      exact h
  fun_induction scan total mode cs generalizing front with
  | case1 mode cs hcs =>
    obtain ⟨rfl, rfl⟩ := List.append_eq_nil_iff.1 h.symm
    exact ⟨cs, [], (List.append_nil cs).symm, rfl, atStart (List.dropWhile_eq_nil_iff.1 hcs)⟩
  | case2 mode cs c tail hcs position fault =>
    obtain ⟨rfl, rfl⟩ := List.append_eq_nil_iff.1 h.symm
    refine ⟨cs.takeWhile isGap, c :: tail, ?_, rfl, atStart (gap_takeWhile cs)⟩
    rw [← hcs, List.takeWhile_append_dropWhile]
  | case3 mode cs c tail hcs position l rest' hread later =>
    rename_i ih
    have whole : cs = cs.takeWhile isGap ++ c :: tail := by
      rw [← hcs, List.takeWhile_append_dropWhile]
    have hc := Lexeme.isGap_of_dropWhile hcs
    cases front with
    | nil =>
      obtain rfl : ⟨l, position⟩ :: later.tokens = rest := h
      exact ⟨cs.takeWhile isGap, c :: tail, whole, rfl, atStart (gap_takeWhile cs)⟩
    | cons t front =>
      obtain ⟨rfl, hlater⟩ := List.cons.inj h
      obtain ⟨before, after, rfl, hstart, same⟩ := ih hlater
      obtain ⟨taken, rfl, reads⟩ := Lexeme.exists_taken_of_read hc hread
      refine ⟨cs.takeWhile isGap ++ c :: (taken ++ before), after, ?_, hstart, fun z ls => ?_⟩
      · simpa using whole
      · have first : Lexes mode (cs.takeWhile isGap ++ c :: (taken ++ (before ++ ' ' :: z))) ls ↔
            ∃ ls', ls = l :: ls' ∧ Lexes l.next (before ++ ' ' :: z) ls' :=
          lexes_read_iff (gap_takeWhile cs) hc (reads _ (closes_cut before after z))
        rw [List.append_assoc, List.cons_append, List.append_assoc, first]
        constructor
        · rintro ⟨ls', rfl, h'⟩
          obtain ⟨more, rfl, h''⟩ := (same z ls').1 h'
          exact ⟨more, rfl, h''⟩
        · rintro ⟨more, rfl, h'⟩
          exact ⟨_, rfl, (same z _).2 ⟨more, rfl, h'⟩⟩

/-- Every token starts before the place where reading stopped. -/
theorem position_lt_stop {total : Nat} {mode : Mode} {cs : List Char} (hle : cs.length ≤ total) :
    total - cs.length ≤ (scan total mode cs).stop ∧ (scan total mode cs).stop ≤ total ∧
      ∀ t ∈ (scan total mode cs).tokens, t.position < (scan total mode cs).stop := by
  fun_induction scan total mode cs with
  | case1 mode cs hcs => exact ⟨Nat.sub_le _ _, le_refl _, by simp⟩
  | case2 mode cs c tail hcs position fault hread =>
    have hgap := Lexeme.length_dropWhile_le isGap cs
    rw [hcs] at hgap
    refine ⟨?_, Nat.sub_le _ _, by simp⟩
    show total - cs.length ≤ total - (c :: tail).length
    omega
  | case3 mode cs c tail hcs position l rest' hread later ih =>
    have hgap := Lexeme.length_dropWhile_le isGap cs
    have hrest := Lexeme.length_read (Lexeme.isGap_of_dropWhile hcs) hread
    rw [hcs] at hgap
    obtain ⟨hlow, hhigh, positions⟩ := ih (by omega)
    have hposition : position < later.stop := by
      show total - (c :: tail).length < later.stop
      have : total - rest'.length ≤ later.stop := hlow
      omega
    refine ⟨?_, hhigh, fun t ht => ?_⟩
    · show total - cs.length ≤ later.stop
      have : position = total - (c :: tail).length := rfl
      omega
    · rcases List.mem_cons.1 ht with rfl | ht
      · exact hposition
      · exact positions t ht

end Scan

end TaskSieve.Filter
