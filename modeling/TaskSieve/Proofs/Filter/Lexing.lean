import Mathlib.Data.List.TakeWhile
import TaskSieve.Proofs.Filter.Grammar

set_option autoImplicit false

/-! # Reading tokens

What the readers of single tokens accept, in terms of the grammar: a word is the name of a field, an
operator is read exactly where one is spelled, a literal exactly where a single value is. From there
a whole scan is described by `Lexes`, which splits a text into gaps and tokens; a scan without fault
gives the tokens of the one such splitting. -/

namespace TaskSieve.Filter

open Grammar

namespace Lexeme

/-! ## Character classes -/

/-- A character that is in none of the classes of stops is bare. -/
theorem isBare_iff {c : Char} : isBare c = true ↔
    isGap c = false ∧ isQuote c = false ∧ isSymbol c = false ∧ isMark c = false := by
  simp [isBare, isStop, and_assoc]

/-- The characters that end a bare literal, one by one. -/
theorem isStop_iff {c : Char} :
    isStop c = true ↔ c ∈ [' ', '\t', '\r', '\n', '"', '\'', '<', '>', '=', '!', '&', '|', '(', ')',
      ','] := by
  simp only [isStop, isGap, isQuote, isSymbol, isMark, Bool.or_eq_true, beq_iff_eq,
    List.mem_cons, List.not_mem_nil, or_false, or_assoc]

/-- No character of a name ends a bare literal. -/
theorem isBare_of_isNameChar {c : Char} (h : isNameChar c = true) : isBare c = true := by
  rw [isBare, Bool.not_eq_true', ← Bool.not_eq_true, isStop_iff]
  intro hc
  simp only [List.mem_cons, List.not_mem_nil, or_false] at hc
  -- each of them would have to be a character of names itself
  rcases hc with hc | hc | hc | hc | hc | hc | hc | hc | hc | hc | hc | hc | hc | hc | hc <;>
    exact absurd (hc ▸ h) (by decide)

theorem isNameChar_of_startsName {c : Char} (h : startsName c = true) : isNameChar c = true := by
  simp [isNameChar, h]

theorem isBare_of_isLetter {c : Char} (h : isLetter c = true) : isBare c = true :=
  isBare_of_isNameChar (by simp [isNameChar, startsName, h])

/-- The classes of characters that start a token have no character in common. -/
theorem isQuote_of_isMark {c : Char} (h : isMark c = true) : isQuote c = false := by
  simp only [isMark, Bool.or_eq_true, beq_iff_eq] at h
  rcases h with (((rfl | rfl) | rfl) | rfl) | rfl <;> decide

theorem isSymbol_of_isMark {c : Char} (h : isMark c = true) : isSymbol c = false := by
  simp only [isMark, Bool.or_eq_true, beq_iff_eq] at h
  rcases h with (((rfl | rfl) | rfl) | rfl) | rfl <;> decide

theorem isGap_of_isQuote {c : Char} (h : isQuote c = true) : isGap c = false := by
  simp only [isQuote, Bool.or_eq_true, beq_iff_eq] at h
  rcases h with rfl | rfl <;> decide

theorem isGap_of_isSymbol {c : Char} (h : isSymbol c = true) : isGap c = false := by
  simp only [isSymbol, Bool.or_eq_true, beq_iff_eq] at h
  rcases h with ((rfl | rfl) | rfl) | rfl <;> decide

/-! ## Marks -/

/-- Whether a token is punctuation or a combinator. -/
def IsMark : Lexeme → Prop
  | opening | closing | comma | combinator _ => True
  | _ => False

/-- Where a mark is written, exactly that mark is read. -/
theorem readMark_eq_ok_iff {c : Char} {rest r : List Char} {l : Lexeme} :
    readMark c rest = .ok (l, r) ↔ l.IsMark ∧ c :: rest = l.text.toList ++ r := by
  constructor
  · intro h
    unfold readMark at h
    split at h
    case h_6 => exact absurd h (by simp)
    all_goals
      obtain ⟨rfl, rfl⟩ := Prod.mk.inj (Except.ok.inj h)
      exact ⟨trivial, rfl⟩
  · rintro ⟨hl, h⟩
    match l, hl with
    | opening, _ =>
      obtain ⟨rfl, rfl⟩ := List.cons.inj h
      rfl
    | closing, _ =>
      obtain ⟨rfl, rfl⟩ := List.cons.inj h
      rfl
    | comma, _ =>
      obtain ⟨rfl, rfl⟩ := List.cons.inj h
      rfl
    | combinator .and, _ =>
      obtain ⟨rfl, rfl⟩ := List.cons.inj h
      rfl
    | combinator .or, _ =>
      obtain ⟨rfl, rfl⟩ := List.cons.inj h
      rfl

/-- Every mark starts with a character for marks. -/
theorem isMark_of_text {c : Char} {rest r : List Char} {l : Lexeme} (hl : l.IsMark)
    (h : c :: rest = l.text.toList ++ r) : isMark c = true := by
  match l, hl with
  | opening, _ => exact (List.cons.inj h).1 ▸ rfl
  | closing, _ => exact (List.cons.inj h).1 ▸ rfl
  | comma, _ => exact (List.cons.inj h).1 ▸ rfl
  | combinator .and, _ => exact (List.cons.inj h).1 ▸ rfl
  | combinator .or, _ => exact (List.cons.inj h).1 ▸ rfl

theorem not_isMark_of_readQuoted {quote : Char} {rest r : List Char} {l : Lexeme}
    (h : readQuoted quote rest = .ok (l, r)) : ¬ l.IsMark := by
  unfold readQuoted at h
  split at h
  · obtain ⟨rfl, -⟩ := Prod.mk.inj (Except.ok.inj h)
    exact id
  · exact absurd h (by simp)

theorem not_isMark_of_readSymbols {cs r : List Char} {l : Lexeme}
    (h : readSymbols cs = .ok (l, r)) : ¬ l.IsMark := by
  obtain ⟨rfl, -⟩ := Prod.mk.inj (Except.ok.inj h)
  exact id

theorem not_isMark_of_readBare {cs r : List Char} {l : Lexeme}
    (h : readBare cs = .ok (l, r)) : ¬ l.IsMark := by
  obtain ⟨rfl, -⟩ := Prod.mk.inj (Except.ok.inj h)
  exact id

/-- An operator or a fault is read after a field name, unless a mark stands there. -/
theorem operator_of_readOperator {c : Char} {rest r : List Char} {l : Lexeme}
    (hc : isMark c = false) (h : readOperator c rest = .ok (l, r)) : ∃ op, l = .operator op := by
  simp only [readOperator, hc, readNegated] at h
  grind

/-- Only a character for marks starts a mark. -/
theorem isMark_of_read {mode : Mode} {c : Char} {rest r : List Char} {l : Lexeme} (hl : l.IsMark)
    (h : read mode c rest = .ok (l, r)) : isMark c = true := by
  rw [← Bool.not_eq_false]
  intro hc
  cases mode with
  | general =>
    simp only [read, readGeneral, hc, Bool.false_eq_true, if_false] at h
    split at h
    · exact not_isMark_of_readQuoted h hl
    split at h
    · exact not_isMark_of_readSymbols h hl
    split at h
    · obtain ⟨rfl, -⟩ := Prod.mk.inj (Except.ok.inj h)
      exact hl
    · exact not_isMark_of_readBare h hl
  | operator =>
    obtain ⟨op, rfl⟩ := operator_of_readOperator hc h
    exact hl
  | value =>
    simp only [read, readValue, hc, Bool.false_eq_true, if_false] at h
    split at h
    · exact not_isMark_of_readQuoted h hl
    split at h
    · exact not_isMark_of_readSymbols h hl
    · exact not_isMark_of_readBare h hl

/-- Where a mark stands, every mode reads it as a mark. -/
theorem read_of_isMark {mode : Mode} {c : Char} (hc : isMark c = true) (rest : List Char) :
    read mode c rest = readMark c rest := by
  cases mode <;> simp [read, readGeneral, readOperator, readValue, hc, isQuote_of_isMark hc,
    isSymbol_of_isMark hc]

/-- In every mode a mark is read exactly where it is written. -/
theorem read_eq_ok_mark_iff {mode : Mode} {c : Char} {rest r : List Char} {l : Lexeme}
    (hl : l.IsMark) : read mode c rest = .ok (l, r) ↔ c :: rest = l.text.toList ++ r := by
  constructor
  · intro h
    rw [read_of_isMark (isMark_of_read hl h)] at h
    exact (readMark_eq_ok_iff.1 h).2
  · intro h
    rw [read_of_isMark (isMark_of_text hl h)]
    exact readMark_eq_ok_iff.2 ⟨hl, h⟩

/-! ## Field names -/

/-- A word is read where a name starts, as far as the name goes. -/
theorem readGeneral_eq_ok_word_iff {c : Char} {rest r : List Char} {name : String} :
    read .general c rest = .ok (.word name, r) ↔
      startsName c = true ∧ Run isNameChar name.toList r ∧ c :: rest = name.toList ++ r := by
  constructor
  · intro h
    simp only [read, readGeneral] at h
    split at h
    · exact absurd (readMark_eq_ok_iff.1 h).1 id
    split at h
    · unfold readQuoted at h
      split at h <;> simp at h
    split at h
    · simp [readSymbols] at h
    split at h
    · next hc =>
      obtain ⟨hname, rfl⟩ := Prod.mk.inj (Except.ok.inj h)
      have hname := Lexeme.word.inj hname
      subst hname
      have hc' := isNameChar_of_startsName hc
      have run := run_takeWhile rest hc'
      simp only [List.takeWhile_cons, List.dropWhile_cons, hc', if_true] at run
      refine ⟨hc, by simpa using run, ?_⟩
      simp [List.takeWhile_append_dropWhile]
    · simp [readBare] at h
  · rintro ⟨hc, run, h⟩
    obtain ⟨-, hquote, hsymbol, hmark⟩ :=
      isBare_iff.1 (isBare_of_isNameChar (isNameChar_of_startsName hc))
    have htake := run.takeWhile
    have hdrop := run.dropWhile
    rw [← h] at htake hdrop
    simp only [List.takeWhile_cons, List.dropWhile_cons, isNameChar_of_startsName hc, if_true]
      at htake hdrop
    simp [read, readGeneral, hquote, hsymbol, hmark, hc, htake, hdrop]

/-! ## Operators -/

/-- A run of symbols is known exactly if it spells a symbolic operator. -/
theorem ofSymbols?_eq_some_iff {run : List Char} {op : Operator} :
    Operator.ofSymbols? run = some op ↔ op ∈ Operator.symbolic ∧ op.text.toList = run := by
  constructor
  · intro h
    exact ⟨List.mem_of_find?_eq_some h, by simpa using List.find?_some h⟩
  · rintro ⟨hop, rfl⟩
    revert op
    decide

/-- A run of letters before an operator is read as the word that it spells. -/
theorem readOperator_of_run {c : Char} {rest word r : List Char} (run : Run isLetter word r)
    (h : c :: rest = word ++ r) :
    readOperator c rest =
      if word.map Char.toLower = "like".toList then .ok (.operator .like, r)
      else if word.map Char.toLower = "in".toList then .ok (.operator .isIn, r)
      else if word.map Char.toLower = "not".toList then readNegated r
      else .error (.unknownOperator (String.ofList word)) := by
  have hc := run.first h.symm
  obtain ⟨-, -, hsymbol, hmark⟩ := isBare_iff.1 (isBare_of_isLetter hc)
  simp only [readOperator, hsymbol, hmark, hc, h, run.takeWhile, run.dropWhile, Bool.false_eq_true,
    if_false, if_true]

/-- Behind `not` the operator of two words is read exactly if the second word stands there. -/
theorem readNegated_eq_ok_iff {cs r : List Char} {l : Lexeme} :
    readNegated cs = .ok (l, r) ↔
      l = .operator .notIn ∧ ∃ g word, Gap g ∧ Word "in" word r ∧ cs = g ++ (word ++ r) := by
  constructor
  · intro h
    simp only [readNegated] at h
    split at h
    · next hword =>
      obtain ⟨rfl, rfl⟩ := Prod.mk.inj (Except.ok.inj h)
      refine ⟨rfl, cs.takeWhile isGap, (cs.dropWhile isGap).takeWhile isLetter, gap_takeWhile cs,
        ⟨?_, hword⟩, by simp only [List.takeWhile_append_dropWhile]⟩
      cases htail : cs.dropWhile isGap with
      | nil => simp [htail] at hword
      | cons d tail =>
        cases hd : isLetter d with
        | false => simp [htail, hd] at hword
        | true => exact run_takeWhile tail hd
    · split at h <;> simp at h
  · rintro ⟨rfl, g, word, hg, hword, rfl⟩
    obtain ⟨d, ds, rfl⟩ := List.exists_cons_of_ne_nil hword.ne_nil
    have hd : isGap d = false :=
      (isBare_iff.1 (isBare_of_isLetter (hword.all d List.mem_cons_self))).1
    have hdrop : (g ++ (d :: ds ++ r)).dropWhile isGap = d :: ds ++ r := hg.dropWhile hd
    simp only [readNegated, hdrop, hword.takeWhile, hword.dropWhile, hword.spells, if_true]

/-- The letters of a word are told apart as `readOperator` tells them apart. -/
theorem operatorText_of_letters {c : Char} {rest r : List Char} {op : Operator}
    (hc : isLetter c = true) (h : readOperator c rest = .ok (.operator op, r)) :
    OperatorText op (c :: rest) r := by
  have whole : c :: rest = (c :: rest).takeWhile isLetter ++ (c :: rest).dropWhile isLetter :=
    List.takeWhile_append_dropWhile.symm
  have run := run_takeWhile rest hc
  rw [readOperator_of_run run whole] at h
  rw [whole]
  split at h
  · next hword =>
    simp only [Except.ok.injEq, Prod.mk.injEq, Lexeme.operator.injEq] at h
    obtain ⟨rfl, rfl⟩ := h
    exact .like ⟨run, hword⟩
  split at h
  · next hword =>
    simp only [Except.ok.injEq, Prod.mk.injEq, Lexeme.operator.injEq] at h
    obtain ⟨rfl, rfl⟩ := h
    exact .isIn ⟨run, hword⟩
  split at h
  · next hword =>
    obtain ⟨hop, g, word, hg, hsecond, hrest⟩ := readNegated_eq_ok_iff.1 h
    obtain rfl := Lexeme.operator.inj hop
    rw [hrest]
    exact .notIn ⟨hrest ▸ run, hword⟩ hg hsecond
  · exact absurd h (by simp)

theorem operatorText_of_symbols {c : Char} {rest r : List Char} {op : Operator}
    (hc : isSymbol c = true) (h : readOperator c rest = .ok (.operator op, r)) :
    OperatorText op (c :: rest) r := by
  simp only [readOperator, hc, if_true] at h
  split at h
  · next op' hop =>
    simp only [Except.ok.injEq, Prod.mk.injEq, Lexeme.operator.injEq] at h
    obtain ⟨rfl, hrest⟩ := h
    obtain ⟨hmem, htext⟩ := ofSymbols?_eq_some_iff.1 hop
    have run := run_takeWhile rest hc
    rw [← htext, hrest] at run
    have whole : op'.text.toList ++ r = c :: rest := by
      rw [htext, ← hrest, List.takeWhile_append_dropWhile]
    exact whole ▸ .symbols hmem run
  · exact absurd h (by simp)

/-- After a field name an operator is read exactly where one is spelled. -/
theorem read_eq_ok_operator_iff {c : Char} {rest r : List Char} {op : Operator} :
    read .operator c rest = .ok (.operator op, r) ↔ OperatorText op (c :: rest) r := by
  rw [read]
  constructor
  · intro h
    cases hsymbol : isSymbol c with
    | true => exact operatorText_of_symbols hsymbol h
    | false =>
      cases hletter : isLetter c with
      | true => exact operatorText_of_letters hletter h
      | false =>
        simp only [readOperator, hsymbol, hletter, Bool.false_eq_true, if_false] at h
        split at h
        · exact absurd (readMark_eq_ok_iff.1 h).1 id
        · split at h <;> simp at h
  · intro h
    generalize hcs : c :: rest = cs at h
    cases h with
    | symbols known run =>
      have hc := run.first hcs.symm
      have hop := ofSymbols?_eq_some_iff.2 ⟨known, rfl⟩
      simp only [readOperator, hc, hcs, run.takeWhile, run.dropWhile, hop, if_true]
    | like word =>
      rw [readOperator_of_run word.toRun hcs, if_pos word.spells]
    | isIn word =>
      rw [readOperator_of_run word.toRun hcs, word.spells, if_neg (by decide), if_pos rfl]
    | notIn first between second =>
      rw [readOperator_of_run first.toRun hcs, first.spells, if_neg (by decide), if_neg (by decide),
        if_pos rfl]
      exact readNegated_eq_ok_iff.2 ⟨rfl, _, _, between, second, rfl⟩

/-! ## Literals -/

/-- The rest of a quoted literal is read up to the quote that closes it. -/
theorem quotedRest?_eq_some_iff {quote : Char} (hquote : quote ≠ '\\') {cs s r : List Char} :
    quotedRest? quote cs = some (s, r) ↔
      ∃ body, QuotedText quote body s ∧ cs = body ++ quote :: r := by
  constructor
  · intro h
    fun_induction quotedRest? quote cs generalizing s r with
    | case1 => exact absurd h (by simp)
    | case2 c cs ih =>
      obtain ⟨⟨s', r'⟩, h', heq⟩ := Option.map_eq_some_iff.1 h
      obtain ⟨rfl, rfl⟩ := Prod.mk.inj heq
      obtain ⟨body, hbody, rfl⟩ := ih h'
      exact ⟨_, .escaped hbody, rfl⟩
    | case3 cs _ =>
      obtain ⟨rfl, rfl⟩ := Prod.mk.inj (Option.some.inj h)
      exact ⟨[], .nil, rfl⟩
    | case4 c cs hbare hopen ih =>
      obtain ⟨⟨s', r'⟩, h', heq⟩ := Option.map_eq_some_iff.1 h
      obtain ⟨rfl, rfl⟩ := Prod.mk.inj heq
      obtain ⟨body, hbody, rfl⟩ := ih h'
      refine ⟨c :: body, .plain hopen ?_ hbody, rfl⟩
      -- a backslash has something behind it to escape, if only the closing quote
      rintro rfl
      cases body with
      | nil => exact hbare _ _ rfl rfl
      | cons d body => exact hbare _ _ rfl rfl
  · rintro ⟨body, hbody, rfl⟩
    induction hbody with
    | nil =>
      rw [List.nil_append, quotedRest?.eq_3 _ _ _ (fun c rest h _ => hquote h), if_pos rfl]
    | plain hopen hbare _ ih =>
      rw [List.cons_append, quotedRest?.eq_3 _ _ _ (fun c rest h _ => hbare h), if_neg hopen, ih]
      rfl
    | escaped _ ih =>
      rw [List.cons_append, List.cons_append, quotedRest?.eq_2, ih]
      rfl

theorem ne_backslash_of_isQuote {c : Char} (h : isQuote c = true) : c ≠ '\\' := by
  rintro rfl
  exact absurd h (by decide)

/-- A text of digits in quotes is no integer. -/
theorem digitsFit_text {fits : Nat → Prop} {raw : List Char} {s : String} :
    DigitsFit fits raw (.text s) :=
  fun _ h => absurd h (by simp)

/-- A literal is read exactly where a single value is spelled. -/
theorem read_eq_ok_value_iff {fits : Nat → Prop} {c : Char} {rest r : List Char} {v : Scalar}
    (hc : isGap c = false) :
    (∃ t : String, DigitsFit fits t.toList v ∧ read .value c rest = .ok (.value t v, r)) ↔
      ItemText fits v (c :: rest) r := by
  constructor
  · rintro ⟨t, digits, h⟩
    simp only [read, readValue] at h
    split at h
    · next hquote =>
      unfold readQuoted at h
      split at h
      · next s r' hrest =>
        simp only [Except.ok.injEq, Prod.mk.injEq, Lexeme.value.injEq] at h
        obtain ⟨⟨-, rfl⟩, rfl⟩ := h
        obtain ⟨body, hbody, rfl⟩ :=
          (quotedRest?_eq_some_iff (ne_backslash_of_isQuote hquote)).1 hrest
        exact .quoted hquote hbody
      · exact absurd h (by simp)
    split at h
    · exact absurd (readMark_eq_ok_iff.1 h).1 id
    split at h
    · simp [readSymbols] at h
    · next hquote hmark hsymbol =>
      have hbare : isBare c = true :=
        isBare_iff.2 ⟨hc, by simpa using hquote, by simpa using hsymbol, by simpa using hmark⟩
      simp only [readBare, Except.ok.injEq, Prod.mk.injEq, Lexeme.value.injEq] at h
      obtain ⟨⟨rfl, rfl⟩, rfl⟩ := h
      rw [String.toList_ofList] at digits
      have item := ItemText.bare (run_takeWhile rest hbare) digits
      rwa [List.takeWhile_append_dropWhile] at item
  · intro h
    generalize hcs : c :: rest = cs at h
    cases h with
    | @quoted quote body s _ mark inside =>
      obtain ⟨rfl, rfl⟩ := List.cons.inj hcs
      have hrest : quotedRest? c (body ++ c :: r) = some (s, r) :=
        (quotedRest?_eq_some_iff (ne_backslash_of_isQuote mark)).2 ⟨body, inside, rfl⟩
      refine ⟨String.ofList s, digitsFit_text, ?_⟩
      simp only [read, readValue, mark, if_true, readQuoted, hrest]
    | @bare raw _ run digits =>
      obtain ⟨-, hquote, hsymbol, hmark⟩ := isBare_iff.1 (run.first hcs.symm)
      refine ⟨String.ofList raw, by rwa [String.toList_ofList], ?_⟩
      simp only [read, readValue, hquote, hsymbol, hmark, Bool.false_eq_true, if_false, readBare,
        hcs, run.takeWhile, run.dropWhile]

end Lexeme

/-! ## Scanning -/

/-- A text is split into gaps and tokens: `Lexes mode cs ls` says that `cs`, read in a mode from its
start to its end, gives the tokens `ls`. -/
inductive Lexes : Mode → List Char → List Lexeme → Prop
  | done {mode : Mode} {g : List Char} (gap : Gap g) : Lexes mode g []
  | token {mode : Mode} {g rest rest' : List Char} {c : Char} {l : Lexeme} {ls : List Lexeme}
      (gap : Gap g) (starts : isGap c = false) (read : Lexeme.read mode c rest = .ok (l, rest'))
      (later : Lexes l.next rest' ls) : Lexes mode (g ++ c :: rest) (l :: ls)

namespace Scan

/-- A scan ends without a fault exactly if the text splits into tokens, and then gives them. -/
theorem lexes_iff {total : Nat} {mode : Mode} {cs : List Char} {ls : List Lexeme} :
    Lexes mode cs ls ↔ (scan total mode cs).fault = none ∧
      (scan total mode cs).tokens.map Token.lexeme = ls := by
  constructor
  · intro h
    induction h with
    | @done mode g gap =>
      have hdrop : g.dropWhile isGap = [] := by
        rw [List.dropWhile_eq_nil_iff]
        exact gap
      rw [scan.eq_def]
      split
      · exact ⟨rfl, rfl⟩
      · next hcs => exact absurd (hdrop.symm.trans hcs) (by simp)
    | @token mode g rest rest' c l ls gap starts read _ ih =>
      have hdrop : (g ++ c :: rest).dropWhile isGap = c :: rest := gap.dropWhile starts
      rw [scan.eq_def]
      split
      · next hcs => exact absurd (hdrop.symm.trans hcs) (by simp)
      · next d tail hcs =>
        obtain ⟨rfl, rfl⟩ := List.cons.inj (hdrop.symm.trans hcs)
        split
        · next hread => exact absurd (read.symm.trans hread) (by simp)
        · next l' rest'' hread =>
          obtain ⟨rfl, rfl⟩ := Prod.mk.inj (Except.ok.inj (read.symm.trans hread))
          exact ⟨ih.1, by simp only [List.map_cons, ih.2]⟩
  · rintro ⟨hfault, rfl⟩
    fun_induction scan total mode cs with
    | case1 mode cs hcs =>
      rw [List.dropWhile_eq_nil_iff] at hcs
      exact .done hcs
    | case2 => exact absurd hfault (by simp)
    | case3 mode cs c rest hcs _ l rest' hread _ ih =>
      have whole : cs = cs.takeWhile isGap ++ c :: rest := by
        rw [← hcs, List.takeWhile_append_dropWhile]
      rw [whole]
      exact .token (gap_takeWhile cs) (Lexeme.isGap_of_dropWhile hcs) hread (ih hfault)

end Scan

/-! ## One token at a time -/

theorem lexes_nil_iff {mode : Mode} {cs : List Char} : Lexes mode cs [] ↔ Gap cs :=
  ⟨fun | .done gap => gap, .done⟩

theorem lexes_cons_iff {mode : Mode} {cs : List Char} {l : Lexeme} {ls : List Lexeme} :
    Lexes mode cs (l :: ls) ↔ ∃ g c rest r, Gap g ∧ isGap c = false ∧ cs = g ++ c :: rest ∧
      Lexeme.read mode c rest = .ok (l, r) ∧ Lexes l.next r ls := by
  constructor
  · rintro (_ | ⟨gap, starts, read, later⟩)
    exact ⟨_, _, _, _, gap, starts, rfl, read, later⟩
  · rintro ⟨g, c, rest, r, gap, starts, rfl, read, later⟩
    exact .token gap starts read later

/-- A run of characters outside gaps does not start with one. -/
theorem Grammar.Run.starts {p : Char → Bool} {run rest : List Char} (h : Run p run rest)
    (hp : ∀ {c : Char}, p c = true → isGap c = false) :
    ∃ c tail, run ++ rest = c :: tail ∧ isGap c = false := by
  obtain ⟨c, cs, rfl⟩ := List.exists_cons_of_ne_nil h.ne_nil
  exact ⟨c, cs ++ rest, rfl, hp (h.all c List.mem_cons_self)⟩

theorem Grammar.ItemText.starts {fits : Nat → Prop} {v : Scalar} {t r : List Char}
    (h : ItemText fits v t r) :
    ∃ c tail, t = c :: tail ∧ isGap c = false := by
  cases h with
  | quoted mark inside => exact ⟨_, _, rfl, Lexeme.isGap_of_isQuote mark⟩
  | bare run _ => exact run.starts fun hc => (Lexeme.isBare_iff.1 hc).1

theorem Grammar.OperatorText.starts {op : Operator} {t r : List Char} (h : OperatorText op t r) :
    ∃ c tail, t = c :: tail ∧ isGap c = false := by
  have letters : ∀ {c : Char}, Lexeme.isLetter c = true → isGap c = false :=
    fun hc => (Lexeme.isBare_iff.1 (Lexeme.isBare_of_isLetter hc)).1
  cases h with
  | symbols known run => exact run.starts Lexeme.isGap_of_isSymbol
  | like word => exact word.toRun.starts letters
  | isIn word => exact word.toRun.starts letters
  | notIn first _ _ => exact first.toRun.starts letters

theorem lexes_mark_iff {mode : Mode} {cs : List Char} {l : Lexeme} {ls : List Lexeme}
    (hl : l.IsMark) : Lexes mode cs (l :: ls) ↔
      ∃ g r, Gap g ∧ cs = g ++ (l.text.toList ++ r) ∧ Lexes l.next r ls := by
  rw [lexes_cons_iff]
  constructor
  · rintro ⟨g, c, rest, r, gap, -, rfl, read, later⟩
    exact ⟨g, r, gap, by rw [(Lexeme.read_eq_ok_mark_iff hl).1 read], later⟩
  · rintro ⟨g, r, gap, rfl, later⟩
    obtain ⟨c, rest, hc, htext⟩ : ∃ c rest, isGap c = false ∧ l.text.toList ++ r = c :: rest := by
      match l, hl with
      | .opening, _ => exact ⟨_, _, rfl, rfl⟩
      | .closing, _ => exact ⟨_, _, rfl, rfl⟩
      | .comma, _ => exact ⟨_, _, rfl, rfl⟩
      | .combinator .and, _ => exact ⟨_, _, rfl, rfl⟩
      | .combinator .or, _ => exact ⟨_, _, rfl, rfl⟩
    exact ⟨g, c, rest, r, gap, hc, by rw [htext],
      (Lexeme.read_eq_ok_mark_iff hl).2 htext.symm, later⟩

theorem lexes_word_iff {cs : List Char} {name : String} {ls : List Lexeme} :
    Lexes .general cs (.word name :: ls) ↔
      ∃ g r, Gap g ∧ (∀ c ∈ name.toList.head?, Lexeme.startsName c = true) ∧
        Run Lexeme.isNameChar name.toList r ∧ cs = g ++ (name.toList ++ r) ∧
        Lexes .operator r ls := by
  rw [lexes_cons_iff]
  constructor
  · rintro ⟨g, c, rest, r, gap, -, rfl, read, later⟩
    obtain ⟨hc, run, whole⟩ := Lexeme.readGeneral_eq_ok_word_iff.1 read
    refine ⟨g, r, gap, fun d hd => ?_, run, by rw [whole], later⟩
    obtain ⟨e, es, hes⟩ := List.exists_cons_of_ne_nil run.ne_nil
    rw [hes, List.cons_append] at whole
    rw [hes, List.head?_cons, Option.mem_some_iff] at hd
    exact hd ▸ (List.cons.inj whole).1 ▸ hc
  · rintro ⟨g, r, gap, starts, run, rfl, later⟩
    obtain ⟨c, cs, hcs⟩ := List.exists_cons_of_ne_nil run.ne_nil
    have hc : Lexeme.startsName c = true := starts c (by rw [hcs]; rfl)
    have hgap : isGap c = false := (Lexeme.isBare_iff.1 (Lexeme.isBare_of_isNameChar
      (Lexeme.isNameChar_of_startsName hc))).1
    have whole : name.toList ++ r = c :: (cs ++ r) := by rw [hcs, List.cons_append]
    exact ⟨g, c, cs ++ r, r, gap, hgap, by rw [whole],
      Lexeme.readGeneral_eq_ok_word_iff.2 ⟨hc, run, whole.symm⟩, later⟩

theorem lexes_operator_iff {cs : List Char} {op : Operator} {ls : List Lexeme} :
    Lexes .operator cs (.operator op :: ls) ↔
      ∃ g t r, Gap g ∧ OperatorText op t r ∧ cs = g ++ t ∧ Lexes .value r ls := by
  rw [lexes_cons_iff]
  constructor
  · rintro ⟨g, c, rest, r, gap, -, rfl, read, later⟩
    exact ⟨g, c :: rest, r, gap, Lexeme.read_eq_ok_operator_iff.1 read, rfl, later⟩
  · rintro ⟨g, t, r, gap, operator, rfl, later⟩
    obtain ⟨c, rest, rfl, hc⟩ := operator.starts
    exact ⟨g, c, rest, r, gap, hc, rfl, Lexeme.read_eq_ok_operator_iff.2 operator, later⟩

theorem lexes_value_iff {fits : Nat → Prop} {cs : List Char} {v : Scalar} {ls : List Lexeme} :
    (∃ s : String, DigitsFit fits s.toList v ∧ Lexes .value cs (.value s v :: ls)) ↔
      ∃ g t r, Gap g ∧ ItemText fits v t r ∧ cs = g ++ t ∧ Lexes .general r ls := by
  simp only [lexes_cons_iff]
  constructor
  · rintro ⟨s, digits, g, c, rest, r, gap, hc, rfl, read, later⟩
    exact ⟨g, c :: rest, r, gap, (Lexeme.read_eq_ok_value_iff hc).1 ⟨s, digits, read⟩, rfl, later⟩
  · rintro ⟨g, t, r, gap, item, rfl, later⟩
    obtain ⟨c, rest, rfl, hc⟩ := item.starts
    obtain ⟨s, digits, read⟩ := (Lexeme.read_eq_ok_value_iff hc).2 item
    exact ⟨s, digits, g, c, rest, r, gap, hc, rfl, read, later⟩

/-! ## Digits of tokens -/

/-- A token has as many digits as it may have, if it is an integer. -/
def Lexeme.Fits (fits : Nat → Prop) : Lexeme → Prop
  | .value raw v => DigitsFit fits raw.toList v
  | _ => True

/-- A token can be read unless it has too many digits. -/
theorem Lexeme.overlong?_eq_none_iff {l : Lexeme} :
    l.overlong? = none ↔ l.Fits (· ≤ digitLimit) := by
  cases l with
  | value raw v => cases v <;> simp [overlong?, Fits, DigitsFit, Overlong.ofDigits?_eq_none_iff]
  | _ => simp [overlong?, Fits]

theorem Scan.overlong?_eq_none_iff {s : Scan} :
    s.overlong? = none ↔ ∀ l ∈ s.tokens.map Token.lexeme, l.Fits (· ≤ digitLimit) := by
  simp [overlong?, List.findSome?_eq_none_iff, Lexeme.overlong?_eq_none_iff]

end TaskSieve.Filter
