import TaskSieve.Proofs.Filter.Coherence
import TaskSieve.Proofs.Filter.Rereading

set_option autoImplicit false

/-! # Values without quotes in text fields

A bare literal is typed by its shape before it is known what it is compared with, and a text field
compares it with the text of the value, not with its spelling. So quotes around a literal change
nothing as long as it is spelled as its value is written, and they do change a comparison when it is
not: `007` without quotes is seven, which is written `7`. A number of too many digits can only be
read in quotes. -/

namespace TaskSieve.Filter

open Grammar
open Evaluation (plainText)

/-! ## Reading -/

/-- A field, an operator and a literal with blanks between them are a filter. -/
theorem read_of_literalText (f : Field) (op : Operator) {l : Literal} {t : String}
    (value : LiteralText (· ≤ digitLimit) l t.toList []) :
    Expr.read (f.name ++ " " ++ op.text ++ " " ++ t) = .ok (.leaf ⟨f, op, l⟩) := by
  rw [← t.toList.append_nil] at value
  have text := FilterText.mk gap_nil (conditionText_of_literalText f op value) (.done gap_nil)
  rw [List.nil_append, List.append_nil] at text
  exact read_eq_ok_iff.2 ⟨_, _, text, rfl⟩

/-- Where a value stands in a condition: alone, or in a list between other values, each of which has
its own spelling. -/
inductive Place where
  | alone
  | among (before behind : List (String × Scalar))

namespace Place

/-- The text of a literal with a spelling in its place. -/
def text : Place → String → String
  | alone, t => t
  | among before behind, t =>
    "(" ++ ", ".intercalate (before.map Prod.fst ++ t :: behind.map Prod.fst) ++ ")"

/-- The literal with a value in its place. -/
def literal : Place → Scalar → Literal
  | alone, v => .one v
  | among before behind, v => .many (before.map Prod.snd ++ v :: behind.map Prod.snd)

/-- Whether the other values of a list are spelled as it says. -/
def IsSpelled : Place → Prop
  | alone => True
  | among before behind => ∀ i ∈ before ++ behind, Spells i.1 i.2

theorem literalText {place : Place} (h : place.IsSpelled) {t : String} {v : Scalar}
    (spells : Spells t v) :
    LiteralText (· ≤ digitLimit) (place.literal v) (place.text t).toList [] := by
  have ends : Ends [] := fun c hc => absurd hc (by simp)
  cases place with
  | alone =>
    have item := spells [] ends
    rw [List.append_nil] at item
    exact .one item
  | among before behind =>
    have all : ∀ i ∈ before ++ (t, v) :: behind, Spells i.1 i.2 := by
      intro i hi
      simp only [List.mem_append, List.mem_cons] at hi
      rcases hi with hi | rfl | hi
      · exact h i (List.mem_append_left _ hi)
      · exact spells
      · exact h i (List.mem_append_right _ hi)
    obtain ⟨first, later, hitems⟩ :=
      List.exists_cons_of_ne_nil (show before ++ (t, v) :: behind ≠ [] by simp)
    rw [hitems] at all
    have items : LiteralText _ _ ('(' :: ([] ++ (_ ++ ')' :: []))) [] :=
      .many (itemsText_intercalate gap_nil all)
    rw [← hitems] at items
    simpa [text, Place.literal] using items

/-- The other values of a list. -/
def others : Place → List Scalar
  | alone => []
  | among before behind => (before ++ behind).map Prod.snd

theorem mem_values_literal {place : Place} {v w : Scalar} (h : w ∈ (place.literal v).values) :
    w = v ∨ w ∈ place.others := by
  cases place with
  | alone => exact .inl (List.mem_singleton.1 h)
  | among before behind =>
    simp only [literal, Literal.values, List.mem_append, List.mem_cons] at h
    simp only [others, List.map_append, List.mem_append]
    tauto

end Place

/-- A value that is spelled somewhere can be written. -/
theorem Spells.overlong?_eq_none {t : String} {v : Scalar} (h : Spells t v) :
    v.toDatum.overlong? = none := by
  have canonical := canonical_of_itemText (h [] fun c hc => absurd hc (by simp))
  cases v with
  | int n => exact canonical
  | bool _ | num _ | text _ => rfl

theorem Place.overlong?_of_isSpelled {place : Place} (h : place.IsSpelled) :
    ∀ v ∈ place.others, v.toDatum.overlong? = none := by
  cases place with
  | alone => exact fun v hv => absurd hv List.not_mem_nil
  | among before behind =>
    intro v hv
    obtain ⟨i, hi, rfl⟩ := List.mem_map.1 hv
    exact (h i hi).overlong?_eq_none

/-- A run of bare characters spells the value that its shape gives, unless it has too many
digits. -/
theorem spells_bare {w : String} (ne_empty : w ≠ "") (bare : ∀ c ∈ w.toList, isStop c = false)
    (short : Scalar.overlongBare? w.toList = none) : Spells w (.ofBare w.toList) := by
  have ne_nil : w.toList ≠ [] := by simpa using ne_empty
  refine fun rest ends => .bare ⟨ne_nil, fun c hc => ?_, ends⟩
    (Scalar.overlongBare?_eq_none_iff.1 short)
  rw [Lexeme.isBare, bare c hc, Bool.not_false]

theorem quotedText_plain {quote : Char} {cs : List Char}
    (h : ∀ c ∈ cs, c ≠ quote ∧ c ≠ '\\') : QuotedText quote cs cs := by
  induction cs with
  | nil => exact .nil
  | cons c cs ih =>
    obtain ⟨hquote, hbackslash⟩ := h c List.mem_cons_self
    exact .plain hquote hbackslash (ih fun d hd => h d (List.mem_cons_of_mem c hd))

/-- Between quotes a run of bare characters without a backslash spells the text that it is. -/
theorem spells_quoted {quote : Char} (mark : isQuote quote = true) {w : String}
    (bare : ∀ c ∈ w.toList, isStop c = false) (plain : '\\' ∉ w.toList) :
    Spells (quote.toString ++ w ++ quote.toString) (.text w) := by
  have inside : QuotedText quote w.toList w.toList := by
    refine quotedText_plain fun c hc => ⟨?_, ?_⟩
    · rintro rfl
      have hstop := bare c hc
      simp [isStop, mark] at hstop
    · rintro rfl
      exact plain hc
  intro rest _
  have item : ItemText (· ≤ digitLimit) (.text (String.ofList w.toList))
      (quote :: (w.toList ++ quote :: rest)) rest := .quoted mark inside
  rw [String.ofList_toList] at item
  simpa using item

/-! ## Usual spellings -/

/-- A run of bare characters is spelled as its value is written: it has the shape of no number and
names no truth value, or it is the usual spelling of one. -/
inductive IsUsual : String → Prop
  | text {w : String} (number : Scalar.numberOfShape? w.toList = none)
      (truth : Scalar.truthOf? w.toList = none) : IsUsual w
  | truth (b : Bool) : IsUsual (if b then "true" else "false")
  | integer (n : Int) : IsUsual (integerText n)
  | decimal {x : Binary64} (canonical : x.Canonical) (plain : x.IsPlain) : IsUsual x.text

/-- A text of the shape of a number is an integer or a decimal. -/
theorem number_of_numberOfShape? {cs : List Char} {v : Scalar}
    (h : Scalar.numberOfShape? cs = some v) : (∃ n, v = .int n) ∨ ∃ x, v = .num x := by
  cases numberText_of_numberOfShape? h with
  | integer => exact .inl ⟨_, rfl⟩
  | decimal => exact .inr ⟨_, rfl⟩

/-- A bare literal is the text of its value just if it is the usual spelling. -/
theorem text_ofBare_eq_iff {w : String} : plainText (.ofBare w.toList) = w ↔ IsUsual w := by
  constructor
  · intro h
    cases hnumber : Scalar.numberOfShape? w.toList with
    | some v =>
      have hbare : Scalar.ofBare w.toList = v := by rw [Scalar.ofBare, hnumber]
      rcases number_of_numberOfShape? hnumber with ⟨n, rfl⟩ | ⟨x, rfl⟩
      · rw [hbare] at h
        exact h ▸ .integer n
      · have canonical : (Scalar.num x).Canonical := canonical_of_numberOfShape? hnumber
        have htext : x.text = w := by rwa [hbare] at h
        have stable := ofBare_text canonical
        rw [htext, hbare] at stable
        exact htext ▸ .decimal canonical ((Scalar.reread_eq_iff (.num x)).1 stable.symm)
    | none =>
      cases htruth : Scalar.truthOf? w.toList with
      | none => exact .text hnumber htruth
      | some b =>
        rw [Scalar.ofBare, hnumber, htruth] at h
        exact h ▸ .truth b
  · rintro (⟨number, truth⟩ | b | n | ⟨canonical, plain⟩)
    · rw [Scalar.ofBare, number, truth, String.ofList_toList]
      rfl
    · cases b <;> decide
    · rw [Scalar.ofBare, numberOfShape?_integerText]
      rfl
    · rw [ofBare_text canonical, (Scalar.reread_eq_iff (.num _)).2 plain]
      rfl

/-! ## Letter case -/

/-- A character that is its own lower-case form. -/
def IsLower (c : Char) : Prop := Text.lowerLetter c = c ∧ c ≠ 'Σ' ∧ c ≠ 'İ'

instance : DecidablePred IsLower := fun c =>
  inferInstanceAs (Decidable (Text.lowerLetter c = c ∧ c ≠ 'Σ' ∧ c ≠ 'İ'))

theorem lower_of_isLower {cs : List Char} (h : ∀ c ∈ cs, IsLower c) : Text.lower cs = cs := by
  rw [Text.lower]
  generalize [] = before
  induction cs generalizing before with
  | nil => rfl
  | cons c cs ih =>
    obtain ⟨hletter, hsigma, hdotted⟩ := h c List.mem_cons_self
    rw [Text.lowerAfter, if_neg hsigma, if_neg hdotted, hletter,
      ih fun d hd => h d (List.mem_cons_of_mem c hd)]
    rfl

/-- No digit of any script has a case: its ten digits meet no range of capitals. -/
theorem isLower_of_isDigit {c : Char} (h : Text.isDigit c = true) : IsLower c := by
  have ascii : ∀ k < 10, IsLower (Char.ofNat (0x30 + k)) := by decide
  have later : ∀ z ∈ Text.digitZeros, z = 0x30 ∨ 0x80 ≤ z := by decide
  have apart : ∀ z ∈ Text.digitZeros, z = 0x30 ∨
      ∀ r ∈ Text.capitalRanges, z + 9 < r.first ∨ r.last < z := by decide +kernel
  obtain ⟨z, hz, k, hk, hc⟩ := Text.exists_zero_of_isDigit h
  by_cases hzero : z = 0x30
  · have hascii := ascii k hk
    rwa [← hzero, ← hc, Char.ofNat_toNat] at hascii
  · have hnone : Text.capitalRanges.find? (·.contains c.toNat) = none := by
      refine List.find?_eq_none.2 fun r hr => ?_
      have := (apart z hz).resolve_left hzero r hr
      simp only [Text.CaseRange.contains, Bool.and_eq_true, decide_eq_true_eq, hc]
      omega
    have hhigh : ¬ c.toNat < 0x80 := by
      have := (later z hz).resolve_left hzero
      omega
    refine ⟨by rw [Text.lowerLetter, if_neg hhigh, hnone], ?_, ?_⟩
    · rintro rfl
      exact absurd h (by decide)
    · rintro rfl
      exact absurd h (by decide)

/-- A text of the shape of a number has digits, a minus and a point in it, which have no case. -/
theorem lower_of_numberOfShape? {cs : List Char} {v : Scalar}
    (h : Scalar.numberOfShape? cs = some v) : Text.lower cs = cs := by
  refine lower_of_isLower ?_
  have point : IsLower '.' := by decide
  have sign : ∀ negative, ∀ c ∈ Decimal.signText negative, IsLower c := by
    have minus : IsLower '-' := by decide
    intro negative c hc
    cases negative with
    | true => exact List.mem_singleton.1 hc ▸ minus
    | false => exact absurd hc List.not_mem_nil
  cases numberText_of_numberOfShape? h with
  | integer negative _ digits =>
    intro c hc
    rcases List.mem_append.1 hc with hc | hc
    · exact sign negative c hc
    · exact isLower_of_isDigit (digits c hc)
  | decimal negative front back =>
    intro c hc
    simp only [List.mem_append, List.mem_cons] at hc
    rcases hc with hc | hc | rfl | hc
    · exact sign negative c hc
    · exact isLower_of_isDigit (front c hc)
    · exact point
    · exact isLower_of_isDigit (back c hc)

/-- The text of a number has no capitals. -/
theorem lower_text (x : Binary64) : Text.lower x.text.toList = x.text.toList := by
  match x with
  | .nan | .infinite false | .infinite true => decide
  | .finite s m e =>
    refine lower_of_isLower fun c hc => ?_
    rcases (Decimal.isNumeralText_text (Decimal.shortest s m e)).all c hc with hdigit | hmark
    · exact isLower_of_isDigit (Text.isDigit_of_isDigit hdigit)
    · simp only [List.mem_cons, List.not_mem_nil, or_false] at hmark
      rcases hmark with rfl | rfl | rfl | rfl <;> decide

theorem lower_of_truthOf? {cs : List Char} {b : Bool} (h : Scalar.truthOf? cs = some b) :
    Text.lower cs = (if b then "true" else "false").toList := by
  rw [Scalar.truthOf?] at h
  split at h
  · next hword =>
    obtain rfl := Option.some.inj h
    exact hword
  split at h
  · next hword =>
    obtain rfl := Option.some.inj h
    exact hword
  · exact absurd h (by simp)

/-- Up to letter case, a bare literal is the text of its value just if it is the usual spelling or
names a truth value. -/
theorem lower_text_ofBare_iff {w : String} :
    Text.lower (plainText (.ofBare w.toList)).toList = Text.lower w.toList ↔
      IsUsual w ∨ (Scalar.truthOf? w.toList).isSome = true := by
  constructor
  · intro h
    cases htruth : Scalar.truthOf? w.toList with
    | some b => exact .inr rfl
    | none =>
      refine .inl ?_
      cases hnumber : Scalar.numberOfShape? w.toList with
      | none => exact .text hnumber htruth
      | some v =>
        -- neither the number nor its spelling has capitals
        have hbare : Scalar.ofBare w.toList = v := by rw [Scalar.ofBare, hnumber]
        have hvalue : Text.lower (plainText v).toList = (plainText v).toList := by
          rcases number_of_numberOfShape? hnumber with ⟨n, rfl⟩ | ⟨x, rfl⟩
          · exact lower_of_numberOfShape? (numberOfShape?_integerText n)
          · exact lower_text x
        rw [hbare, hvalue, lower_of_numberOfShape? hnumber] at h
        exact text_ofBare_eq_iff.1 (hbare ▸ String.toList_inj.1 h)
  · rintro (h | h)
    · rw [text_ofBare_eq_iff.2 h]
    · obtain ⟨b, hb⟩ := Option.isSome_iff_exists.1 h
      have hword := lower_of_truthOf? hb
      have hnumber : Scalar.numberOfShape? w.toList = none := by
        have hnone : ∀ b : Bool,
            Scalar.numberOfShape? (if b then "true" else "false").toList = none := by decide
        cases hnumber : Scalar.numberOfShape? w.toList with
        | none => rfl
        | some v =>
          rw [lower_of_numberOfShape? hnumber] at hword
          rw [hword, hnone b] at hnumber
          exact absurd hnumber (by simp)
      have hbare : Scalar.ofBare w.toList = .bool b := by rw [Scalar.ofBare, hnumber, hb]
      rw [hbare, hword]
      cases b <;> decide

/-! ## Comparing -/

namespace Evaluation

open TaskSieve.Calendar

variable {f : Field} {op : Operator} {l l' : Literal}

/-- Two expressions are matched by the same tasks, whenever they are asked. -/
def SameMatches (e e' : Expr) : Prop :=
  ∀ now task, e.matches now task = e'.matches now task

/-- Conditions on a text field are matched by the same tasks just if they are met by the same texts,
if their values can be written. -/
theorem sameMatches_iff (hkind : f.kind = .string)
    (hl : ∀ v ∈ l.values, v.toDatum.overlong? = none)
    (hl' : ∀ v ∈ l'.values, v.toDatum.overlong? = none) :
    SameMatches (.leaf ⟨f, op, l⟩) (.leaf ⟨f, op, l'⟩) ↔
      ∀ actual, comparesText op actual l = comparesText op actual l' := by
  constructor
  · intro h actual
    have hvalue : taskValue? [(f.taskKey, .text actual)] f = some (.text actual) := by
      simp [taskValue?, Fields.get?, Datum.isNull]
    have answer {l : Literal} (hl : ∀ v ∈ l.values, v.toDatum.overlong? = none) :
        answers default [(f.taskKey, .text actual)] f l op = comparesText op actual l :=
      answers_of_string hvalue hkind rfl hl op
    exact (answer hl).symm.trans ((h _ _).trans (answer hl'))
  · intro h now task
    cases hvalue : taskValue? task f with
    | none =>
      exact (satisfies_of_none (c := ⟨f, op, l⟩) hvalue).trans
        (satisfies_of_none (c := ⟨f, op, l'⟩) hvalue).symm
    | some d =>
      by_cases hwritten : d.overlong? = none
      · exact (answers_of_string hvalue hkind hwritten hl op).trans
          ((h _).trans (answers_of_string hvalue hkind hwritten hl' op).symm)
      · exact (answers_of_unwritten hvalue hkind hwritten op).trans
          (answers_of_unwritten hvalue hkind hwritten op).symm

/-- A single value is compared by its text. -/
theorem comparesText_one {v v' : Scalar} (h : plainText v = plainText v') (op : Operator)
    (actual : String) : comparesText op actual (.one v) = comparesText op actual (.one v') := by
  cases op <;> simp [comparesText, plainLiteral, Literal.values, h]

/-- Membership in a list, and likeness to one, go by the texts of its values. -/
theorem comparesText_many {vs vs' : List Scalar}
    (h : vs.map plainText = vs'.map plainText) (heq : op ≠ .eq) (hne : op ≠ .ne)
    (actual : String) : comparesText op actual (.many vs) = comparesText op actual (.many vs') := by
  cases op with
  | eq => exact absurd rfl heq
  | ne => exact absurd rfl hne
  | isIn | notIn => rw [comparesText, comparesText, Literal.values, Literal.values, h]
  | like | gt | ge | lt | le => rfl

/-- Two texts are told apart by every operator on texts, except that likeness does not see the case
of letters. -/
theorem comparesText_text_iff (hop : op ∈ [.eq, .ne, .like, .isIn, .notIn]) {s t : String} :
    (∀ actual, comparesText op actual (.one (.text s)) = comparesText op actual (.one (.text t))) ↔
      s = t ∨ op = .like ∧ Text.lower s.toList = Text.lower t.toList := by
  have same (v : String) : plainText (.text v) = v := rfl
  constructor
  · intro h
    simp only [List.mem_cons, List.not_mem_nil, or_false] at hop
    have atS := h s
    rcases hop with rfl | rfl | rfl | rfl | rfl
    · exact .inl (by simpa [comparesText, plainLiteral, same] using atS)
    · exact .inl (by simpa [comparesText, plainLiteral, same] using atS)
    · -- each of the texts occurs in the other one
      have atT := h t
      simp only [comparesText, same] at atS atT
      have hts := occursIn_iff.1 (atS.symm.trans (occursIn_iff.2 List.infix_rfl))
      have hst := occursIn_iff.1 (atT.trans (occursIn_iff.2 List.infix_rfl))
      exact .inr ⟨rfl, hst.sublist.antisymm hts.sublist⟩
    · exact .inl (by simpa [comparesText, Literal.values, same] using atS)
    · exact .inl (by simpa [comparesText, Literal.values, same] using atS)
  · rintro (rfl | ⟨rfl, hlower⟩)
    · exact fun _ => rfl
    · intro actual
      simp only [comparesText, same, hlower]

/-- In its place a value is compared by its text, except that a list is compared as a whole by
equality. -/
theorem comparesText_literal {place : Place} {v v' : Scalar}
    (h : plainText v = plainText v') (hop : place = .alone ∨ op ≠ .eq ∧ op ≠ .ne)
    (actual : String) :
    comparesText op actual (place.literal v) = comparesText op actual (place.literal v') := by
  cases place with
  | alone => exact comparesText_one h op actual
  | among before behind =>
    obtain ⟨heq, hne⟩ := hop.resolve_left (by simp)
    exact comparesText_many (by simp [h]) heq hne actual

/-- Alone, a value without quotes is compared like the text with quotes just if it is spelled as
usual, or if it is a truth value and the case of letters does not count. -/
theorem sameMatches_one_iff (hkind : f.kind = .string)
    (hop : op ∈ [.eq, .ne, .like, .isIn, .notIn]) {w : String}
    (written : (Scalar.ofBare w.toList).toDatum.overlong? = none) :
    SameMatches (.leaf ⟨f, op, .one (.ofBare w.toList)⟩) (.leaf ⟨f, op, .one (.text w)⟩) ↔
      IsUsual w ∨ op = .like ∧ (Scalar.truthOf? w.toList).isSome = true := by
  have asText (actual : String) : comparesText op actual (.one (.ofBare w.toList)) =
      comparesText op actual (.one (.text (plainText (.ofBare w.toList)))) :=
    comparesText_one rfl op actual
  have single (v : Scalar) (hv : v.toDatum.overlong? = none) :
      ∀ u ∈ (Literal.one v).values, u.toDatum.overlong? = none :=
    fun u hu => List.mem_singleton.1 hu ▸ hv
  rw [sameMatches_iff hkind (single _ written) (single (.text w) rfl)]
  simp only [asText]
  rw [comparesText_text_iff hop, text_ofBare_eq_iff, lower_text_ofBare_iff]
  constructor
  · rintro (usual | ⟨like, usual | truth⟩)
    · exact .inl usual
    · exact .inl usual
    · exact .inr ⟨like, truth⟩
  · rintro (usual | ⟨like, truth⟩)
    · exact .inl usual
    · exact .inr ⟨like, .inr truth⟩

/-- What quotes around a value of a text field change. The value is read with and without them,
unless it is an integer of too many digits. A value without quotes is compared as the text of its
value, so quotes change nothing if it is spelled as usual; a value that stands alone is compared
otherwise by some task if it is not, unless it is a truth value in other letters and they do not
count. A value that is neither a number nor a truth value is the same with quotes wherever it
stands. -/
theorem read_spellings (hkind : f.kind = .string) (hop : op ∈ [.eq, .ne, .like, .isIn, .notIn])
    {place : Place} (hplace : place.IsSpelled) {quote : Char} (mark : isQuote quote = true)
    {w : String} (ne_empty : w ≠ "") (bare : ∀ c ∈ w.toList, isStop c = false)
    (plain : '\\' ∉ w.toList) (short : Scalar.overlongBare? w.toList = none) :
    let condition (t : String) := f.name ++ " " ++ op.text ++ " " ++ place.text t
    let withText (t : String) := Expr.leaf ⟨f, op, place.literal (.text t)⟩
    ∃ e, Expr.read (condition w) = .ok e ∧
      Expr.read (condition (quote.toString ++ w ++ quote.toString)) = .ok (withText w) ∧
      (place = .alone ∨ op ≠ .eq ∧ op ≠ .ne →
        SameMatches e (withText (plainText (.ofBare w.toList))) ∧
        (IsUsual w → SameMatches e (withText w))) ∧
      (place = .alone → (SameMatches e (withText w) ↔
        IsUsual w ∨ op = .like ∧ (Scalar.truthOf? w.toList).isSome = true)) ∧
      (Scalar.ofBare w.toList = .text w → e = withText w) := by
  intro condition withText
  have spells := spells_bare ne_empty bare short
  have written {v : Scalar} (hv : v.toDatum.overlong? = none) :
      ∀ u ∈ (place.literal v).values, u.toDatum.overlong? = none := by
    intro u hu
    rcases Place.mem_values_literal hu with rfl | hu
    · exact hv
    · exact Place.overlong?_of_isSpelled hplace u hu
  have compared (hplain : place = .alone ∨ op ≠ .eq ∧ op ≠ .ne) :
      SameMatches (.leaf ⟨f, op, place.literal (.ofBare w.toList)⟩)
        (withText (plainText (.ofBare w.toList))) :=
    (sameMatches_iff hkind (written spells.overlong?_eq_none) (written rfl)).2 fun actual =>
      comparesText_literal (show plainText (.ofBare w.toList) = plainText (.text _) from rfl)
        hplain actual
  refine ⟨.leaf ⟨f, op, place.literal (.ofBare w.toList)⟩,
    read_of_literalText f op (Place.literalText hplace spells),
    read_of_literalText f op (Place.literalText hplace (spells_quoted mark bare plain)),
    fun hplain => ⟨compared hplain, fun usual => ?_⟩, ?_, ?_⟩
  · have same := compared hplain
    rwa [text_ofBare_eq_iff.2 usual] at same
  · rintro rfl
    exact sameMatches_one_iff hkind hop spells.overlong?_eq_none
  · intro htext
    rw [htext]

/-- A number in the list of a text field is found with and without quotes. -/
theorem read_spellings_of_number :
    let now := Stamp.ofDay 738000 (some 0)
    ∃ e, Expr.read "title in (Alpha, 42)" = .ok e ∧
      Expr.read "title in (Alpha, '42')" =
        .ok (.leaf ⟨.title, .isIn, .many [.text "Alpha", .text "42"]⟩) ∧
      e.matches now [("title", .text "42")] = true := by
  intro now
  -- not "for all characters": that could be decided by going through all characters
  have bare (w : String) (h : w.toList.all (!isStop ·) = true) : ∀ c ∈ w.toList, isStop c = false :=
    fun c hc => by simpa using List.all_eq_true.1 h c hc
  have alpha : Spells "Alpha" (.text "Alpha") := by
    have htext : Scalar.ofBare "Alpha".toList = .text "Alpha" := by decide
    have spells := spells_bare (w := "Alpha") (by decide) (bare _ (by decide)) (by decide)
    rwa [htext] at spells
  have spelled : (Place.among [("Alpha", .text "Alpha")] []).IsSpelled := by
    intro i hi
    obtain rfl := List.mem_singleton.1 hi
    exact alpha
  have usual : IsUsual "42" := (by decide : integerText 42 = "42") ▸ .integer 42
  have single : isQuote '\'' = true := rfl
  obtain ⟨e, hbare, hquoted, hsame, -⟩ := read_spellings (f := .title) rfl
    (show Operator.isIn ∈ _ by decide) spelled single (w := "42") (by decide)
    (bare _ (by decide)) (by decide) (by decide)
  refine ⟨e, hbare, hquoted, ?_⟩
  have same := (hsame (.inr (by decide))).2 usual
  exact (same now _).trans (by decide)

/-- Zeros before a number are lost with the quotes, and a list that is compared as a whole shows
which of its values had quotes. -/
theorem quotes_change_comparison :
    let now := Stamp.ofDay 738000 (some 0)
    (∃ bare quoted, Expr.read "title = 007" = .ok bare ∧
      Expr.read "title = \"007\"" = .ok quoted ∧
      bare.matches now [("title", .text "007")] = false ∧
      quoted.matches now [("title", .text "007")] = true) ∧
    ∃ bare quoted, Expr.read "title = (7)" = .ok bare ∧
      Expr.read "title = (\"7\")" = .ok quoted ∧
      bare.matches now [("title", .text "(7,)")] = true ∧
      quoted.matches now [("title", .text "(7,)")] = false := by
  intro now
  constructor
  · exact ⟨.leaf ⟨.title, .eq, .one (.int 7)⟩, .leaf ⟨.title, .eq, .one (.text "007")⟩,
      by decide +kernel, by decide +kernel, by decide +kernel, by decide +kernel⟩
  · exact ⟨.leaf ⟨.title, .eq, .many [.int 7]⟩, .leaf ⟨.title, .eq, .many [.text "7"]⟩,
      by decide +kernel, by decide +kernel, by decide +kernel, by decide +kernel⟩

end Evaluation

end TaskSieve.Filter
