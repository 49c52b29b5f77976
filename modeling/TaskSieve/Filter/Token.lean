import TaskSieve.Filter.Literal
import TaskSieve.Filter.ParseError

set_option autoImplicit false

/-! # Tokens

A filter text is a sequence of tokens with gaps between them. How a token is read depends on the
one before it: after a field name an operator is read, after an operator, an opening parenthesis or
a comma a literal, and elsewhere field names, combinators and punctuation. `Scan.ofText` finds all
tokens, up to the first that is none. Among them may be integers of too many digits: the first of
these is where reading ends, `Scan.overlong?`. -/

namespace TaskSieve.Filter

/-- A token without its place. Literals keep the text that they were read from, with the escapes
of a quoted one resolved. `symbols` is a run of operator symbols where no operator is read. -/
inductive Lexeme where
  | word (text : String)
  | operator (op : Operator)
  | symbols (text : String)
  | value (text : String) (value : Scalar)
  | opening
  | closing
  | comma
  | combinator (c : Combinator)
deriving DecidableEq, Repr

/-- What keeps a token from being read: it is a bare integer of too many digits. The text of a
quoted literal is never an integer. -/
def Lexeme.overlong? : Lexeme → Option Overlong
  | .value raw (.int _) => Overlong.ofDigits? (raw.toList.countP Text.isDigit)
  | _ => none

/-- The text of a token in messages. -/
def Lexeme.text : Lexeme → String
  | .word s => s
  | .operator op => op.text
  | .symbols s => s
  | .value s _ => s
  | .opening => "("
  | .closing => ")"
  | .comma => ","
  | .combinator c => c.text

/-- A token and the number of characters before it. -/
structure Token where
  lexeme : Lexeme
  position : Nat
deriving DecidableEq, Repr

/-- How the next token is read. -/
inductive Mode where
  | general
  | operator
  | value
deriving DecidableEq, Repr

/-- How the token after this one is read. -/
def Lexeme.next : Lexeme → Mode
  | .word _ => .operator
  | .operator _ | .symbols _ | .opening | .comma => .value
  | .value _ _ | .closing | .combinator _ => .general

namespace Lexeme

/-! ## Character classes -/

/-- A letter of ASCII. -/
def isLetter (c : Char) : Bool := c.isAlpha

/-- A character that a field name can start with. -/
def startsName (c : Char) : Bool := isLetter c || c == '_'

/-- A character of a field name. -/
def isNameChar (c : Char) : Bool := startsName c || c.isDigit

/-- A character of a bare literal. -/
def isBare (c : Char) : Bool := !isStop c

/-! ## Reading one token

Each reader takes the characters from the start of a token on, and returns the token and what
follows it. -/

/-- What a reader returns. -/
abbrev Read := Except ParseFault (Lexeme × List Char)

/-- The character that an escape stands for. -/
def unescape : Char → Char
  | 'n' => '\n'
  | 't' => '\t'
  | 'r' => '\r'
  | c => c

/-- Reads the rest of a quoted literal after its opening quote. -/
def quotedRest? (quote : Char) : List Char → Option (List Char × List Char)
  | [] => none
  | '\\' :: c :: rest => (quotedRest? quote rest).map fun (s, rest) => (unescape c :: s, rest)
  | c :: rest =>
    if c = quote then some ([], rest)
    else (quotedRest? quote rest).map fun (s, rest) => (c :: s, rest)

/-- Reads a quoted literal, whose opening quote is given. -/
def readQuoted (quote : Char) (rest : List Char) : Read :=
  match quotedRest? quote rest with
  | some (s, rest) => .ok (.value (String.ofList s) (.text (String.ofList s)), rest)
  | none => .error (.unterminated quote)

/-- Reads a bare literal. -/
def readBare (cs : List Char) : Read :=
  let raw := cs.takeWhile isBare
  .ok (.value (String.ofList raw) (.ofBare raw), cs.dropWhile isBare)

/-- Reads a run of operator symbols where no operator is wanted. -/
def readSymbols (cs : List Char) : Read :=
  .ok (.symbols (String.ofList (cs.takeWhile isSymbol)), cs.dropWhile isSymbol)

/-- Reads a mark: punctuation or a combinator. A combinator is written with its character
twice. -/
def readMark (c : Char) (rest : List Char) : Read :=
  match c, rest with
  | '&', '&' :: rest => .ok (.combinator .and, rest)
  | '|', '|' :: rest => .ok (.combinator .or, rest)
  | '(', rest => .ok (.opening, rest)
  | ')', rest => .ok (.closing, rest)
  | ',', rest => .ok (.comma, rest)
  | c, _ => .error (.unexpected (String.singleton c) .combinator)

/-- Reads a field name, a combinator or punctuation. -/
def readGeneral (c : Char) (rest : List Char) : Read :=
  if isMark c then readMark c rest
  else if isQuote c then readQuoted c rest
  else if isSymbol c then readSymbols (c :: rest)
  else if startsName c then
    .ok (.word (String.ofList (c :: rest.takeWhile isNameChar)), rest.dropWhile isNameChar)
  else readBare (c :: rest)

/-- Reads the word after `not`. -/
def readNegated (rest : List Char) : Read :=
  let cs := rest.dropWhile isGap
  let word := cs.takeWhile isLetter
  if word.map Char.toLower = "in".toList then .ok (.operator .notIn, cs.dropWhile isLetter)
  else if word.isEmpty then .error (.unknownOperator "not")
  else .error (.unknownOperator ("not " ++ String.ofList word))

/-- Reads an operator after a field name. -/
def readOperator (c : Char) (rest : List Char) : Read :=
  let cs := c :: rest
  if isSymbol c then
    let run := cs.takeWhile isSymbol
    match Operator.ofSymbols? run with
    | some op => .ok (.operator op, cs.dropWhile isSymbol)
    | none => .error (.unknownOperator (String.ofList run))
  else if isMark c then readMark c rest
  else if isLetter c then
    let word := cs.takeWhile isLetter
    let rest := cs.dropWhile isLetter
    let key := word.map Char.toLower
    if key = "like".toList then .ok (.operator .like, rest)
    else if key = "in".toList then .ok (.operator .isIn, rest)
    else if key = "not".toList then readNegated rest
    else .error (.unknownOperator (String.ofList word))
  else if isBare c then .error (.unknownOperator (String.ofList (cs.takeWhile isBare)))
  else .error (.unknownOperator (String.singleton c))

/-- Reads a literal. -/
def readValue (c : Char) (rest : List Char) : Read :=
  if isQuote c then readQuoted c rest
  else if isMark c then readMark c rest
  else if isSymbol c then readSymbols (c :: rest)
  else readBare (c :: rest)

/-- Reads the token that starts with the character `c`. -/
def read (mode : Mode) (c : Char) (rest : List Char) : Read :=
  match mode with
  | .general => readGeneral c rest
  | .operator => readOperator c rest
  | .value => readValue c rest

/-! ## Every token takes a character -/

theorem length_quotedRest? {quote : Char} {cs s rest : List Char}
    (h : quotedRest? quote cs = some (s, rest)) : rest.length < cs.length := by
  fun_induction quotedRest? quote cs generalizing s rest with
  | case1 => simp at h
  | case2 c cs ih =>
    obtain ⟨⟨s', r'⟩, h', heq⟩ := Option.map_eq_some_iff.1 h
    obtain ⟨_, rfl⟩ := Prod.mk.inj heq
    have := ih h'
    simp only [List.length_cons]
    omega
  | case3 cs _ => grind
  | case4 c cs _ _ ih =>
    obtain ⟨⟨s', r'⟩, h', heq⟩ := Option.map_eq_some_iff.1 h
    obtain ⟨_, rfl⟩ := Prod.mk.inj heq
    have := ih h'
    simp only [List.length_cons]
    omega

theorem length_dropWhile_le {α : Type} (p : α → Bool) (xs : List α) :
    (xs.dropWhile p).length ≤ xs.length :=
  (List.dropWhile_sublist p).length_le

theorem length_dropWhile_lt {α : Type} {p : α → Bool} {x : α} (xs : List α) (h : p x = true) :
    ((x :: xs).dropWhile p).length < (x :: xs).length := by
  have := length_dropWhile_le p xs
  simp only [List.dropWhile_cons, h, if_true, List.length_cons]
  omega

theorem length_readQuoted {quote : Char} {cs rest : List Char} {l : Lexeme}
    (h : readQuoted quote cs = .ok (l, rest)) : rest.length < (quote :: cs).length := by
  unfold readQuoted at h
  split at h
  · next hq =>
    have := length_quotedRest? hq
    simp only [Except.ok.injEq, Prod.mk.injEq] at h
    simp only [List.length_cons, ← h.2]
    omega
  · simp at h

theorem length_readMark {c : Char} {cs rest : List Char} {l : Lexeme}
    (h : readMark c cs = .ok (l, rest)) : rest.length < (c :: cs).length := by
  unfold readMark at h
  split at h
  case h_6 => exact absurd h (by simp)
  all_goals
    rw [← (Prod.mk.inj (Except.ok.inj h)).2]
    simp only [List.length_cons]
    omega

theorem length_readSymbols {c : Char} {cs rest : List Char} {l : Lexeme} (hc : isSymbol c = true)
    (h : readSymbols (c :: cs) = .ok (l, rest)) : rest.length < (c :: cs).length := by
  simp only [readSymbols, Except.ok.injEq, Prod.mk.injEq] at h
  rw [← h.2]
  exact length_dropWhile_lt cs hc

theorem length_readBare {c : Char} {cs rest : List Char} {l : Lexeme} (hc : isBare c = true)
    (h : readBare (c :: cs) = .ok (l, rest)) : rest.length < (c :: cs).length := by
  simp only [readBare, Except.ok.injEq, Prod.mk.injEq] at h
  rw [← h.2]
  exact length_dropWhile_lt cs hc

theorem length_readGeneral {c : Char} {cs rest : List Char} {l : Lexeme} (hc : isGap c = false)
    (h : readGeneral c cs = .ok (l, rest)) : rest.length < (c :: cs).length := by
  unfold readGeneral at h
  split at h
  · exact length_readMark h
  split at h
  · exact length_readQuoted h
  split at h
  · next hs => exact length_readSymbols hs h
  split at h
  · simp only [Except.ok.injEq, Prod.mk.injEq] at h
    have := length_dropWhile_le isNameChar cs
    simp only [List.length_cons, ← h.2]
    omega
  · exact length_readBare (by simp_all [isBare, isStop]) h

theorem length_readValue {c : Char} {cs rest : List Char} {l : Lexeme} (hc : isGap c = false)
    (h : readValue c cs = .ok (l, rest)) : rest.length < (c :: cs).length := by
  unfold readValue at h
  split at h
  · exact length_readQuoted h
  split at h
  · exact length_readMark h
  split at h
  · next hs => exact length_readSymbols hs h
  · exact length_readBare (by simp_all [isBare, isStop]) h

theorem length_readNegated {cs rest : List Char} {l : Lexeme}
    (h : readNegated cs = .ok (l, rest)) : rest.length ≤ cs.length := by
  simp only [readNegated] at h
  split at h
  · simp only [Except.ok.injEq, Prod.mk.injEq] at h
    have h₁ := length_dropWhile_le isLetter (cs.dropWhile isGap)
    have h₂ := length_dropWhile_le isGap cs
    rw [← h.2]
    omega
  · split at h <;> simp at h

theorem length_readOperator {c : Char} {cs rest : List Char} {l : Lexeme}
    (h : readOperator c cs = .ok (l, rest)) : rest.length < (c :: cs).length := by
  simp only [readOperator] at h
  split at h
  · next hs =>
    split at h
    · simp only [Except.ok.injEq, Prod.mk.injEq] at h
      rw [← h.2]
      exact length_dropWhile_lt cs hs
    · simp at h
  split at h
  · exact length_readMark h
  split at h
  · next hl =>
    have hlt := length_dropWhile_lt cs hl
    split at h
    · simp only [Except.ok.injEq, Prod.mk.injEq] at h
      exact h.2 ▸ hlt
    split at h
    · simp only [Except.ok.injEq, Prod.mk.injEq] at h
      exact h.2 ▸ hlt
    split at h
    · have := length_readNegated h
      omega
    · simp at h
  · split at h <;> simp at h

/-- A token takes at least one character. -/
theorem length_read {mode : Mode} {c : Char} {cs rest : List Char} {l : Lexeme}
    (hc : isGap c = false) (h : read mode c cs = .ok (l, rest)) :
    rest.length < (c :: cs).length := by
  cases mode with
  | general => exact length_readGeneral hc h
  | operator => exact length_readOperator h
  | value => exact length_readValue hc h

/-- What follows the leading gaps does not start with one. -/
theorem isGap_of_dropWhile {cs rest : List Char} {c : Char}
    (h : cs.dropWhile isGap = c :: rest) : isGap c = false := by
  have := List.head?_dropWhile_not isGap cs
  simpa [h] using this

end Lexeme

/-! ## Reading all tokens -/

/-- The tokens of a text, the place where reading stopped, and what stopped it; without a fault
that is the end of the text. -/
structure Scan where
  tokens : List Token
  stop : Nat
  fault : Option ParseFault
deriving DecidableEq, Repr

namespace Scan

/-- Reads tokens from a place in a text of `total` characters on; `cs` are the characters from
there. -/
def scan (total : Nat) (mode : Mode) (cs : List Char) : Scan :=
  match _hcs : cs.dropWhile isGap with
  | [] => ⟨[], total, none⟩
  | c :: rest =>
    let position := total - (c :: rest).length
    match _hread : Lexeme.read mode c rest with
    | .error fault => ⟨[], position, some fault⟩
    | .ok (lexeme, rest') =>
      let later := scan total lexeme.next rest'
      ⟨⟨lexeme, position⟩ :: later.tokens, later.stop, later.fault⟩
termination_by cs.length
decreasing_by
  have h₁ := Lexeme.length_read (Lexeme.isGap_of_dropWhile _hcs) _hread
  have h₂ := Lexeme.length_dropWhile_le isGap cs
  rw [_hcs] at h₂
  omega

/-- Reads the tokens of a text. -/
def ofText (cs : List Char) : Scan :=
  scan cs.length .general cs

/-- What keeps the first of the tokens that cannot be read from being read. -/
def overlong? (s : Scan) : Option Overlong :=
  s.tokens.findSome? fun t => t.lexeme.overlong?

end Scan

end TaskSieve.Filter
