import TaskSieve.Calendar.Iso
import TaskSieve.Datum.Basic
import TaskSieve.Number.Decimal
import TaskSieve.Number.Layout
import TaskSieve.Text.Hex

set_option autoImplicit false

/-! # Values of a TOML document

Texts in four forms of quotes, numbers, dates, truth values, lists, and tables on one line. Every
reader takes characters from the front of a text and answers what is left, or nothing if the text
does not start with what it reads. -/

namespace TaskSieve.Toml

/-- What a reader answers: a value and the rest of the text. -/
abbrev Taken (α : Type) := Option (α × List Char)

/-- Blanks within a line. -/
def isGap (c : Char) : Bool := c == ' ' || c == '\t'

/-- Blanks and line ends. -/
def isWideGap (c : Char) : Bool := isGap c || c == '\n'

/-- A text without blanks at its front. -/
def skipGaps (cs : List Char) : List Char := cs.dropWhile isGap

/-- Control characters, which stand in no text and no comment; the tab may. -/
def isControl (c : Char) : Bool := (c.toNat < 0x20 || c.toNat == 0x7F) && c != '\t'

/-! ## Texts -/

/-- The character with a code point in hexadecimal digits. -/
def scalar? (digits : List Char) : Option Char :=
  match digits.foldlM (fun n c => (Text.hexValue? c).map (16 * n + ·)) 0 with
  | some n => if h : n.isValidChar then some (Char.ofNatAux n h) else none
  | none => none

/-- The character that a one-letter escape stands for. -/
def escape? : Char → Option Char
  | 'b' => some '\x08'
  | 't' => some '\t'
  | 'n' => some '\n'
  | 'f' => some '\x0c'
  | 'r' => some '\r'
  | '"' => some '"'
  | '\\' => some '\\'
  | _ => none

/-- Puts a character in front of a text that was taken. -/
def putFront (c : Option Char) (taken : Taken (List Char)) : Taken (List Char) :=
  match c, taken with
  | some c, some (text, rest) => some (c :: text, rest)
  | _, _ => none

/-- Takes a text in double quotes, the first of which has been taken. -/
def takeBasic : List Char → Taken (List Char)
  | [] => none
  | '"' :: rest => some ([], rest)
  | '\\' :: 'u' :: a :: b :: c :: d :: rest => putFront (scalar? [a, b, c, d]) (takeBasic rest)
  | '\\' :: 'U' :: a :: b :: c :: d :: e :: f :: g :: h :: rest =>
    putFront (scalar? [a, b, c, d, e, f, g, h]) (takeBasic rest)
  | '\\' :: c :: rest => putFront (escape? c) (takeBasic rest)
  | c :: rest => if isControl c then none else putFront (some c) (takeBasic rest)

/-- What follows a backslash at the end of a line: blanks up to the end of the line, then all blanks
and line ends. -/
def skipLineEnd (cs : List Char) : Option (List Char) :=
  match skipGaps cs with
  | '\n' :: rest => some (rest.dropWhile isWideGap)
  | _ => none

/-- What `skipLineEnd` leaves is shorter. -/
theorem length_skipLineEnd {cs rest : List Char} (h : skipLineEnd cs = some rest) :
    rest.length < cs.length := by
  have hg : (skipGaps cs).length ≤ cs.length := (List.dropWhile_sublist _).length_le
  unfold skipLineEnd at h
  split at h
  · rename_i more heq
    have hd : (more.dropWhile isWideGap).length ≤ more.length :=
      (List.dropWhile_sublist _).length_le
    have hr : rest = more.dropWhile isWideGap := by simpa using h.symm
    rw [heq, List.length_cons] at hg
    rw [hr]
    omega
  · exact absurd h (by simp)

/-- The text between three quotes has ended: up to two more quotes belong to it. -/
def closeLong (quote : Char) : List Char → List Char × List Char
  | a :: b :: rest =>
    if a ≠ quote then ([], a :: b :: rest)
    else if b = quote then ([a, b], rest)
    else ([a], b :: rest)
  | [a] => if a = quote then ([a], []) else ([], [a])
  | [] => ([], [])

/-- Takes a text over several lines in double quotes, of which the first three have been taken. -/
def takeLongBasic (cs : List Char) : Taken (List Char) :=
  match cs with
  | [] => none
  | '"' :: '"' :: '"' :: rest => some (closeLong '"' rest)
  | '\\' :: 'u' :: a :: b :: c :: d :: rest => putFront (scalar? [a, b, c, d]) (takeLongBasic rest)
  | '\\' :: 'U' :: a :: b :: c :: d :: e :: f :: g :: h :: rest =>
    putFront (scalar? [a, b, c, d, e, f, g, h]) (takeLongBasic rest)
  | '\\' :: c :: rest =>
    if isWideGap c then
      match _h : skipLineEnd (c :: rest) with
      | some more => takeLongBasic more
      | none => none
    else putFront (escape? c) (takeLongBasic rest)
  | c :: rest =>
    if isControl c && c != '\n' then none else putFront (some c) (takeLongBasic rest)
termination_by cs.length
decreasing_by
  all_goals simp only [List.length_cons]
  all_goals try omega
  exact Nat.lt_succ_of_lt (length_skipLineEnd _h)

/-- Takes a text in single quotes, the first of which has been taken. -/
def takeLiteral : List Char → Taken (List Char)
  | [] => none
  | '\'' :: rest => some ([], rest)
  | c :: rest => if isControl c then none else putFront (some c) (takeLiteral rest)

/-- Takes a text over several lines in single quotes, of which the first three have been taken. -/
def takeLongLiteral : List Char → Taken (List Char)
  | [] => none
  | '\'' :: '\'' :: '\'' :: rest => some (closeLong '\'' rest)
  | c :: rest =>
    if isControl c && c != '\n' then none else putFront (some c) (takeLongLiteral rest)

/-- A text without a line end at its front. -/
def dropLineEnd : List Char → List Char
  | '\n' :: rest => rest
  | cs => cs

/-- Takes a text in any quotes. -/
def takeText : List Char → Taken (List Char)
  | '"' :: '"' :: '"' :: rest => takeLongBasic (dropLineEnd rest)
  | '"' :: rest => takeBasic rest
  | '\'' :: '\'' :: '\'' :: rest => takeLongLiteral (dropLineEnd rest)
  | '\'' :: rest => takeLiteral rest
  | _ => none

/-! ## Numbers -/

/-- Takes digits, between which single underscores may stand. -/
def takeDigits (p : Char → Bool) : List Char → List Char × List Char
  | [] => ([], [])
  | [c] => if p c then ([c], []) else ([], [c])
  | c :: d :: rest =>
    if p c || (c == '_' && p d) then
      let (taken, rest) := takeDigits p (d :: rest)
      (c :: taken, rest)
    else ([], c :: d :: rest)

/-- Takes digits, the first of which is not an underscore. -/
def takeFigures (p : Char → Bool) (cs : List Char) : List Char × List Char :=
  if cs.head?.any p then takeDigits p cs else ([], cs)

/-- The value of digits in a base. -/
def digitsValue (base : Nat) (cs : List Char) : Nat :=
  cs.foldl (fun n c => match Text.hexValue? c with
    | some v => base * n + v
    | none => n) 0

/-- Takes an integer in a base other than ten, after its mark. -/
def takeBased (base : Nat) (p : Char → Bool) (cs : List Char) : Taken Datum :=
  match takeFigures p cs with
  | ([], _) => none
  | (digits, rest) => some (.int (digitsValue base digits), rest)

/-- Takes a fraction: a point and digits. -/
def takeFraction : List Char → List Char × List Char
  | '.' :: rest =>
    match takeFigures Char.isDigit rest with
    | ([], _) => ([], '.' :: rest)
    | (digits, rest) => ('.' :: digits, rest)
  | cs => ([], cs)

/-- Takes a sign. -/
def takeSign : List Char → List Char × List Char
  | '+' :: rest => (['+'], rest)
  | '-' :: rest => (['-'], rest)
  | cs => ([], cs)

/-- Takes an exponent. -/
def takeExponent : List Char → List Char × List Char
  | [] => ([], [])
  | c :: rest =>
    if c = 'e' ∨ c = 'E' then
      let (sign, more) := takeSign rest
      match takeFigures Char.isDigit more with
      | ([], _) => ([], c :: rest)
      | (digits, more) => ('e' :: sign ++ digits, more)
    else ([], c :: rest)

/-- Takes the digits before the point: a single zero, or digits that start with another one. -/
def takeWhole : List Char → List Char × List Char
  | '0' :: rest => (['0'], rest)
  | cs => takeFigures Char.isDigit cs

/-- Takes a number in base ten. -/
def takeDecimal (cs : List Char) : Taken Datum :=
  let (sign, rest) := takeSign cs
  match takeWhole rest with
  | ([], _) => none
  | (whole, rest) =>
    let (fraction, rest) := takeFraction rest
    let (exponent, rest) := takeExponent rest
    if fraction.isEmpty && exponent.isEmpty then
      (Decimal.integerOf? (sign ++ whole)).map fun n => (.int n, rest)
    else (Decimal.numberOf? (sign ++ whole ++ fraction ++ exponent)).map fun x => (.num x, rest)

/-- Takes a number. -/
def takeNumber (cs : List Char) : Taken Datum :=
  let based := match cs with
    | '0' :: 'x' :: rest => takeBased 16 (fun c => (Text.hexValue? c).isSome) rest
    | '0' :: 'o' :: rest => takeBased 8 (fun c => '0' ≤ c && c ≤ '7') rest
    | '0' :: 'b' :: rest => takeBased 2 (fun c => c == '0' || c == '1') rest
    | _ => none
  based.or (takeDecimal cs)

/-- Takes the name of a number that digits cannot write. -/
def takeNamedNumber (cs : List Char) : Taken Datum :=
  let (sign, rest) := takeSign cs
  match rest with
  | 'i' :: 'n' :: 'f' :: rest => some (.num (.infinite (sign == ['-'])), rest)
  | 'n' :: 'a' :: 'n' :: rest => some (.num .nan, rest)
  | _ => none

/-! ## Dates -/

/-- Takes two digits that write a number from `low` to `high`. -/
def takePair (low high : Nat) : List Char → Taken Nat
  | a :: b :: rest =>
    if a.isDigit && b.isDigit then
      let n := digitsValue 10 [a, b]
      if low ≤ n && n ≤ high then some (n, rest) else none
    else none
  | _ => none

/-- A time of day. -/
structure Clock where
  hour : Nat
  minute : Nat
  second : Nat
  /-- The digits of the fraction of a second. -/
  fraction : List Char
deriving DecidableEq, Repr

/-- Takes a time of day. -/
def takeClock (cs : List Char) : Taken Clock :=
  match takePair 0 23 cs with
  | some (hour, ':' :: rest) =>
    match takePair 0 59 rest with
    | some (minute, ':' :: rest) =>
      match takePair 0 59 rest with
      | some (second, '.' :: rest) =>
        match rest.takeWhile Char.isDigit with
        | [] => some (⟨hour, minute, second, []⟩, '.' :: rest)
        | digits => some (⟨hour, minute, second, digits⟩, rest.dropWhile Char.isDigit)
      | some (second, rest) => some (⟨hour, minute, second, []⟩, rest)
      | none => none
    | _ => none
  | _ => none

/-- A time of day is kept as the list of its parts, the last of which are millionths of a second. -/
def Clock.toDatum (c : Clock) : Datum :=
  let millionths := digitsValue 10 ((c.fraction ++ List.replicate 6 '0').take 6)
  .list [.int c.hour, .int c.minute, .int c.second, .int millionths]

/-- The form in which a time of day follows a date. -/
def Clock.text (c : Clock) : List Char :=
  let pair (n : Nat) : List Char := (paddedText 2 n).toList
  pair c.hour ++ ':' :: pair c.minute ++ ':' :: pair c.second ++
    if c.fraction.isEmpty then [] else '.' :: c.fraction

/-- Takes a distance from universal time, if there is one. -/
def takeOffset (cs : List Char) : List Char × List Char :=
  match cs with
  | 'Z' :: rest => ("+00:00".toList, rest)
  | 'z' :: rest => ("+00:00".toList, rest)
  | c :: rest =>
    if c = '+' ∨ c = '-' then
      match takePair 0 23 rest with
      | some (hours, ':' :: more) =>
        match takePair 0 59 more with
        | some (minutes, more) =>
          (c :: (paddedText 2 hours).toList ++ ':' :: (paddedText 2 minutes).toList, more)
        | none => ([], cs)
      | _ => ([], cs)
    else ([], cs)
  | [] => ([], [])

/-- Whether a text starts with a date, whether or not there is such a day. -/
def startsWithDate (cs : List Char) : Bool :=
  let shape := "0000-00-00".toList
  cs.length ≥ shape.length &&
    (cs.zip shape).all fun (c, s) => if s = '-' then c == '-' else c.isDigit

/-- Takes a date, and the time of day that may follow it. -/
def takeDate (cs : List Char) : Taken Datum :=
  let day := cs.take 10
  let rest := cs.drop 10
  let dayAlone : Taken Datum := (Calendar.Iso.read? day).map fun s => (.day s.dayNumber.toNat, rest)
  match rest with
  | c :: more =>
    if c = 'T' ∨ c = 't' ∨ c = ' ' then
      match takeClock more with
      | some (clock, more) =>
        let (offset, more) := takeOffset more
        (Calendar.Iso.read? (day ++ 'T' :: clock.text ++ offset)).map fun s => (.stamp s, more)
      | none => dayAlone
    else dayAlone
  | [] => dayAlone

/-! ## Keys -/

/-- Characters of a key that needs no quotes. -/
def isBare (c : Char) : Bool :=
  c.isAlphanum || c == '-' || c == '_'

/-- Takes one part of a key. -/
def takeKeyPart (cs : List Char) : Taken String :=
  match cs with
  | '"' :: rest => (takeBasic rest).map fun (t, rest) => (String.ofList t, rest)
  | '\'' :: rest => (takeLiteral rest).map fun (t, rest) => (String.ofList t, rest)
  | cs =>
    match cs.takeWhile isBare with
    | [] => none
    | part => some (String.ofList part, cs.dropWhile isBare)

/-- Takes a key, whose parts are separated by points; at most `fuel` parts. -/
def takeKeyWithin (fuel : Nat) (cs : List Char) : Taken (List String) :=
  match fuel, takeKeyPart cs with
  | fuel + 1, some (part, rest) =>
    match skipGaps rest with
    | '.' :: more =>
      (takeKeyWithin fuel (skipGaps more)).map fun (parts, rest) => (part :: parts, rest)
    | rest => some ([part], rest)
  | _, _ => none

/-- Takes a key and the blanks after it. -/
def takeKey (cs : List Char) : Taken (List String) := takeKeyWithin cs.length cs

/-! ## Tables -/

/-- Changes the table that a path leads to, making the tables on the way that are missing. Where a
list of tables stands on the way, its last table counts, if lists may be entered. -/
def alter (lists : Bool) (f : Fields → Option Fields) : List String → Fields → Option Fields
  | [], table => f table
  | key :: path, table =>
    match table.get? key with
    | none => (alter lists f path []).map fun inner => table.put key (.record inner)
    | some (.record inner) =>
      (alter lists f path inner).map fun inner => table.put key (.record inner)
    | some (.list items) =>
      match lists, items.getLast? with
      | true, some (.record inner) =>
        (alter lists f path inner).map fun inner =>
          table.put key (.list (items.dropLast ++ [.record inner]))
      | _, _ => none
    | some _ => none

/-- Adds an entry to a table; no key is given twice. -/
def addEntry (key : String) (value : Datum) (table : Fields) : Option Fields :=
  if table.has key then none else some (table.put key value)

/-- Whether a value is closed: a list or a table that was written as one value. -/
def isClosed : Datum → Bool
  | .list _ => true
  | .record _ => true
  | _ => false

/-- Whether a path lies in one of these places or beyond. -/
def isWithin (places : List (List String)) (path : List String) : Bool :=
  places.any fun place => place.isPrefixOf path

/-- Takes what may stand between the items of a list: blanks, line ends and comments. -/
def skipBetween (fuel : Nat) (cs : List Char) : Option (List Char) :=
  match fuel, cs.dropWhile isWideGap with
  | fuel + 1, '#' :: rest =>
    if (rest.takeWhile (· != '\n')).any isControl then none
    else skipBetween fuel (rest.dropWhile (· != '\n'))
  | _, rest => some rest

/-- The table that entries on one line make: no key is given twice, and closed values are not
added to. -/
def inlineTable (entries : List (List String × Datum)) : Option Fields :=
  let step (acc : Fields × List (List String)) (entry : List String × Datum) :
      Option (Fields × List (List String)) :=
    let (path, value) := entry
    if isWithin acc.2 path then none
    else (alter false (addEntry (path.getLast?.getD "") value) path.dropLast acc.1).map fun table =>
      (table, if isClosed value then path :: acc.2 else acc.2)
  (entries.foldlM step ([], [])).map (·.1)

mutual

/-- Takes a value. -/
def takeValue (fuel : Nat) (cs : List Char) : Taken Datum :=
  match fuel with
  | 0 => none
  | fuel + 1 =>
    match cs with
    | '"' :: _ => (takeText cs).map fun (t, rest) => (.text (String.ofList t), rest)
    | '\'' :: _ => (takeText cs).map fun (t, rest) => (.text (String.ofList t), rest)
    | 't' :: 'r' :: 'u' :: 'e' :: rest => some (.bool true, rest)
    | 'f' :: 'a' :: 'l' :: 's' :: 'e' :: rest => some (.bool false, rest)
    | '[' :: rest => (takeItems fuel rest).map fun (items, rest) => (.list items, rest)
    | '\x7b' :: rest =>
      match skipGaps rest with
      | '\x7d' :: rest => some (.record [], rest)
      | rest =>
        match takeEntries fuel rest with
        | some (entries, rest) => (inlineTable entries).map fun table => (.record table, rest)
        | none => none
    | cs =>
      if startsWithDate cs then takeDate cs
      else match takeClock cs with
        | some (clock, rest) => some (clock.toDatum, rest)
        | none => (takeNumber cs).or (takeNamedNumber cs)

/-- Takes the items of a list and the bracket that ends it. -/
def takeItems (fuel : Nat) (cs : List Char) : Taken (List Datum) :=
  match fuel, skipBetween cs.length cs with
  | _, some (']' :: rest) => some ([], rest)
  | fuel + 1, some rest =>
    match takeValue fuel rest with
    | some (item, rest) =>
      match skipBetween rest.length rest with
      | some (']' :: rest) => some ([item], rest)
      | some (',' :: rest) => (takeItems fuel rest).map fun (items, rest) => (item :: items, rest)
      | _ => none
    | none => none
  | _, _ => none

/-- Takes the entries of a table on one line, of which there is at least one, and the brace that
ends it. -/
def takeEntries (fuel : Nat) (cs : List Char) : Taken (List (List String × Datum)) :=
  match fuel, takeKey cs with
  | fuel + 1, some (path, '=' :: rest) =>
    match takeValue fuel (skipGaps rest) with
    | some (value, rest) =>
      match skipGaps rest with
      | '\x7d' :: rest => some ([(path, value)], rest)
      | ',' :: rest =>
        (takeEntries fuel (skipGaps rest)).map fun (entries, rest) =>
          ((path, value) :: entries, rest)
      | _ => none
    | none => none
  | _, _ => none

end

/-- Takes a key, an equals sign and a value. -/
def takePairing (cs : List Char) : Taken (List String × Datum) :=
  match takeKey cs with
  | some (path, '=' :: rest) =>
    (takeValue (2 * rest.length + 1) (skipGaps rest)).map fun (value, rest) => ((path, value), rest)
  | _ => none

end TaskSieve.Toml
