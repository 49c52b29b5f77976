import TaskSieve.Text.Split
import TaskSieve.Web.Name
import TaskSieve.Web.Percent

set_option autoImplicit false

/-! # Hosts

The machine that an address names: a domain name, or a network address of four bytes or of eight
groups. -/

namespace TaskSieve.Web

/-- A machine. -/
inductive Host where
  /-- A domain name, in lower case and ASCII. -/
  | domain (name : String)
  /-- A number of 32 bits. -/
  | v4 (address : Nat)
  /-- Eight groups of 16 bits. -/
  | v6 (groups : List Nat)
deriving DecidableEq, Repr

namespace Host

open Text (hexValue? splitAtAll)

/-! ## Four bytes -/

/-- The number that figures of a base write. -/
def figures? (base : Nat) (cs : List Char) : Option Nat :=
  cs.foldlM (fun n c =>
    (hexValue? c).bind fun v => if v < base then some (base * n + v) else none) 0

/-- A part of an address of four bytes: decimal, octal after `0`, hexadecimal after `0x`. -/
def part? : List Char → Option Nat
  | [] => none
  | ['0'] => some 0
  | '0' :: c :: rest =>
    if c = 'x' ∨ c = 'X' then figures? 16 rest else figures? 8 (c :: rest)
  | cs => figures? 10 cs

/-- The parts of a name, without an empty one at the end. -/
def labels (name : List Char) : List (List Char) :=
  let parts := splitAtAll (· == '.') name
  if parts.length > 1 && parts.getLast? == some [] then parts.dropLast else parts

/-- Whether a name ends in a number, so that it has to be an address of four bytes. -/
def endsInNumber (name : List Char) : Bool :=
  match (labels name).getLast? with
  | some [] => false
  | some l =>
    let marked := l.take 2 == ['0', 'x'] || l.take 2 == ['0', 'X']
    l.all Char.isDigit || (marked && (part? l).isSome)
  | none => false

/-- The address of four bytes that at most four parts write; the last part fills the bytes left. -/
def v4OfParts? (parts : List Nat) : Option Nat :=
  match parts.reverse with
  | [] => none
  | last :: before =>
    let left := Nat.pow 256 (4 - before.length)
    if before.length < 4 && before.all (· < 256) && last < left then
      some (before.reverse.foldl (fun n p => 256 * n + p) 0 * left + last)
    else none

/-- Reads an address of four bytes. -/
def v4? (name : List Char) : Option Host :=
  ((labels name).mapM part?).bind fun parts => (v4OfParts? parts).map .v4

/-! ## Eight groups -/

/-- A group: one to four hexadecimal digits. -/
def group? (cs : List Char) : Option Nat :=
  if cs.isEmpty || cs.length > 4 then none else figures? 16 cs

/-- A byte in decimal, without leading zeros. -/
def decimalByte? (cs : List Char) : Option Nat :=
  match cs with
  | [] => none
  | ['0'] => some 0
  | '0' :: _ => none
  | cs => (figures? 10 cs).filter (· < 256)

/-- The groups that a text without empty groups writes; the last may be four bytes in decimal. -/
def groups? : List (List Char) → Option (List Nat)
  | [] => some []
  | [last] =>
    if last.contains '.' then
      match (splitAtAll (· == '.') last).mapM decimalByte? with
      | some [a, b, c, d] => some [256 * a + b, 256 * c + d]
      | _ => none
    else (group? last).map ([·])
  | g :: rest => (group? g).bind fun g => (groups? rest).map (g :: ·)

/-- The groups on one side of a pair of colons. -/
def side? (cs : List Char) : Option (List Nat) :=
  if cs.isEmpty then some [] else groups? (splitAtAll (· == ':') cs)

/-- Splits a text at its first pair of colons. -/
def splitPair : List Char → Option (List Char × List Char)
  | ':' :: ':' :: rest => some ([], rest)
  | c :: rest => (splitPair rest).map fun (a, b) => (c :: a, b)
  | [] => none

/-- Reads an address of eight groups; a pair of colons stands for as many zeros as are missing. -/
def v6? (cs : List Char) : Option Host :=
  match splitPair cs with
  | some (before, after) =>
    if before.contains '.' then none
    else match side? before, side? after with
      | some a, some b =>
        if a.length + b.length < 8 then
          some (.v6 (a ++ List.replicate (8 - a.length - b.length) 0 ++ b))
        else none
      | _, _ => none
  | none =>
    match side? cs with
    | some gs => if gs.length = 8 then some (.v6 gs) else none
    | none => none

/-! ## Names -/

/-- Characters that no domain name has. -/
def isForbidden (c : Char) : Bool :=
  c.toNat ≤ 0x20 || c.toNat = 0x7F || "#/:<>?@[\\]^|%".toList.contains c

/-- Reads a host. -/
def ofText? (cs : List Char) : Option Host :=
  match cs with
  | '[' :: rest =>
    if rest.getLast? = some ']' then v6? rest.dropLast else none
  | _ =>
    (Name.ascii? (Text.ofBytes (Percent.decode cs))).bind fun name =>
      if name.isEmpty || name.any isForbidden then none
      else if endsInNumber name then v4? name
      else some (.domain (String.ofList name))

/-! ## Writing -/

/-- The first longest run of zeros, as its start and length; `none` if no two zeros stand
together. -/
def longestZeros (groups : List Nat) : Option (Nat × Nat) :=
  let runAt (i : Nat) : Nat := ((groups.drop i).takeWhile (· == 0)).length
  let longest := (List.range groups.length).foldl
    (fun (best : Nat × Nat) i => if best.2 < runAt i then (i, runAt i) else best) (0, 0)
  if longest.2 < 2 then none else some longest

/-- Groups in hexadecimal, separated by colons. -/
def writeGroups (groups : List Nat) : String :=
  ":".intercalate (groups.map fun g => String.ofList (Nat.toDigits 16 g))

/-- The written form of a host. -/
def text : Host → String
  | domain name => name
  | v4 n =>
    let bytes := [n / 16777216 % 256, n / 65536 % 256, n / 256 % 256, n % 256]
    ".".intercalate (bytes.map toString)
  | v6 groups =>
    match longestZeros groups with
    | none => "[" ++ writeGroups groups ++ "]"
    | some (start, length) =>
      "[" ++ writeGroups (groups.take start) ++ "::" ++
        writeGroups (groups.drop (start + length)) ++ "]"

end Host

end TaskSieve.Web
