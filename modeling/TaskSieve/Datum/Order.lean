import TaskSieve.Datum.Basic

set_option autoImplicit false

/-! # The order of values

Numbers and truth values compare by size, texts by code points, time stamps by instant, days by
date, and lists by their first difference. No other two values have an order. -/

namespace TaskSieve.Datum

/-- The integer that a truth value or an integer is. -/
def integer? : Datum → Option Int
  | .bool b => some (if b then 1 else 0)
  | .int n => some n
  | _ => none

/-- How two numbers compare, if both values are numbers; what is not a number compares with
nothing. -/
def compareNumbers? (a b : Datum) : Option (Option Ordering) :=
  match a.integer?, b.integer?, a, b with
  | some m, some n, _, _ => some (some (compare m n))
  | some m, none, _, .num y => some ((y.compareInt? m).map Ordering.swap)
  | none, some n, .num x, _ => some (x.compareInt? n)
  | none, none, .num x, .num y => some (x.compare? y)
  | _, _, _, _ => none

/-- How the code points of two texts compare. -/
def compareText : List Char → List Char → Ordering
  | [], [] => .eq
  | [], _ :: _ => .lt
  | _ :: _, [] => .gt
  | a :: as, b :: bs => (compare a.toNat b.toNat).then (compareText as bs)

mutual

/-- Whether two values are equal; numbers are if they have the same size, records if they have the
same fields in any order. -/
def same : Datum → Datum → Bool
  | .null, .null => true
  | .text a, .text b => a == b
  | .stamp a, .stamp b => a.same b
  | .day a, .day b => a == b
  | .list as, .list bs => sameItems as bs
  | .record as, .record bs => as.length == bs.length && sameFields as bs
  | a, b => compareNumbers? a b == some (some .eq)

/-- Whether two lists have equal items. -/
def sameItems : List Datum → List Datum → Bool
  | [], [] => true
  | a :: as, b :: bs => same a b && sameItems as bs
  | _, _ => false

/-- Whether a record has these fields. -/
def sameFields : List (String × Datum) → List (String × Datum) → Bool
  | [], _ => true
  | (k, a) :: rest, bs =>
    (match Fields.get? bs k with
      | some b => same a b
      | none => false) && sameFields rest bs

end

mutual

/-- Whether a value is below another, if the two have an order. -/
def below? : Datum → Datum → Option Bool
  | .text a, .text b => some (compareText a.toList b.toList == .lt)
  | .stamp a, .stamp b => (a.compare? b).map (· == .lt)
  | .day a, .day b => some (a < b)
  | .list as, .list bs => belowItems? as bs
  | a, b => (compareNumbers? a b).map (· == some .lt)

/-- Whether a list is below another: by the first items that differ, or by being a part of it. -/
def belowItems? : List Datum → List Datum → Option Bool
  | [], bs => some (!bs.isEmpty)
  | _ :: _, [] => some false
  | a :: as, b :: bs => if same a b then belowItems? as bs else below? a b

end

end TaskSieve.Datum
