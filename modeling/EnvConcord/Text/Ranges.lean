/-!
# Sets of characters given by ranges

A range table lists disjoint closed intervals of code points in ascending order;
membership is found by bisection.
-/

namespace EnvConcord.Text

/-- Disjoint closed intervals of code points in ascending order. -/
abbrev RangeTable := Array (Nat × Nat)

/-- Search the intervals from index `low` to before index `high`; each step halves
their number, so `fuel` steps settle `2 ^ fuel` intervals. -/
def RangeTable.search (table : RangeTable) (code : Nat) : Nat → Nat → Nat → Bool
  | 0, _, _ => false
  | fuel + 1, low, high =>
      if high ≤ low then false
      else
        let middle := (low + high) / 2
        match table[middle]? with
        | none => false
        | some (first, last) =>
            if code < first then search table code fuel low middle
            else if last < code then search table code fuel (middle + 1) high
            else true

/-- Whether a code point lies in one of the intervals. -/
def RangeTable.holds (table : RangeTable) (code : Nat) : Bool :=
  table.search code 16 0 table.size

end EnvConcord.Text
