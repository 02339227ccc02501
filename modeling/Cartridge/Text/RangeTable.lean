/-!
# Sets of characters given by code point ranges

A character property is a table of inclusive code point ranges in increasing order.  The tables
themselves stand in the modules named for the property; this module holds only their type and
membership.
-/

namespace Cartridge.Text

/-- A set of characters, as inclusive ranges of code points. -/
abbrev RangeTable := Array (Nat × Nat)

/-- The ranges of a set, from the lengths of the runs of code points that are outside it and inside
it in turn. -/
def RangeTable.ofRuns (runs : List Nat) : RangeTable :=
  (go 0 runs).toArray
where
  go (start : Nat) : List Nat → List (Nat × Nat)
    | outside :: inside :: rest =>
      (start + outside, start + outside + inside - 1) :: go (start + outside + inside) rest
    | _ => []

/-- The character lies in one of the ranges. -/
def RangeTable.contains (table : RangeTable) (c : Char) : Bool :=
  table.any fun range => range.1 ≤ c.toNat && c.toNat ≤ range.2

end Cartridge.Text
