/-!
# Properties of characters as ranges

A property of Unicode is a set of code points, given as ranges with both ends included, in rising
order.
-/

namespace LineShell

abbrev CodeRanges := List (Nat × Nat)

namespace CodeRanges

def has (ranges : CodeRanges) (c : Char) : Bool :=
  ranges.any fun r => r.1 ≤ c.toNat && c.toNat ≤ r.2

def size (ranges : CodeRanges) : Nat :=
  ranges.foldl (fun sum r => sum + (r.2 + 1 - r.1)) 0

end CodeRanges
end LineShell
