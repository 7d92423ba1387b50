import LineShell.Text.Fraction

/-!
# Binary numbers with a fraction

Machines keep a number with a fraction as a sign, a power of two and some binary digits, packed into
words of 32, 64 or 80 bits.  Its text has as few decimal digits as are needed to read it back.
-/

namespace LineShell

structure Packing where
  /-- How many bits the power has. -/
  powerBits : Nat
  /-- How many bits follow the power. -/
  digitBits : Nat
  /-- Whether the first binary digit is among them. -/
  explicit : Bool := false
  /-- Between how many decimal digits the text has. -/
  least : Nat
  most : Nat

def Packing.single : Packing := { powerBits := 8, digitBits := 23, least := 6, most := 9 }

def Packing.double : Packing := { powerBits := 11, digitBits := 52, least := 15, most := 17 }

def Packing.extended : Packing :=
  { powerBits := 15, digitBits := 64, explicit := true, least := 18, most := 21 }

/-- A number `digits · 2 ^ power`. -/
structure Binary where
  digits : Nat
  power : Int
  /-- Whether it is so close to zero that it has fewer digits than others. -/
  tiny : Bool
  /-- Whether the next smaller number is nearer than the next larger one. -/
  edge : Bool

namespace Binary

def quotient (b : Binary) : Nat × Nat :=
  if 0 ≤ b.power then (b.digits <<< b.power.toNat, 1) else (b.digits, 1 <<< (-b.power).toNat)

/-- Whether a quotient is read as this number: it is not farther away than half of the way to a
neighbour, where half of the way is read as the number with even digits. -/
def isReadFrom (b : Binary) (n d : Nat) : Bool :=
  -- Everything is counted in quarters of the step to the next larger number.
  let (scale, den) := if 0 ≤ b.power then (1, d <<< b.power.toNat) else (1 <<< (-b.power).toNat, d)
  let place := 4 * n * scale
  let middle := 4 * b.digits * den
  let above := middle + 2 * den
  let below := middle - (if b.edge then den else 2 * den)
  let even := b.digits % 2 = 0
  (place < above || even && place = above) && (below < place || even && place = below)

/-- The shortest text that is read as this number, starting at so many digits. -/
def shortest (b : Binary) (most : Nat) : Nat → Nat → String
  | 0, count => (fun (n, d) => Fraction.general false count n d) b.quotient
  | fuel + 1, count =>
    let (n, d) := b.quotient
    let (all, power) := Fraction.significant count n d
    let value := Numeral.value all
    let shift := power - (count - 1 : Int)
    let (x, y) :=
      if 0 ≤ shift then (value * Nat.pow 10 shift.toNat, 1)
      else (value, Nat.pow 10 (-shift).toNat)
    if most ≤ count || b.isReadFrom x y then Fraction.general false count n d
    else shortest b most fuel (count + 1)

def textOf (p : Packing) (word : Nat) : String :=
  let digits := word % (1 <<< p.digitBits)
  let power := word / (1 <<< p.digitBits) % (1 <<< p.powerBits)
  let negative := word / (1 <<< (p.digitBits + p.powerBits)) % 2 = 1
  let sign := if negative then "-" else ""
  let rest := if p.explicit then digits % (1 <<< (p.digitBits - 1)) else digits
  if power = (1 <<< p.powerBits) - 1 then sign ++ (if rest = 0 then "inf" else "nan")
  else if digits = 0 && power = 0 then sign ++ "0"
  else
    let places : Nat := if p.explicit then p.digitBits - 1 else p.digitBits
    let bias : Int := (1 <<< (p.powerBits - 1) : Nat) - 1 + (places : Int)
    let leading := if p.explicit || power = 0 then 0 else 1 <<< p.digitBits
    let b : Binary :=
      { digits := digits + leading, power := max 1 (power : Int) - bias, tiny := power = 0
        edge := rest = 0 && 1 < power }
    sign ++ b.shortest p.most (p.most + 1) (if b.tiny then 1 else p.least)

end Binary
end LineShell
