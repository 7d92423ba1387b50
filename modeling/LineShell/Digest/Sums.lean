import LineShell.Text.Octets

/-!
# Sums of bytes

These are short digests that only guard against accidents: a remainder of polynomials over bits, and
two ways to add up bytes.
-/

namespace LineShell
namespace Digest
namespace Sums

/-- Shifts a bit out of a remainder. -/
def shift (remainder : UInt32) : UInt32 :=
  let doubled := remainder <<< 1
  if remainder &&& 0x80000000 != 0 then doubled ^^^ 0x04c11db7 else doubled

/-- Takes a byte into a remainder. -/
def take (remainder : UInt32) (byte : UInt8) : UInt32 :=
  (List.range 8).foldl (fun r _ => shift r) (remainder ^^^ (byte.toUInt32 <<< 24))

/-- Takes the bytes of a length into a remainder, the one that counts least first. -/
def takeLength : Nat → UInt32 → Nat → UInt32
  | 0, remainder, _ => remainder
  | fuel + 1, remainder, n =>
    if n = 0 then remainder else takeLength fuel (take remainder n.toUInt8) (n / 256)

/-- The remainder of a message and its length. -/
def cyclic (message : List UInt8) : Nat :=
  (~~~(takeLength 16 (message.foldl take 0) message.length)).toNat

/-- The sum of sixteen bits that is turned by one before each byte. -/
def turning (message : List UInt8) : Nat :=
  message.foldl (fun sum byte => (sum / 2 + sum % 2 * 0x8000 + byte.toNat) % 0x10000) 0

/-- The sum of all bytes, folded to sixteen bits. -/
def plain (message : List UInt8) : Nat :=
  let sum := message.foldl (fun sum byte => sum + byte.toNat) 0 % 0x100000000
  let once := sum % 0x10000 + sum / 0x10000
  once % 0x10000 + once / 0x10000

end Sums
end Digest
end LineShell
