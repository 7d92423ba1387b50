import LineShell.Text.Numeral
import LineShell.Text.Octets

/-!
# Digests that take a message block by block

A message is filled up with a one bit, zeros and its own length, until it is a whole number of
blocks of sixteen words.  Every block changes a state of a few words, and the digest is the
beginning of the last state.
-/

namespace LineShell
namespace Digest

/-- How a family of digests works; words are numbers of a fixed width. -/
structure Scheme (word : Type) where
  ofNat : Nat → word
  toNat : word → Nat
  width : Nat
  /-- Whether the first byte of a word counts most. -/
  big : Bool
  start : Array word
  /-- The state after a block of sixteen words. -/
  compress : Array word → Array word → Array word
  size : Nat

/-- The bytes of a number, the one that counts least first. -/
def littleBytes : Nat → Nat → List UInt8
  | 0, _ => []
  | width + 1, n => n.toUInt8 :: littleBytes width (n / 256)

/-- The number that bytes write, the one that counts most first. -/
def ofBigBytes (bytes : List UInt8) : Nat := bytes.foldl (fun n byte => 256 * n + byte.toNat) 0

namespace Scheme

variable {word : Type}

def bytes (s : Scheme word) (width n : Nat) : List UInt8 :=
  if s.big then (littleBytes width n).reverse else littleBytes width n

def number (s : Scheme word) (bytes : List UInt8) : Nat :=
  ofBigBytes (if s.big then bytes else bytes.reverse)

/-- A message filled up to whole blocks. -/
def fill (s : Scheme word) (message : List UInt8) : List UInt8 :=
  let block := 16 * s.width
  let used := (message.length + 1 + 2 * s.width) % block
  let zeros := List.replicate ((block - used) % block) 0
  message ++ 0x80 :: zeros ++ s.bytes (2 * s.width) (8 * message.length)

/-- Takes words off bytes, so many at most. -/
def takeWords (s : Scheme word) : Nat → List UInt8 → Array word → Array word × List UInt8
  | 0, rest, words => (words, rest)
  | n + 1, rest, words =>
    s.takeWords n (rest.drop s.width) (words.push (s.ofNat (s.number (rest.take s.width))))

def absorb (s : Scheme word) : Nat → List UInt8 → Array word → Array word
  | 0, _, state | _, [], state => state
  | fuel + 1, bytes, state =>
    let (block, rest) := s.takeWords 16 bytes #[]
    s.absorb fuel rest (s.compress state block)

def digest (s : Scheme word) (message : List UInt8) : List UInt8 :=
  let bytes := s.fill message
  let state := s.absorb (bytes.length + 1) bytes s.start
  (state.toList.flatMap fun w => s.bytes s.width (s.toNat w)).take s.size

end Scheme

/-- The root of a number, rounded down, of a power; found bit by bit from a bound on. -/
def root (power n : Nat) : Nat → Nat → Nat
  | 0, found => found
  | bit + 1, found =>
    let next := found + (1 <<< bit)
    root power n bit (if Nat.pow next power ≤ n then next else found)

/-- Whether nothing from two on up to a number's half divides it. -/
def isPrime (n : Nat) : Bool :=
  2 ≤ n && (List.range n).all fun d => d < 2 || n % d != 0

def primes (count : Nat) : List Nat := ((List.range 420).filter isPrime).take count

/-- The first bits of what is behind the point in the root of a number. -/
def rootBits (power bits n : Nat) : Nat :=
  root power (n * (1 <<< (power * bits))) (bits + 5) 0 % (1 <<< bits)

end Digest
end LineShell
