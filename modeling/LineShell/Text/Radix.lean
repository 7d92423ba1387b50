import LineShell.Text.Numeral
import LineShell.Text.Octets

/-!
# Bytes as digits

Bits of bytes are cut into groups of a few bits each, and every group becomes a digit of an
alphabet.  Where the bits of all bytes do not fill the last run of digits, marks fill it up.
-/

namespace LineShell

/-- How bytes are written as digits. -/
structure Radix where
  alphabet : List Char
  /-- How many bits a digit stands for. -/
  bits : Nat
  /-- How many digits stand for a whole number of bytes. -/
  run : Nat
  /-- Whether a byte begins with the bit that counts least. -/
  reversed : Bool := false
  deriving DecidableEq, Repr

namespace Radix

def upper : List Char := "ABCDEFGHIJKLMNOPQRSTUVWXYZ".toList
def lower : List Char := upper.map Char.toLower
def digits : List Char := "0123456789".toList

def base64 : Radix := ⟨upper ++ lower ++ digits ++ ['+', '/'], 6, 4, false⟩
def base64url : Radix := ⟨upper ++ lower ++ digits ++ ['-', '_'], 6, 4, false⟩
def base32 : Radix := ⟨upper ++ "234567".toList, 5, 8, false⟩
def base32hex : Radix := ⟨digits ++ upper.take 22, 5, 8, false⟩
def base16 : Radix := ⟨digits ++ upper.take 6, 4, 2, false⟩
def base2 (reversed : Bool) : Radix := ⟨['0', '1'], 1, 8, reversed⟩

/-- What fills up the last run of digits. -/
def mark : Char := '='

/-- The bits of a number, the one that counts most first. -/
def bitsOf : Nat → Nat → List Bool
  | 0, _ => []
  | width + 1, n => (n / (1 <<< width) % 2 = 1) :: bitsOf width n

/-- The number that bits write, the one that counts most first. -/
def ofBits (bits : List Bool) : Nat := bits.foldl (fun n bit => 2 * n + bit.toNat) 0

def byteBits (r : Radix) (byte : UInt8) : List Bool :=
  let bits := bitsOf 8 byte.toNat
  if r.reversed then bits.reverse else bits

def bytesOfRun (r : Radix) : Nat := r.run * r.bits / 8

/-- The digits of bits, where zeros fill up the last one. -/
def digitsOf (r : Radix) : Nat → List Bool → List Char
  | 0, _ | _, [] => []
  | fuel + 1, bits =>
    let group := bits.take r.bits
    let filled := group ++ List.replicate (r.bits - group.length) false
    (r.alphabet.getD (ofBits filled) '0') :: digitsOf r fuel (bits.drop r.bits)

/-- The digits of the bytes of one run, filled up with marks. -/
def encodeRun (r : Radix) (bytes : List UInt8) : List Char :=
  let chars := r.digitsOf r.run (bytes.flatMap r.byteBits)
  chars ++ List.replicate (r.run - chars.length) mark

/-- Writes bytes run by run, before what was written already, backwards. -/
def encodeOnto (r : Radix) : Nat → List UInt8 → List Char → List Char
  | 0, _, done | _, [], done => done
  | fuel + 1, bytes, done =>
    r.encodeOnto fuel (bytes.drop r.bytesOfRun)
      ((r.encodeRun (bytes.take r.bytesOfRun)).reverse ++ done)

def encode (r : Radix) (bytes : List UInt8) : List Char :=
  (r.encodeOnto (bytes.length + 1) bytes []).reverse

def value? (r : Radix) (c : Char) : Option Nat := r.alphabet.findIdx? (· = c)

def bytesOf (r : Radix) : Nat → List Bool → List UInt8
  | 0, _ => []
  | fuel + 1, bits =>
    if bits.length < 8 then []
    else
      let byte := bits.take 8
      (ofBits (if r.reversed then byte.reverse else byte)).toUInt8 :: r.bytesOf fuel (bits.drop 8)

/-- The numbers of digits after which marks may fill up a run. -/
def ends (r : Radix) : List Nat :=
  (List.range r.bytesOfRun).filterMap fun bytes =>
    if bytes = 0 then none else some ((8 * bytes + r.bits - 1) / r.bits)

/-- Reads one run of digits: the bytes that can be told, and whether the run is whole. -/
def decodeRun (r : Radix) (chars : List Char) : List UInt8 × Bool :=
  let digits := chars.takeWhile fun c => (r.value? c).isSome
  let rest := chars.drop digits.length
  let whole := rest.isEmpty && digits.length = r.run ||
    r.ends.contains digits.length && digits.length + rest.length = r.run &&
      rest.all (· = mark)
  -- In long runs a digit counts only together with the one that ends a byte.
  let known := if r.run = 8 && r.bits = 5 then
      if chars.length < 8 then 0
      else (((r.ends ++ [r.run]).filter (· ≤ digits.length)).getLast?).getD 0
    else if r.bits < 5 && !whole then 0
    else digits.length
  (r.bytesOf r.bytesOfRun ((digits.take known).flatMap fun c =>
    bitsOf r.bits ((r.value? c).getD 0)), whole)

/-- Reads digits run by run up to the first run that is not whole: the bytes backwards, and whether
everything was read. -/
def decodeOnto (r : Radix) : Nat → List Char → List UInt8 → List UInt8 × Bool
  | 0, _, done | _, [], done => (done, true)
  | fuel + 1, chars, done =>
    let (bytes, whole) := r.decodeRun (chars.take r.run)
    let done := bytes.reverse ++ done
    if whole then r.decodeOnto fuel (chars.drop r.run) done else (done, false)

/-- Reads digits: the bytes, and whether everything was read. -/
def decode (r : Radix) (chars : List Char) : List UInt8 × Bool :=
  let (bytes, whole) := r.decodeOnto (chars.length + 1) chars []
  (bytes.reverse, whole)

end Radix
end LineShell
