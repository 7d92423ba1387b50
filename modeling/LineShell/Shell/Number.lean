import LineShell.Shell.Streams

/-!
# Numbers that scripts write

A numeral is read as far as it goes: blanks, a sign, and digits of a base, where the base itself may
be told by the first digits.  Numbers have 64 bits; a larger one is cut to the largest.
-/

namespace LineShell
namespace Shell

def isSpace (c : Char) : Bool := [' ', '\t', '\n', '\x0b', '\x0c', '\r'].contains c

/-- The value of a digit, in bases up to 36. -/
def digitValue? (c : Char) : Option Nat :=
  if c.isDigit then some (c.toNat - '0'.toNat)
  else if c.isLower then some (c.toNat - 'a'.toNat + 10)
  else if c.isUpper then some (c.toNat - 'A'.toNat + 10)
  else none

def isDigitOf (base : Nat) (c : Char) : Bool := (digitValue? c).any (· < base)

def ofDigits (base : Nat) (digits : List Char) : Nat :=
  digits.foldl (fun n c => base * n + (digitValue? c).getD 0) 0

/-- Takes the digits of a number off a text, where the base may be told by the first digits. -/
def takeDigits (base : Nat) (text : List Char) : Option (Nat × List Char) :=
  let plain := fun base (text : List Char) =>
    let digits := text.takeWhile (isDigitOf base)
    if digits.isEmpty then none else some (ofDigits base digits, text.drop digits.length)
  let hexadecimal := fun (rest : List Char) => (plain 16 rest).or (some (0, 'x' :: rest))
  match base, text with
  | 0, '0' :: 'x' :: rest | 16, '0' :: 'x' :: rest => hexadecimal rest
  | 0, '0' :: 'X' :: rest | 16, '0' :: 'X' :: rest => hexadecimal rest
  | 0, '0' :: _ => plain 8 text
  | 0, _ => plain 10 text
  | _, _ => plain base text

/-- Takes the sign off a text: whether it is negative, and the rest. -/
def takeSign : List Char → Bool × List Char
  | '-' :: rest => (true, rest)
  | '+' :: rest => (false, rest)
  | rest => (false, rest)

def largestInt : Int := 9223372036854775807

def smallestInt : Int := -9223372036854775808

/-- Reads a numeral at the start of a text: the number as it is, and what follows. -/
def readNumeral (base : Nat) (text : List Char) : Option (Int × List Char) :=
  let (negative, rest) := takeSign (text.dropWhile isSpace)
  (takeDigits base rest).map fun (n, rest) => (if negative then -(n : Int) else n, rest)

/-- Cuts a number to the range of 64 bits. -/
def clamp (n : Int) : Int := max smallestInt (min largestInt n)

def fits (n : Int) : Bool := clamp n = n

namespace Run

def badNumber {α : Type} (text : Octets) : Run α := fail ("Illegal number: " ++ text)

/-- Reads a whole text as a number in a base.  Where the base is told by the digits, no digits are
zero. -/
def wholeNumber (base : Nat) (text : Octets) : Run Int := do
  match readNumeral base text.toList with
  | some (n, rest) =>
    if !fits n || !rest.all isSpace then badNumber text
    return n
  | none => if base = 0 && text.toList.all isSpace then return 0 else badNumber text

def largestCount : Int := 2147483647

def count (text : Octets) : Run Nat := do
  let n ← wholeNumber 10 text
  if n < 0 || largestCount < n then badNumber text
  return n.toNat

end Run
end Shell
end LineShell
