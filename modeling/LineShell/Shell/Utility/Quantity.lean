import LineShell.Shell.Number
import LineShell.Shell.Utility.Options

/-!
# Amounts

An amount is a number that may be followed by a letter for a unit.  The letter stands for a power of
1024; with a further `B` it stands for a power of 1000, if the program allows that.
-/

namespace LineShell
namespace Shell
namespace Quantity

/-- What came of reading an amount. -/
inductive Outcome where
  | fine (n : Nat)
  /-- There is a number, but it has more than 64 bits. -/
  | tooLarge
  | malformed
  deriving DecidableEq, Repr

/-- How many numbers of 64 bits there are. -/
def limit : Nat := UInt64.size

def powers : List (Char × Nat) :=
  [('k', 1), ('K', 1), ('M', 2), ('m', 2), ('G', 3), ('g', 3), ('T', 4), ('t', 4), ('P', 5),
   ('E', 6), ('Z', 7), ('Y', 8)]

/-- What a unit multiplies by.  A zero among the letters allows for powers of 1000. -/
def factor? (letters : List Char) : List Char → Option Nat
  | [] => some 1
  | c :: rest =>
    if !letters.contains c || c = '0' then none
    else
      match powers.lookup c, rest with
      | some power, [] => some (Nat.pow 1024 power)
      | some power, ['i', 'B'] => if letters.contains '0' then some (Nat.pow 1024 power) else none
      | some power, ['B'] | some power, ['D'] =>
        if letters.contains '0' then some (Nat.pow 1000 power) else none
      | some _, _ => none
      | none, [] =>
        match c with
        | 'b' => some 512
        | 'B' => some 1024
        | 'c' => some 1
        | 'w' => some 2
        | _ => none
      | none, _ => none

/-- Reads an amount, whose units have some letters. -/
def read (letters : String) (text : Octets) : Outcome :=
  let chars := text.toList.dropWhile fun c => c = ' ' || 9 ≤ c.toNat && c.toNat ≤ 13
  let body := if chars.head? = some '+' then chars.tail else chars
  let digits := body.takeWhile Char.isDigit
  let rest := body.drop digits.length
  let letters := letters.toList
  if digits.isEmpty && !(rest.head?.any letters.contains && chars.head? != some '+') then .malformed
  else
    match factor? letters rest with
    | none => .malformed
    | some factor =>
      let n := (if digits.isEmpty then 1 else Numeral.value digits) * factor
      if limit ≤ n then .tooLarge else .fine n

/-- Reads a whole number with a sign, without a unit. -/
def readSigned (text : Octets) : Option Int :=
  let chars := text.toList.dropWhile fun c => c = ' ' || 9 ≤ c.toNat && c.toNat ≤ 13
  Numeral.signed? chars

/-- What came of reading an amount whose unit is told apart from its number. -/
inductive Detail where
  | fine (n : Nat)
  | tooLarge
  | noNumber
  | badUnit
  deriving DecidableEq, Repr

/-- Reads an amount in a base, which may be told by the first digits, with units of some letters. -/
def readIn (base : Nat) (letters : String) (text : Octets) : Detail :=
  let chars := text.toList.dropWhile isSpace
  let body := if chars.head? = some '+' then chars.tail else chars
  match takeDigits base body with
  | none => if (factor? letters.toList body).isSome && !body.isEmpty then .fine 1 else .noNumber
  | some (n, rest) =>
    match factor? letters.toList rest with
    | none => .badUnit
    | some factor => if limit ≤ n * factor then .tooLarge else .fine (n * factor)

end Quantity

namespace Tool

def optionAmount (name option : Octets) (base : Nat) (letters : String) (text : Octets) :
    Run (Option Nat) := do
  let blame := fun (front back : String) => do
    complain name (front ++ option ++ " argument " ++ Quoting.plain text ++ back)
    return none
  match Quantity.readIn base letters text with
  | .fine n => return some n
  | .tooLarge => blame "" " too large"
  | .noNumber => blame "invalid " ""
  | .badUnit => blame "invalid suffix in " ""

/-- What is said of a number that is too large. -/
def overflow : String := "Value too large for defined data type"

def badAmount (name what text : Octets) (reason : Option String) : Run Unit :=
  complain name (what ++ ": " ++ Quoting.plain text ++ (reason.map (": " ++ ·)).getD "")

def amount (name what : Octets) (letters : String) (least most : Nat) (text : Octets) :
    Run (Option Nat) := do
  match Quantity.read letters text with
  | .malformed =>
    badAmount name what text none
    return none
  | .tooLarge =>
    badAmount name what text (some overflow)
    return none
  | .fine n =>
    if least ≤ n && n ≤ most then return some n
    badAmount name what text
      (some (if 1073741823 < n then overflow else Fault.outOfRange.description))
    return none

/-- Reads a whole number with a sign within bounds, or complains. -/
def integer (name what : Octets) (least most : Int) (text : Octets) : Run (Option Int) := do
  match Quantity.readSigned text with
  | none =>
    badAmount name what text none
    return none
  | some n =>
    if least ≤ n && n ≤ most then return some n
    let large := !Numeral.fitsInt64 n || 1073741823 < n
    badAmount name what text (some (if large then overflow else Fault.outOfRange.description))
    return none

end Tool
end Shell
end LineShell
