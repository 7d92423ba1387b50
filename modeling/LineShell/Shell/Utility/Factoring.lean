import LineShell.Shell.Utility.Inputs

/-!
# The program that factors numbers

This is `factor`.  Small primes are tried one after the other.  What is left is a prime, as several
tests say, or is split by walking around in a circle of remainders until two of them meet modulo a
factor.
-/

namespace LineShell
namespace Shell
namespace Factoring

def powerMod (modulus : Nat) : Nat → Nat → Nat → Nat → Nat
  | 0, _, _, result => result
  | fuel + 1, base, exponent, result =>
    if exponent = 0 then result
    else
      let result := if exponent % 2 = 1 then result * base % modulus else result
      powerMod modulus fuel (base * base % modulus) (exponent / 2) result

/-- Whether squaring so many times leads from a number to minus one. -/
def meetsMinusOne (modulus : Nat) : Nat → Nat → Bool
  | 0, _ => false
  | fuel + 1, x => x + 1 = modulus || meetsMinusOne modulus fuel (x * x % modulus)

def halve : Nat → Nat → Nat → Nat × Nat
  | 0, n, count => (n, count)
  | fuel + 1, n, count => if n % 2 = 0 then halve fuel (n / 2) (count + 1) else (n, count)

def bases : List Nat := [2, 3, 5, 7, 11, 13, 17, 19, 23, 29, 31, 37, 41, 43, 47, 53]

/-- Whether a number is a prime, as far as the bases tell. -/
def isPrime (n : Nat) : Bool :=
  if n < 2 then false
  else if bases.contains n then true
  else if bases.any fun b => n % b = 0 then false
  else
    let (odd, count) := halve n.log2 (n - 1) 0
    bases.all fun base =>
      let x := powerMod n (odd.log2 + 2) base odd 1
      x = 1 || meetsMinusOne n count x

/-- Takes a factor off a number as often as it goes. -/
def takeFactor (factor : Nat) : Nat → Nat → List Nat → Nat × List Nat
  | 0, n, found => (n, found)
  | fuel + 1, n, found =>
    if n % factor = 0 then takeFactor factor fuel (n / factor) (factor :: found) else (n, found)

/-- Tries factors from one on up to a bound, as long as their squares are not above the number. -/
def tryFactors : Nat → Nat → Nat → List Nat → Nat × List Nat
  | 0, _, n, found => (n, found)
  | fuel + 1, factor, n, found =>
    if n < factor * factor then (n, found)
    else
      let (n, found) := takeFactor factor (n.log2 + 1) n found
      tryFactors fuel (if factor = 2 then 3 else factor + 2) n found

/-- Looks for a factor by two walks, one twice as fast as the other. -/
def meet (n shift : Nat) : Nat → Nat → Nat → Option Nat
  | 0, _, _ => none
  | fuel + 1, slow, fast =>
    let step := fun x => (x * x + shift) % n
    let slow := step slow
    let fast := step (step fast)
    let common := Nat.gcd ((max slow fast) - (min slow fast)) n
    if common = 1 then meet n shift fuel slow fast
    else if common = n then none else some common

def walkLimit : Nat := 2000000

def split : Nat → Nat → List Nat
  | 0, n => [n]
  | fuel + 1, n =>
    if n = 1 then []
    else if isPrime n then [n]
    else
      match (List.range 8).findSome? fun shift => meet n (shift + 1) walkLimit 2 2 with
      | some factor => split fuel factor ++ split fuel (n / factor)
      | none => [n]

def factors (n : Nat) : List Nat :=
  if n < 2 then []
  else
    let (rest, found) := tryFactors 5000 2 n []
    if rest = 1 then found.reverse
    else found.reverse ++ (split 64 rest).mergeSort (· ≤ ·)

def counted : List Nat → List (Nat × Nat)
  | [] => []
  | n :: rest =>
    match counted rest with
    | (m, count) :: others =>
      if m = n then (m, count + 1) :: others else (n, 1) :: (m, count) :: others
    | [] => [(n, 1)]

def show_ (name : Octets) (powers : Bool) (text : Octets) : Run Bool := do
  let chars := text.toList.dropWhile (· = ' ')
  let digits := if chars.head? = some '+' then chars.tail else chars
  match Numeral.natural? digits with
  | none =>
    Tool.complain name (Quoting.plain text ++ " is not a valid positive integer")
    return false
  | some n =>
    let words := if powers then (counted (factors n)).map fun (factor, count) =>
        if count = 1 then Numeral.decimal factor
        else Numeral.decimal factor ++ "^" ++ Numeral.decimal count
      else (factors n).map fun (factor : Nat) => Numeral.decimal factor
    Run.emitLine (Numeral.decimal n ++ ":" ++ String.join (words.map (" " ++ ·)))
    return true

def wordsOf (chars : List Char) : List Octets :=
  let isGap := fun c => c = ' ' || c = '\t' || c = '\n'
  ((String.ofList (chars.map fun c => if isGap c then '\n' else c)).splitOn "\n").filter (· != "")

def factor : Tool := fun _ name words =>
  Tool.withOptions [⟨'h', "exponents", .no⟩] 1 name words fun given => do
    if !given.operands.isEmpty then Tool.each given.operands (show_ name (given.has 'h'))
    else
      match ← Run.readAll 0 with
      | .ok octets => Tool.each (wordsOf octets) (show_ name (given.has 'h'))
      | .error fault =>
        Tool.fault name "error reading input" fault
        return 1

end Factoring
end Shell
end LineShell
