import LineShell.Shell.Number
import LineShell.Text.Fraction

/-!
# Formats

A format is text with directives, each of which is filled with an operand.  A directive has flags, a
least width, and a precision; what they mean depends on its letter.
-/

namespace LineShell
namespace Shell

/-- A number in a directive: written there, or taken from an operand. -/
inductive Amount where
  | absent
  | written (n : Nat)
  | taken
  deriving DecidableEq, Repr

/-- A directive without its letter. -/
structure Directive where
  flags : List Char := []
  width : Amount := .absent
  precision : Amount := .absent
  deriving Repr

namespace Directive

def takeAmount : List Char → Amount × List Char
  | '*' :: rest => (.taken, rest)
  | text =>
    let digits := text.takeWhile Char.isDigit
    (if digits.isEmpty then .absent else .written (ofDigits 10 digits), text.drop digits.length)

/-- Takes a directive off a text that follows a percent sign, where flags are among some marks. -/
def take (marks : List Char) (text : List Char) : Directive × List Char :=
  let flags := text.takeWhile fun c => marks.contains c
  let (width, rest) := takeAmount (text.drop flags.length)
  match rest with
  | '.' :: rest =>
    let (precision, rest) := takeAmount rest
    let precision := if precision = .absent then .written 0 else precision
    ({ flags, width, precision }, rest)
  | _ => ({ flags, width }, rest)

end Directive

/-- A directive whose numbers are known. -/
structure Fitting where
  flags : List Char
  width : Nat
  precision : Option Nat

namespace Fitting

def has (f : Fitting) (c : Char) : Bool := f.flags.contains c

def widest : Nat := 1 <<< 24

def pad (f : Fitting) (text : String) : String :=
  let gap := String.ofList (List.replicate (min widest f.width - text.length) ' ')
  if f.has '-' then text ++ gap else gap ++ text

def padNumber (f : Fitting) (zeros : Bool) (sign digits : String) : String :=
  if zeros && f.has '0' && !f.has '-' then
    let gap := min widest f.width - sign.length - digits.length
    sign ++ String.ofList (List.replicate gap '0') ++ digits
  else f.pad (sign ++ digits)

def text (f : Fitting) (value : Octets) : String :=
  f.pad (match f.precision with
    | some n => String.ofList (value.toList.take n)
    | none => value)

def sign (f : Fitting) (negative : Bool) : String :=
  if negative then "-" else if f.has '+' then "+" else if f.has ' ' then " " else ""

/-- Digits, at least as many as the precision asks for. -/
def leastDigits (f : Fitting) (digits : String) : String :=
  match f.precision with
  | some 0 => if digits = "0" then "" else digits
  | some n => String.ofList (List.replicate (min widest n - digits.length) '0') ++ digits
  | none => digits

def signed (f : Fitting) (n : Int) : String :=
  f.padNumber f.precision.isNone (f.sign (n < 0)) (f.leastDigits (Numeral.decimal n.natAbs))

/-- A number without a sign in a base. -/
def unsigned (f : Fitting) (letter : Char) (n : Nat) : String :=
  let base := if letter = 'o' then 8 else if letter = 'x' || letter = 'X' then 16 else 10
  let digits := f.leastDigits (String.ofList (Nat.toDigits base n))
  let digits := if letter = 'X' then String.ofList (digits.toList.map Char.toUpper) else digits
  let digits :=
    if letter = 'o' && f.has '#' && !digits.startsWith "0" then "0" ++ digits else digits
  let front := if base = 16 && f.has '#' && n != 0 then String.ofList ['0', letter] else ""
  f.padNumber f.precision.isNone front digits

/-- Hexadecimal digits of a number, at least so many. -/
def hexDigits (least n : Nat) : List Char :=
  let digits := Nat.toDigits 16 n
  List.replicate (least - digits.length) '0' ++ digits

/-- A quotient of so many binary digits in hexadecimal digits and a power of two. -/
def hexadecimal (f : Fitting) (bits n d : Nat) : String :=
  let point := fun (whole : List Char) (rest : List Char) (power : Int) =>
    let dot := if rest.isEmpty && !f.has '#' then [] else ['.']
    String.ofList (whole ++ dot ++ rest ++ 'p' :: (if power < 0 then '-' else '+') ::
      Nat.toDigits 10 power.natAbs)
  if n = 0 then point ['0'] (List.replicate (f.precision.getD 0) '0') 0
  else
    let size : Int := n.log2 - d.log2
    let scaled := fun shift : Int =>
      if 0 ≤ shift then (n <<< shift.toNat) / d else n / (d <<< (-shift).toNat)
    let size := if scaled (bits - 1 - size) < 1 <<< (bits - 1) then size - 1 else size
    let digits := scaled (bits - 1 - size)
    -- The first hexadecimal digit has as many binary digits as are left over by the others.
    let places := (bits - 1) / 4
    let power := size - ((bits - 1) % 4 : Nat)
    let kept := (f.precision.getD places)
    let rounded := if kept < places then Fraction.roundDiv digits (Nat.pow 16 (places - kept))
      else digits * Nat.pow 16 (kept - places)
    let (rounded, power) := if Nat.pow 16 (kept + 1) ≤ rounded then (rounded / 16, power + 4)
      else (rounded, power)
    let all := hexDigits (kept + 1) rounded
    let rest := all.drop 1
    let rest := if f.precision.isSome then rest
      else (rest.reverse.dropWhile (· = '0')).reverse
    point (all.take 1) rest power

/-- A number with a fraction, by its letter, where it has so many binary digits. -/
def fraction (f : Fitting) (bits : Nat) (letter : Char) (value : Fraction) : String :=
  let places := f.precision.getD 6
  let lower := letter.toLower
  let write := fun (n d : Nat) =>
    if lower = 'f' then Fraction.fixed places n d
    else if lower = 'e' then Fraction.scientific places n d
    else Fraction.general (f.has '#') places n d
  let case := fun text : String =>
    if letter.isUpper then String.ofList (text.toList.map Char.toUpper) else text
  match value with
  | .finite negative n d =>
    if lower = 'a' then
      f.padNumber true (f.sign negative ++ case "0x") (case (f.hexadecimal bits n d))
    else f.padNumber true (f.sign negative) (case (write n d))
  | .infinite negative => f.padNumber false (f.sign negative) (case "inf")
  | .undefined negative => f.padNumber false (f.sign negative) (case "nan")

end Fitting
end Shell
end LineShell
