import LineShell.Text.Numeral

/-!
# Numbers with a fraction

A numeral with a fraction is read exactly, and then cut to so many binary digits, as machines keep
them.  It is written with a fixed number of places, with a power of ten, or in the shorter of the
two ways.  A half goes to the even neighbour, both when digits are cut and when they are written.
-/

namespace LineShell

/-- A number that is a quotient, or none at all. -/
inductive Fraction where
  | finite (negative : Bool) (numerator denominator : Nat)
  | infinite (negative : Bool)
  | undefined (negative : Bool)
  deriving DecidableEq, Repr

namespace Fraction

/-- The nearest whole number to a quotient. -/
def roundDiv (n d : Nat) : Nat :=
  let q := n / d
  let twice := 2 * (n % d)
  if d < twice || twice = d && q % 2 = 1 then q + 1 else q

def cut (bits n d : Nat) : Nat × Nat :=
  if n = 0 then (0, 1)
  else
    -- The quotient has between `size` and `size + 1` binary digits before the point.
    let size : Int := n.log2 - d.log2
    let scaled := fun shift : Int =>
      if 0 ≤ shift then (n <<< shift.toNat, d) else (n, d <<< (-shift).toNat)
    let shift := bits - 1 - size
    let (a, b) := scaled shift
    let shift := if a / b < 1 <<< (bits - 1) then shift + 1 else shift
    let (a, b) := scaled shift
    let m := roundDiv a b
    if 0 ≤ shift then (m, 1 <<< shift.toNat) else (m <<< (-shift).toNat, 1)

/-- The power of two from which on numbers of so many binary digits are infinite. -/
def ceiling (bits : Nat) : Nat := if bits ≤ 53 then 1024 else 16384

def ofQuotient (bits : Nat) (negative : Bool) (n d : Nat) : Fraction :=
  let (n, d) := cut bits n d
  if d * (1 <<< ceiling bits) ≤ n then .infinite negative else .finite negative n d

def takeDigits (text : List Char) : List Char × List Char :=
  (text.takeWhile Char.isDigit, text.dropWhile Char.isDigit)

/-- Takes a power off a text, if there is one, where two letters may announce it. -/
def takePower (low high : Char) (text : List Char) : Int × List Char :=
  match text with
  | e :: rest =>
    let (negative, digits) := match rest with
      | '-' :: more => (true, more)
      | '+' :: more => (false, more)
      | more => (false, more)
    let (digits, after) := takeDigits digits
    if (e = low || e = high) && !digits.isEmpty then
      let n : Int := Numeral.value digits
      (if negative then -n else n, after)
    else (0, text)
  | [] => (0, [])

/-- Takes a word off a text, where case does not count. -/
def takeWord? (word : String) (text : List Char) : Option (List Char) :=
  if (text.take word.length).map Char.toLower = word.toList then some (text.drop word.length)
  else none

def hexadecimal? (c : Char) : Option Nat :=
  if c.isDigit then some (c.toNat - '0'.toNat)
  else if 'a' ≤ c.toLower && c.toLower ≤ 'f' then some (c.toLower.toNat - 'a'.toNat + 10)
  else none

/-- Reads a numeral at the start of a text, with so many binary digits. -/
def read? (bits : Nat) (text : List Char) : Option (Fraction × List Char) :=
  let start := text.dropWhile fun c => [' ', '\t', '\n', '\x0b', '\x0c', '\r'].contains c
  let (negative, body) := match start with
    | '-' :: rest => (true, rest)
    | '+' :: rest => (false, rest)
    | rest => (false, rest)
  let finite := ofQuotient bits negative
  match takeWord? "infinity" body <|> takeWord? "inf" body, takeWord? "nan" body with
  | some rest, _ => some (.infinite negative, rest)
  | none, some rest => some (.undefined negative, rest)
  | none, none =>
    let isDigit := fun c => (hexadecimal? c).isSome
    let whole := (body.drop 2).takeWhile isDigit
    let rest := (body.drop 2).drop whole.length
    let (places, rest) := match rest with
      | '.' :: more => (more.takeWhile isDigit, more.dropWhile isDigit)
      | more => ([], more)
    if (takeWord? "0x" body).isSome && !(whole ++ places).isEmpty then
      let n := (whole ++ places).foldl (fun n c => 16 * n + (hexadecimal? c).getD 0) 0
      let (power, after) := takePower 'p' 'P' rest
      let power := max (-40000) (min 40000 power) - 4 * (places.length : Int)
      if 0 ≤ power then some (finite (n <<< power.toNat) 1, after)
      else some (finite n (1 <<< (-power).toNat), after)
    else
      let (whole, rest) := takeDigits body
      let (places, after) := match rest with
        | '.' :: more => takeDigits more
        | more => ([], more)
      if whole.isEmpty && places.isEmpty then none
      else
        let after := if places.isEmpty && whole.isEmpty then rest else after
        let (power, after) := takePower 'e' 'E' after
        let power := max (-10000) (min 10000 power)
        let n := Numeral.value (whole ++ places)
        let d := Nat.pow 10 places.length
        if 0 ≤ power then some (finite (n * Nat.pow 10 power.toNat) d, after)
        else some (finite n (d * Nat.pow 10 (-power).toNat), after)

/-! ## Writing -/

def digits (least n : Nat) : List Char :=
  let text := Nat.toDigits 10 n
  List.replicate (least - text.length) '0' ++ text

def fixed (places n d : Nat) : String :=
  let all := digits (places + 1) (roundDiv (n * Nat.pow 10 places) d)
  let whole := all.take (all.length - places)
  let rest := all.drop (all.length - places)
  String.ofList (if rest.isEmpty then whole else whole ++ '.' :: rest)

/-- The power of ten of a quotient's first digit. -/
def magnitude (n d : Nat) : Int :=
  if n = 0 then 0
  else if d ≤ n then ((Nat.toDigits 10 (n / d)).length : Int) - 1
  else
    -- As many places are needed as bring the quotient to one or above.
    let least := (Nat.toDigits 10 (d / n)).length
    let k := if d ≤ n * Nat.pow 10 (least - 1) then least - 1 else least
    Int.negOfNat k

/-- The digits of a quotient, and the power of ten of the first of them. -/
def significant (count n d : Nat) : List Char × Int :=
  let power := magnitude n d
  let shift := (count : Int) - 1 - power
  let m := if 0 ≤ shift then roundDiv (n * Nat.pow 10 shift.toNat) d
    else roundDiv n (d * Nat.pow 10 (-shift).toNat)
  if Nat.pow 10 count ≤ m then (digits count (m / 10), power + 1) else (digits count m, power)

/-- Writes a power of ten, with a sign and at least two digits. -/
def powerText (power : Int) : String :=
  (if power < 0 then "e-" else "e+") ++ String.ofList (digits 2 power.natAbs)

def pointed (all : List Char) : String :=
  match all with
  | [] => ""
  | [c] => String.singleton c
  | c :: rest => String.ofList (c :: '.' :: rest)

def scientific (places n d : Nat) : String :=
  let (all, power) := significant (places + 1) n d
  pointed all ++ powerText power

def withoutZeros (text : List Char) : List Char :=
  if text.contains '.' then
    let kept := (text.reverse.dropWhile (· = '0'))
    ((if kept.head? = some '.' then kept.tail else kept)).reverse
  else text

/-- Writes a quotient in the shorter of the two ways, with so many digits. -/
def general (keepsZeros : Bool) (count n d : Nat) : String :=
  let count := max count 1
  let (all, power) := significant count n d
  let trim := fun text : String =>
    if keepsZeros then text else String.ofList (withoutZeros text.toList)
  if -4 ≤ power && power < count then trim (fixed ((count : Int) - 1 - power).toNat n d)
  else trim (pointed all) ++ powerText power

end Fraction
end LineShell
