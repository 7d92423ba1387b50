import LineShell.Shell.Number

/-!
# Sizes for people

A size is written with few digits and a letter for its unit, a power of 1024 or of 1000.  It is
never rounded to less than it is.
-/

namespace LineShell
namespace Shell
namespace Magnitude

def letters : List String := ["K", "M", "G", "T", "P", "E", "Z", "Y"]

def divideUp (n d : Nat) : Nat := (n + d - 1) / d

/-- The size in units of the largest power that leaves a whole part. -/
def scaled (base n : Nat) : Nat → List String → Nat → String
  | _, [], unit => Numeral.decimal (divideUp n unit : Nat)
  | 0, _, unit => Numeral.decimal (divideUp n unit : Nat)
  | fuel + 1, letter :: rest, unit =>
    let tenths := divideUp (10 * n) unit
    if tenths < 100 then
      Numeral.decimal (tenths / 10 : Nat) ++ "." ++ Numeral.decimal (tenths % 10 : Nat) ++ letter
    else
      let whole := divideUp n unit
      if whole < base then Numeral.decimal whole ++ letter
      else scaled base n fuel rest (unit * base)

def human (base n : Nat) : String :=
  if n < base then Numeral.decimal n
  else
    let letters := if base = 1000 then "k" :: letters.tail else letters
    scaled base n letters.length letters base

inductive Scale where
  /-- In units of so many bytes, with a letter behind them. -/
  | fixed (bytes : Nat) (letter : String)
  | powers (base : Nat)
  deriving DecidableEq, Repr

def Scale.write (scale : Scale) (n : Nat) : String :=
  match scale with
  | .fixed bytes letter => Numeral.decimal (divideUp n bytes : Nat) ++ letter
  | .powers base => human base n

/-- Reads a unit, with the letters of its power; none if it is malformed. -/
def Scale.read? (text : Octets) : Option Scale :=
  match text with
  | "human-readable" => some (.powers 1024)
  | "si" => some (.powers 1000)
  | _ =>
    let chars := text.toList
    let chars := if chars.head? = some '\'' then chars.tail else chars
    let digits := chars.takeWhile Char.isDigit
    let n := if digits.isEmpty then 1 else ofDigits 10 digits
    match chars.drop digits.length with
    | [] => if digits.isEmpty || n = 0 then none else some (.fixed n "")
    | c :: rest =>
      let power? := ("KMGTPEZY".toList.findIdx? (· = (if c = 'k' then 'K' else c))).map (· + 1)
      let base? := match rest with
        | [] | ['i', 'B'] => some 1024
        | ['B'] => some 1000
        | _ => none
      match power?, base? with
      | some power, some base =>
        let letter := if digits.isEmpty then
            (if base = 1000 && c = 'K' then "k" else String.singleton c) ++ String.ofList rest
          else ""
        if n = 0 then none else some (.fixed (n * Nat.pow base power) letter)
      | _, _ => none

end Magnitude
end Shell
end LineShell
