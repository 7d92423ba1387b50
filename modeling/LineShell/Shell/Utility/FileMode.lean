import LineShell.Text.Numeral
import LineShell.Text.Octets

/-!
# Changes of modes

A mode is twelve bits.  The text of a change is a number in octal digits, or clauses between commas.
A clause says whose bits it is about and then, one or several times, what is done with which bits.
-/

namespace LineShell
namespace Shell
namespace FileMode

def all : Nat := 0o7777

/-- What is done with some bits. -/
inductive Deed where
  | put
  | add
  | take
  deriving DecidableEq, Repr

inductive Bits where
  | fixed (bits : Nat)
  /-- These, and the right to pass if somebody has it already or if it is a directory. -/
  | passing (bits : Nat)
  /-- The rights that one class has, for every class. -/
  | copied (range : Nat)
  deriving DecidableEq, Repr

structure Step where
  deed : Deed
  bits : Bits
  /-- The bits of those who are named; none if nobody is. -/
  range : Nat
  /-- The bits of a directory that the text speaks of, beyond the nine usual ones. -/
  mentioned : Nat
  deriving DecidableEq, Repr

abbrev Change := List Step

def put (mode mentioned : Nat) : Change :=
  [{ deed := .put, bits := .fixed mode, range := all, mentioned }]

def spread (bits : Nat) : Nat :=
  (if bits &&& 0o444 != 0 then 0o444 else 0) ||| (if bits &&& 0o222 != 0 then 0o222 else 0) |||
    (if bits &&& 0o111 != 0 then 0o111 else 0)

namespace Step

/-- The bits of a directory that a step leaves alone, as the text does not speak of them. -/
def kept (step : Step) (directory : Bool) : Nat :=
  if directory then 0o6000 &&& (all ^^^ (step.mentioned &&& all)) else 0

/-- The bits that a step is about, given an old mode.  The mask counts where nobody is named. -/
def meant (step : Step) (mask : Nat) (directory : Bool) (old : Nat) : Nat :=
  let bits := match step.bits with
    | .fixed bits => bits
    | .passing bits => if directory || old &&& 0o111 != 0 then bits ||| 0o111 else bits
    | .copied range => spread (old &&& range)
  let range := if step.range = 0 then all ^^^ (mask &&& all) else step.range
  bits &&& range &&& (all ^^^ step.kept directory)

/-- The bits that stay as they are when others are put. -/
def staying (step : Step) (directory : Bool) : Nat :=
  (if step.range = 0 then 0 else all ^^^ step.range) ||| step.kept directory

def apply (step : Step) (mask : Nat) (directory : Bool) (old : Nat) : Nat :=
  let bits := step.meant mask directory old
  match step.deed with
  | .put => (old &&& step.staying directory) ||| bits
  | .add => old ||| bits
  | .take => old &&& (all ^^^ bits)

def decided (step : Step) (mask : Nat) (directory : Bool) (old : Nat) : Nat :=
  match step.deed with
  | .put => all &&& (all ^^^ step.staying directory)
  | .add | .take => step.meant mask directory old

end Step

def adjust (change : Change) (mask : Nat) (directory : Bool) (old : Nat) : Nat :=
  change.foldl (fun mode step => step.apply mask directory mode) (old &&& all)

def decided (change : Change) (mask : Nat) (directory : Bool) (old : Nat) : Nat :=
  (change.foldl (fun (mode, bits) step =>
    (step.apply mask directory mode, bits ||| step.decided mask directory mode))
    (old &&& all, 0)).2

/-- The mode of a directory that is made with a change: where the change does not decide, the mask
does. -/
def ofNewDirectory (change : Change) (mask : Nat) : Nat :=
  let decided := decided change mask true 0o777
  adjust change mask true 0o777 &&& (all ^^^ (mask &&& (all ^^^ decided)))

/-! ## Reading -/

def isOctal (c : Char) : Bool := '0' ≤ c && c ≤ '7'

def ofOctal (digits : List Char) : Nat :=
  digits.foldl (fun n c => 8 * n + (c.toNat - '0'.toNat)) 0

def classBits : Char → Option Nat
  | 'u' => some 0o4700
  | 'g' => some 0o2070
  | 'o' => some 0o1007
  | 'a' => some all
  | _ => none

def letterBits : Char → Option Nat
  | 'r' => some 0o444
  | 'w' => some 0o222
  | 'x' => some 0o111
  | 'X' => some 0
  | 's' => some 0o6000
  | 't' => some 0o1000
  | _ => none

def deed? : Char → Option Deed
  | '=' => some .put
  | '+' => some .add
  | '-' => some .take
  | _ => none

/-- Reads the steps of a clause, whose class is given, up to the end of the clause. -/
def readSteps (range : Nat) : Nat → List Char → Option Change
  | 0, _ => none
  | _, [] => some []
  | fuel + 1, sign :: chars => do
    let deed ← deed? sign
    let step := fun (bits : Bits) (value : Nat) =>
      { deed, bits, range, mentioned := if range = 0 then value else range &&& value : Step }
    match chars with
    | [] => return [step (.fixed 0) 0]
    | c :: rest =>
      let digits := chars.takeWhile isOctal
      if !digits.isEmpty then
        let mode := ofOctal digits
        if all < mode || range != 0 || digits.length < chars.length then none
        else return [{ deed, bits := .fixed mode, range := all, mentioned := all }]
      else
        match "ugo".toList.contains c, classBits c with
        | true, some bits =>
          let bits := bits &&& 0o777
          return step (.copied bits) bits :: (← readSteps range fuel rest)
        | _, _ =>
          let letters := chars.takeWhile fun c => (letterBits c).isSome
          let bits := letters.foldl (fun bits c => bits ||| (letterBits c).getD 0) 0
          let meant := if letters.contains 'X' then Bits.passing bits else .fixed bits
          return step meant bits :: (← readSteps range fuel (chars.drop letters.length))

def readClause (chars : List Char) : Option Change :=
  let classes := chars.takeWhile fun c => (classBits c).isSome
  let range := classes.foldl (fun bits c => bits ||| (classBits c).getD 0) 0
  match chars.drop classes.length with
  | [] => none
  | steps => readSteps range (chars.length + 1) steps

def read (text : Octets) : Option Change :=
  let chars := text.toList
  if chars.head?.any isOctal then
    let mode := ofOctal chars
    if chars.all isOctal && mode ≤ all then
      some (put mode (if chars.length < 5 then mode ||| 0o777 else all))
    else none
  else do
    let clauses ← (text.splitOn ",").mapM fun clause => readClause clause.toList
    return clauses.flatten

/-! ## Writing -/

def digits (mode : Nat) : String :=
  let digit := fun n => Char.ofNat ('0'.toNat + n % 8)
  String.ofList [digit (mode / 512), digit (mode / 64), digit (mode / 8), digit mode]

/-- The nine letters of a mode, where the bits beyond the usual ones take the place of the rights to
pass. -/
def letters (mode : Nat) : String :=
  let triple := fun (shift special : Nat) (low high : Char) =>
    let n := mode >>> shift
    let passes := n &&& 1 != 0
    [if n &&& 4 != 0 then 'r' else '-', if n &&& 2 != 0 then 'w' else '-',
      if mode &&& special != 0 then (if passes then low else high)
      else if passes then 'x' else '-']
  String.ofList
    (triple 6 0o4000 's' 'S' ++ triple 3 0o2000 's' 'S' ++ triple 0 0o1000 't' 'T')

def both (mode : Nat) : String := digits mode ++ " (" ++ letters mode ++ ")"

end FileMode
end Shell
end LineShell
