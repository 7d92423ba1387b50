import LineShell.Shell.Utility.VersionOrder
import LineShell.Text.Fraction

/-!
# Orders of lines

Lines are ordered byte by byte, or by keys.  A key is a part of the line that is compared in a way
of its own: as bytes of which some may not count, as a number of some form, as a month or as a
version.
-/

namespace LineShell
namespace Shell
namespace Collation

abbrev Line := List Char

def compareBytes : Line → Line → Ordering
  | [], [] => .eq
  | [], _ => .lt
  | _, [] => .gt
  | a :: as, b :: bs =>
    match compare a.toNat b.toNat with
    | .eq => compareBytes as bs
    | order => order

inductive Counting where
  | every
  /-- Blanks, letters and digits. -/
  | dictionary
  | printing
  deriving DecidableEq, Repr

structure Comparison where
  numeric : Bool := false
  general : Bool := false
  human : Bool := false
  month : Bool := false
  version : Bool := false
  random : Bool := false
  counting : Counting := .every
  folds : Bool := false
  /-- Whether blanks before the start of a key do not count. -/
  skipsBlanks : Bool := false
  /-- Whether blanks before the end of a key do not count. -/
  skipsEndBlanks : Bool := false
  reverse : Bool := false
  deriving DecidableEq, Repr

def isBlank (c : Char) : Bool := c = ' ' || c = '\t' || c = '\n'

/-! ## Numbers -/

/-- A number without a power: whether it is negative, and its digits as a quotient. -/
def numberOf (line : Line) : Int × Nat :=
  let line := line.dropWhile isBlank
  let (negative, line) := match line with
    | '-' :: rest => (true, rest)
    | rest => (false, rest)
  let whole := line.takeWhile Char.isDigit
  let fraction := match line.drop whole.length with
    | '.' :: rest => rest.takeWhile Char.isDigit
    | _ => []
  let value : Nat := Numeral.value (whole ++ fraction)
  (if negative then -(value : Int) else value, fraction.length)

def compareNumbers (a b : Line) : Ordering :=
  let (m, p) := numberOf a
  let (n, q) := numberOf b
  compare (m * Nat.pow 10 q) (n * Nat.pow 10 p)

def unitLetters : List Char := "KMGTPEZYRQ".toList

/-- The rank of the unit behind a number, which is negative for negative numbers. -/
def unitRank (line : Line) : Int :=
  let (negative, body) := match line with
    | '-' :: rest => (true, rest)
    | rest => (false, rest)
  let whole := body.takeWhile Char.isDigit
  let rest := body.drop whole.length
  let (fraction, rest) := match rest with
    | '.' :: more => (more.takeWhile Char.isDigit, more.dropWhile Char.isDigit)
    | more => ([], more)
  let rank : Int := match rest with
    | c :: _ =>
      let letter := if c = 'k' then 'K' else c
      (unitLetters.findIdx? (· = letter)).elim 0 fun i => (i : Int) + 1
    | [] => 0
  if (whole ++ fraction).any (· != '0') then (if negative then -rank else rank) else 0

def compareHuman (a b : Line) : Ordering :=
  let a := a.dropWhile isBlank
  let b := b.dropWhile isBlank
  match compare (unitRank a) (unitRank b) with
  | .eq => compareNumbers a b
  | order => order

def precision : Nat := 64

/-- The rank of what is read as a number: nothing, what is no number, all numbers. -/
def generalRank : Option Fraction → Nat
  | none => 0
  | some (.undefined _) => 1
  | some (.infinite true) => 2
  | some (.finite ..) => 3
  | some (.infinite false) => 4

def compareGeneral (a b : Line) : Ordering :=
  let x : Option Fraction := (Fraction.read? precision a).map (·.1)
  let y : Option Fraction := (Fraction.read? precision b).map (·.1)
  match x, y with
  | some (.finite s m p), some (.finite t n q) =>
    let signed := fun (negative : Bool) (n : Nat) => if negative then -(n : Int) else (n : Int)
    compare (signed s m * (q : Int)) (signed t n * (p : Int))
  | x, y => compare (generalRank x) (generalRank y)

def months : List String :=
  ["JAN", "FEB", "MAR", "APR", "MAY", "JUN", "JUL", "AUG", "SEP", "OCT", "NOV", "DEC"]

/-- The number of the month that a line begins with; zero for none. -/
def monthOf (line : Line) : Nat :=
  let start := String.ofList (((line.dropWhile isBlank).take 3).map Char.toUpper)
  ((months.findIdx? (· = start)).map (· + 1)).getD 0

/-! ## Comparisons -/

namespace Comparison

def view (c : Comparison) (text : Line) : Line :=
  let text := match c.counting with
    | .every => text
    | .dictionary => text.filter fun c => c.isAlphanum || isBlank c
    | .printing => text.filter fun c => 32 ≤ c.toNat && c.toNat < 127
  if c.folds then text.map Char.toUpper else text

/-- The order of two texts, where the reverse is not yet counted. -/
def order (c : Comparison) (a b : Line) : Ordering :=
  let a := c.view a
  let b := c.view b
  if c.numeric then compareNumbers a b
  else if c.general then compareGeneral a b
  else if c.human then compareHuman a b
  else if c.month then compare (monthOf a) (monthOf b)
  else if c.version then VersionOrder.compareNames a b
  else compareBytes a b

/-- Whether a comparison is the usual one, which may be reversed. -/
def isUsual (c : Comparison) : Bool := { c with reverse := false } = ({} : Comparison)

def letters (c : Comparison) : List Char :=
  let rows := [(c.skipsBlanks || c.skipsEndBlanks, 'b'), (c.counting = .dictionary, 'd'),
    (c.folds, 'f'), (c.general, 'g'), (c.human, 'h'), (c.counting = .printing, 'i'),
    (c.month, 'M'), (c.numeric, 'n'), (c.random, 'R'), (c.reverse, 'r'), (c.version, 'V')]
  (rows.filter (·.1)).map (·.2)

/-- Whether a comparison asks for several orders at once. -/
def conflicts (c : Comparison) : Bool :=
  let others := c.version || c.random || c.counting != .every
  1 < ([c.numeric, c.general, c.human, c.month, others].filter id).length

/-- Changes a comparison as a letter asks for; none if there is no such letter.  Blanks do not count
before the start of a key, or before its end. -/
def withLetter (atStart atEnd : Bool) (c : Comparison) : Char → Option Comparison
  | 'b' => some { c with skipsBlanks := c.skipsBlanks || atStart
                         skipsEndBlanks := c.skipsEndBlanks || atEnd }
  | 'd' => some { c with counting := .dictionary }
  | 'f' => some { c with folds := true }
  | 'g' => some { c with general := true }
  | 'h' => some { c with human := true }
  | 'i' => some { c with counting := if c.counting = .every then .printing else c.counting }
  | 'M' => some { c with month := true }
  | 'n' => some { c with numeric := true }
  | 'R' => some { c with random := true }
  | 'r' => some { c with reverse := true }
  | 'V' => some { c with version := true }
  | _ => none

end Comparison

/-! ## Keys -/

/-- A part of a line: how many fields and bytes are before it, and where it ends. -/
structure Key where
  field : Nat := 0
  byte : Nat := 0
  /-- How many fields are before the field that it ends in, and how many bytes of that belong to it,
  where zero is the whole field. -/
  last : Option (Nat × Nat) := none
  comparison : Comparison := {}
  deriving DecidableEq, Repr

def skipFields (separator : Option Char) : Nat → Line → Line
  | 0, line => line
  | _, [] => []
  | n + 1, line =>
    match separator with
    | some c => skipFields separator n ((line.dropWhile (· != c)).drop 1)
    | none => skipFields separator n ((line.dropWhile isBlank).dropWhile fun c => !isBlank c)

namespace Key

def start (key : Key) (separator : Option Char) (line : Line) : Line :=
  let rest := skipFields separator key.field line
  (if key.comparison.skipsBlanks then rest.dropWhile isBlank else rest).drop key.byte

def rest (key : Key) (separator : Option Char) (line : Line) : Line :=
  match key.last with
  | none => []
  | some (field, 0) =>
    match separator with
    | none => skipFields none (field + 1) line
    | some c => (skipFields separator field line).dropWhile (· != c)
  | some (field, byte) =>
    let rest := skipFields separator field line
    (if key.comparison.skipsEndBlanks then rest.dropWhile isBlank else rest).drop byte

def part (key : Key) (separator : Option Char) (line : Line) : Line :=
  let start := key.start separator line
  start.take (start.length - (key.rest separator line).length)

end Key

def compareKeys (separator : Option Char) : List Key → Line → Line → Ordering
  | [], _, _ => .eq
  | key :: rest, a, b =>
    let order := key.comparison.order (key.part separator a) (key.part separator b)
    let order := if key.comparison.reverse then order.swap else order
    match order with
    | .eq => compareKeys separator rest a b
    | order => order

/-! ## Reading keys -/

inductive KeyFault where
  /-- A number is missing somewhere; the text from there on is given. -/
  | noNumber (place : String) (rest : Line)
  | invalid (reason : String)

def KeyFault.message (quote : Octets → Octets) (whole : Octets) : KeyFault → Octets
  | .noNumber place rest =>
    place ++ ": invalid count at start of " ++ quote (String.ofList rest)
  | .invalid reason => reason ++ ": invalid field specification " ++ quote whole

def countLimit : Nat := UInt64.size - 1

def readCount (place : String) (text : Line) : Except KeyFault (Nat × Line) :=
  let body := text.dropWhile fun c => c = ' ' || 9 ≤ c.toNat && c.toNat ≤ 13
  let body := if body.head? = some '+' then body.tail else body
  let digits := body.takeWhile Char.isDigit
  if digits.isEmpty then .error (.noNumber place text)
  else .ok (min countLimit (Numeral.value digits), body.drop digits.length)

def readLetters (atStart atEnd : Bool) (c : Comparison) : Line → Comparison × Line
  | [] => (c, [])
  | letter :: rest =>
    match c.withLetter atStart atEnd letter with
    | some c => readLetters atStart atEnd c rest
    | none => (c, letter :: rest)

def readKey (text : Octets) : Except KeyFault Key := do
  let (field, rest) ← readCount "invalid number at field start" text.toList
  if field = 0 then throw (.invalid "field number is zero")
  let (byte, rest) ← match rest with
    | '.' :: more => readCount "invalid number after '.'" more
    | more => pure (1, more)
  if byte = 0 then throw (.invalid "character offset is zero")
  let (comparison, rest) := readLetters true false {} rest
  match rest with
  | [] => return { field := field - 1, byte := byte - 1, comparison }
  | ',' :: more =>
    let (last, rest) ← readCount "invalid number after ','" more
    if last = 0 then throw (.invalid "field number is zero")
    let (lastByte, rest) ← match rest with
      | '.' :: more => readCount "invalid number after '.'" more
      | more => pure (0, more)
    let (comparison, rest) := readLetters false true comparison rest
    if !rest.isEmpty then throw (.invalid "stray character in field spec")
    return { field := field - 1, byte := byte - 1, last := some (last - 1, lastByte), comparison }
  | _ => throw (.invalid "stray character in field spec")

end Collation
end Shell
end LineShell
