import LineShell.Shell.Formatting
import LineShell.Shell.Utility.Options

/-!
# The program that counts

`seq` shows the numbers from a first one to a last one.  Numbers are kept as multiples of the
smallest decimal place that the operands have, so that steps add up without rounding.
-/

namespace LineShell
namespace Shell
namespace Counting

structure Decimal where
  /-- The number without its point. -/
  digits : Int
  /-- How many digits stand behind the point. -/
  places : Nat
  /-- How many characters it takes to write. -/
  width : Nat

namespace Decimal

/-- Reads what may follow the digits: a power of ten. -/
def exponent? : List Char → Option Int
  | [] => some 0
  | 'e' :: rest | 'E' :: rest =>
    match rest with
    | '+' :: rest => (Numeral.natural? rest).map (·)
    | rest => Numeral.signed? rest
  | _ => none

def read? (text : Octets) : Option Decimal := do
  let chars := text.toList.dropWhile isSpace
  let (negative, rest) := takeSign chars
  let sign : Int := if negative then -1 else 1
  let signWidth := if negative then 1 else 0
  match rest with
  | '0' :: 'x' :: digits | '0' :: 'X' :: digits =>
    if digits.isEmpty || !digits.all (isDigitOf 16) then none
    else
      let n := ofDigits 16 digits
      return { digits := sign * n, places := 0, width := signWidth + (Numeral.decimal n).length }
  | _ =>
    let front := rest.takeWhile Char.isDigit
    let after := rest.drop front.length
    let fraction := match after with
      | '.' :: more => more.takeWhile Char.isDigit
      | _ => []
    let pointed := after.head? = some '.'
    let left := after.drop (fraction.length + if pointed then 1 else 0)
    if front.isEmpty && fraction.isEmpty then none
    else
      let power ← exponent? left
      let n : Int := sign * ofDigits 10 (front ++ fraction)
      let places := (fraction.length : Int) - power
      let width := signWidth + max 1 front.length + (if fraction.isEmpty then 0 else 1)
        + fraction.length
      if places < 0 then
        let shift := places.natAbs
        return { digits := n * Nat.pow 10 shift, places := 0, width := width + shift }
      else return { digits := n, places := places.toNat, width }

def scaled (d : Decimal) (places : Nat) : Int := d.digits * Nat.pow 10 (places - d.places)

def widthWith (d : Decimal) (places : Nat) : Nat :=
  let point := if d.places = 0 && places != 0 then 1 else 0
  let lost := if d.places != 0 && places = 0 then 1 else 0
  d.width + places - d.places + point - lost

end Decimal

/-- Writes a number of units, where so many digits stand behind the point. -/
def write (places width : Nat) (n : Int) : Octets :=
  let digits := Numeral.decimal n.natAbs
  let digits := String.ofList (List.replicate (places + 1 - digits.length) '0') ++ digits
  let front := digits.toList.take (digits.length - places)
  let text := if places = 0 then digits.toList
    else front ++ '.' :: digits.toList.drop front.length
  let sign := if n < 0 then ['-'] else []
  let zeros := List.replicate (width - sign.length - text.length) '0'
  String.ofList (sign ++ zeros ++ text)

/-- What numbers there are, and how they are written. -/
structure Row where
  step : Int
  last : Int
  separator : Octets
  write : Int → Octets

def Row.has (r : Row) (n : Int) : Bool := if 0 < r.step then n ≤ r.last else r.last ≤ n

/-- How many numbers are shown at once. -/
def blockSize : Nat := 1000

def showFrom (r : Row) : Nat → Int → List Octets → Nat → Run Unit
  | 0, _, _, _ => return
  | fuel + 1, n, block, size => do
    let n := n + r.step
    let more := r.has n
    let block := if more then r.write n :: r.separator :: block else "\n" :: block
    if !more then Run.emit (String.join block.reverse)
    else if blockSize ≤ size then
      Run.emit (String.join block.reverse)
      showFrom r fuel n [] 0
    else showFrom r fuel n block (size + 1)

/-- Shows the numbers of a row from the first one on. -/
def showRow (r : Row) (first : Int) : Run Unit := do
  if r.has first then
    let count := (r.last - first).natAbs / r.step.natAbs + 2
    showFrom r count first [r.write first] 0

/-! ## Formats -/

/-- Reads a format: the text before its directive, the directive and its letter, and the text after;
or says what is wrong with it. -/
def readFormat (format : Octets) :
    Except Octets (List Char × Directive × Char × List Char) := do
  let shown := "format " ++ Quoting.plain format
  let (before, rest) := text (format.length + 1) format.toList
  match rest with
  | [] => .error (shown ++ " has no % directive")
  | rest =>
    let (directive, rest) := Directive.take "-+#0 '".toList rest
    let rest := if rest.head? = some 'L' then rest.tail else rest
    match rest with
    | [] => .error (shown ++ " ends in %")
    | letter :: rest =>
      if !"aefgAEFG".toList.contains letter then
        .error (shown ++ " has unknown %" ++ String.singleton letter ++ " directive")
      else
        let (after, more) := text (format.length + 1) rest
        if more.isEmpty then return (before, directive, letter, after)
        else .error (shown ++ " has too many % directives")
where
  /-- The text up to a directive, in which two percent signs are one, and what follows its sign. -/
  text : Nat → List Char → List Char × List Char
    | 0, _ | _, [] => ([], [])
    | fuel + 1, '%' :: '%' :: rest =>
      let (front, rest) := text fuel rest
      ('%' :: front, rest)
    | _, '%' :: rest => ([], if rest.isEmpty then ['\x00'] else rest)
    | fuel + 1, c :: rest =>
      let (front, rest) := text fuel rest
      (c :: front, rest)

def writeThrough (places : Nat) (format : List Char × Directive × Char × List Char) (n : Int) :
    Octets :=
  let (before, directive, letter, after) := format
  let amount := fun a : Amount => match a with
    | .written n => some n
    | _ => none
  let f : Fitting :=
    { flags := directive.flags, width := (amount directive.width).getD 0
      precision := amount directive.precision }
  let value := Fraction.ofQuotient 64 (n < 0) n.natAbs (Nat.pow 10 places)
  String.ofList before ++ f.fraction 64 letter value ++ String.ofList after

/-! ## The program -/

/-- Cuts words into the options in front and what follows them.  A number may be negative. -/
def cutOptions : List Octets → List Octets × List Octets
  | [] => ([], [])
  | word :: words =>
    match word.toList with
    | ['-', '-'] => ([], words)
    | '-' :: c :: _ =>
      if c.isDigit || c = '.' then ([], word :: words)
      else if ["-s", "-f", "--separator", "--format"].contains word then
        match words with
        | value :: words =>
          let (front, rest) := cutOptions words
          (word :: value :: front, rest)
        | [] => ([word], [])
      else
        let (front, rest) := cutOptions words
        (word :: front, rest)
    | _ => ([], word :: words)

/-- Shows the numbers that the options and three numbers ask for. -/
def count (name : Octets) (given : Given) (first step last : Decimal) (stepText : Octets) :
    Run Nat := do
  let places := max first.places step.places
  let units := max places last.places
  let lost := units - places
  let start := first.scaled units
  let increment := step.scaled units
  let finish := last.scaled units
  let width := if given.has 'w' then max (first.widthWith places) (last.widthWith places) else 0
  if increment = 0 then
    Tool.misuse name ("invalid Zero increment value: " ++ Quoting.plain stepText) 1
  else
    let separator := (given.value? 's').getD "\n"
    let row := fun write : Int → Octets =>
      ({ step := increment, last := finish, separator, write } : Row)
    match given.value? 'f' with
    | none =>
      showRow (row fun n => write places width (n.tdiv (Nat.pow 10 lost))) start
      return 0
    | some text =>
      match readFormat text with
      | .error problem =>
        Tool.complain name problem
        return 1
      | .ok format =>
        if given.has 'w' then
          Tool.misuse name
            "format string may not be specified when printing equal width strings" 1
        else
          showRow (row (writeThrough units format)) start
          return 0

def seq : Tool := fun _ name words => do
  let (front, operands) := cutOptions words
  let shapes : OptionShapes :=
    [⟨'f', "format", .yes⟩, ⟨'s', "separator", .yes⟩, ⟨'w', "equal-width", .no⟩]
  match shapes.read false (front.length + 1) front with
  | .error text => Tool.misuse name text 1
  | .ok given =>
    match operands with
    | [] => Tool.misuse name "missing operand" 1
    | _ :: _ :: _ :: extra :: _ =>
      Tool.misuse name ("extra operand " ++ Quoting.plain extra) 1
    | _ =>
      match operands.find? fun word => (Decimal.read? word).isNone with
      | some word =>
        Tool.misuse name ("invalid floating point argument: " ++ Quoting.plain word) 1
      | none =>
        let one : Decimal := { digits := 1, places := 0, width := 1 }
        match operands.filterMap Decimal.read? with
        | [first, step, last] => count name given first step last (operands[1]?.getD "")
        | [first, last] => count name given first one last ""
        | [last] => count name given one one last ""
        | _ => return 1

end Counting
end Shell
end LineShell
