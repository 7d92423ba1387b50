import LineShell.Shell.Utility.Cutting
import LineShell.Shell.Utility.Quantity
import LineShell.Text.Fraction

/-!
# The program that rescales numbers

This is `numfmt`.  It reads numbers that may have the letter of a power, and writes them in another
scale.  All numbers have 64 binary digits.
-/

namespace LineShell
namespace Shell
namespace Rescaling

/-- A number of 64 binary digits: a quotient. -/
structure Value where
  num : Int
  den : Nat
  deriving Inhabited

namespace Value

/-- Cuts a quotient to 64 binary digits. -/
def keep (num : Int) (den : Nat) : Value :=
  let (n, d) := Fraction.cut 64 num.natAbs den
  ⟨if num < 0 then -(n : Int) else n, d⟩

def ofNat (n : Nat) : Value := keep n 1

def mul (a b : Value) : Value := keep (a.num * b.num) (a.den * b.den)

def div (a b : Value) : Value := keep (a.num * b.den) (a.den * b.num.natAbs)

def add (a b : Value) : Value := keep (a.num * b.den + b.num * a.den) (a.den * b.den)

def neg (a : Value) : Value := { a with num := -a.num }

def power (base : Nat) : Nat → Value
  | 0 => ofNat 1
  | 1 => ofNat base
  | n + 1 => (power base n).mul (ofNat base)

/-- Whether a number, without its sign, is not below another one. -/
def reaches (a : Value) (n : Nat) : Bool := n * a.den ≤ a.num.natAbs

/-- Divides by a base until what is left is below it, and counts how often. -/
def scaleDown (base : Nat) : Nat → Value → Nat → Value × Nat
  | 0, v, count => (v, count)
  | fuel + 1, v, count =>
    if v.reaches base then scaleDown base fuel (v.div (ofNat base)) (count + 1) else (v, count)

def fixed (v : Value) (places : Nat) : String := Fraction.fixed places v.num.natAbs v.den

end Value

/-! ## Scales -/

inductive Scale where
  | none
  | auto
  | thousands
  | binary
  | binaryMarked
  deriving DecidableEq, Repr

def Scale.base : Scale → Nat
  | .binary | .binaryMarked => 1024
  | _ => 1000

inductive Rounding where
  | up
  | down
  | fromZero
  | towardsZero
  | nearest
  deriving DecidableEq, Repr

def Rounding.round (r : Rounding) (v : Value) : Value :=
  let floor := Int.fdiv v.num v.den
  let ceiling := -(Int.fdiv (-v.num) v.den)
  let n := match r with
    | .up => ceiling
    | .down => floor
    | .fromZero => if v.num < 0 then floor else ceiling
    | .towardsZero => Int.tdiv v.num v.den
    | .nearest =>
      let half : Value := ⟨if v.num < 0 then -1 else 1, 2⟩
      let w := v.add half
      Int.tdiv w.num w.den
  Value.keep n 1

/-- What is done about numbers that cannot be read. -/
inductive Invalid where
  | abort
  | fail
  | warn
  | ignore
  deriving DecidableEq, Repr

structure Manner where
  name : Octets
  source : Scale := .none
  target : Scale := .none
  sourceUnit : Nat := 1
  targetUnit : Nat := 1
  rounding : Rounding := .fromZero
  /-- How wide numbers are at least. -/
  padding : Nat := 0
  /-- Whether blanks stand behind numbers. -/
  left : Bool := false
  zeros : Nat := 0
  precision : Option Nat := none
  front : Octets := ""
  back : Octets := ""
  groups : Bool := false
  keeps : Option (Nat → Bool) := none
  delimiter : Option Char := none
  zero : Bool := false
  ending : Option Octets := none
  debugs : Bool := false
  header : Nat := 0
  format : Option Octets := none
  invalid : Invalid := .abort

/-! ## Reading numbers -/

/-- Why a number cannot be read. -/
inductive Refusal where
  | tooLarge
  | invalidNumber
  | forbiddenUnit
  | invalidUnit
  | missingMark
  deriving DecidableEq, Repr

def letters : List Char := "KMGTPEZY".toList

/-- Digits that can be read without loss, and digits that can be read at all. -/
def exactDigits : Nat := 18
def mostDigits : Nat := 27

/-- What was read of a number: it, the places behind its point, whether something was lost, and what
follows. -/
structure Numeric where
  value : Value
  places : Nat := 0
  lossy : Bool := false
  rest : List Char

def readWhole (text : List Char) : Except Refusal (Bool × Numeric) := do
  let negative := text.head? = some '-'
  let body := if negative then text.tail else text
  let digits := body.takeWhile Char.isDigit
  let rest := body.drop digits.length
  let count := (digits.dropWhile (· = '0')).length
  if mostDigits < count then throw .tooLarge
  if digits.isEmpty && rest.head? != some '.' then throw .invalidNumber
  let step := fun (v : Value) (c : Char) =>
    (v.mul (Value.ofNat 10)).add (Value.ofNat (c.toNat - '0'.toNat))
  let value := digits.foldl step (Value.ofNat 0)
  return (negative, { value := if negative then value.neg else value, rest,
                      lossy := exactDigits < count })

def readPointed (text : List Char) : Except Refusal Numeric := do
  let (negative, whole) ← readWhole text
  match whole.rest with
  | '.' :: after =>
    let (otherSign, part) ← readWhole after
    if otherSign then throw .invalidNumber
    let places := after.length - part.rest.length
    let fraction := if places = 0 then part.value else part.value.div (Value.power 10 places)
    return { value := whole.value.add (if negative then fraction.neg else fraction)
             places, lossy := whole.lossy || part.lossy, rest := part.rest }
  | _ => return whole

/-- Reads a number that may have the letter of a power. -/
def readScaled (scale : Scale) (text : List Char) : Except Refusal Numeric := do
  let plain ← readPointed text
  let (power, base, places, rest) ← match plain.rest with
    | [] => pure (0, scale.base, plain.places, [])
    | _ =>
      match plain.rest.dropWhile fun c => c = ' ' || c = '\t' with
      | c :: rest =>
        match letters.findIdx? (· = c) with
        | none => throw .invalidUnit
        | some i =>
          if scale = .none then throw .forbiddenUnit
          if scale = .auto && rest.head? = some 'i' then pure (i + 1, 1024, 0, rest.tail)
          else pure (i + 1, scale.base, 0, rest)
      | [] => throw .invalidUnit
  let rest ← if scale = .binaryMarked then
      (if rest.head? = some 'i' then pure rest.tail else throw .missingMark)
    else pure rest
  return { plain with value := plain.value.mul (Value.power base power), places, rest }

def Refusal.message (text : Octets) : Refusal → Octets
  | .tooLarge => "value too large to be converted: " ++ Quoting.plain text
  | .invalidNumber => "invalid number: " ++ Quoting.plain text
  | .forbiddenUnit =>
    "rejecting suffix in input: " ++ Quoting.plain text ++ " (consider using --from)"
  | .invalidUnit => "invalid suffix in input: " ++ Quoting.plain text
  | .missingMark => "missing 'i' suffix in input: " ++ Quoting.plain text ++ " (e.g Ki/Mi/Gi)"

/-! ## Writing numbers -/

/-- Writes a number, with so many places if no scale asks for others. -/
def Manner.write (m : Manner) (v : Value) (places : Nat) : String :=
  let round := fun (v : Value) (places : Nat) =>
    let scale := Value.power 10 places
    (m.rounding.round (v.mul scale)).div scale
  let (v, places, unit) := if m.target = .none then (round v places, places, "")
    else
      let base := m.target.base
      let (v, power) := v.scaleDown base 100 0
      let adjust := match m.precision with
        | some precision => min (power * 3) precision
        | none => if v.reaches 10 then 0 else 1
      let v := round v adjust
      let (v, power) := if v.reaches base then (v.div (Value.ofNat base), power + 1) else (v, power)
      let pointed := v.num != 0 && !v.reaches 10 && 0 < power
      let letter := match power with
        | 0 => ""
        | n + 1 => String.singleton (letters.getD n '?')
      let unit := if m.target = .binaryMarked && 0 < power then letter ++ "i" else letter
      (v, m.precision.getD (if pointed then 1 else 0), unit)
  let digits := v.fixed places
  let sign := if v.num < 0 then "-" else ""
  let zeros := String.ofList (List.replicate (m.zeros - sign.length - digits.length) '0')
  sign ++ zeros ++ digits ++ unit

def Manner.align (m : Manner) (padding : Nat) (text : String) : String :=
  let gap := String.ofList (List.replicate (padding - text.length) ' ')
  if m.left then text ++ gap else gap ++ text

def shown (v : Value) : String :=
  (if v.num < 0 then "-" else "") ++ Fraction.general false 6 v.num.natAbs v.den

def Manner.object (m : Manner) (text : Octets) : Run Bool := do
  if m.invalid = .ignore then return false
  Tool.complain m.name text
  return m.invalid = .abort

/-- What came of a field: its text if it could be converted, and whether the program ends. -/
structure Answer where
  text : Option Octets := none
  ends : Bool := false

def Manner.convert (m : Manner) (number : Nat) (field : List Char) : Run Answer := do
  let text := match m.ending with
    | some ending =>
      if ending.length < field.length && ending.toList.isSuffixOf field then
        field.take (field.length - ending.length)
      else field
    | none => field
  let trimmed := text.dropWhile fun c => c = ' ' || c = '\t'
  let padding := if m.padding = 0 && m.delimiter.isNone then
      (if trimmed.length < text.length || 1 < number then text.length else 0)
    else m.padding
  let word := String.ofList trimmed
  match readScaled m.source trimmed with
  | .error refusal => return { ends := ← m.object (refusal.message word) }
  | .ok n =>
    if !n.rest.isEmpty then
      return { ends := ← m.object ("invalid suffix in input " ++ Quoting.plain word ++ ": " ++
        Quoting.plain (String.ofList n.rest)) }
    if n.lossy && m.debugs then
      Tool.complain m.name ("large input value " ++ Quoting.plain word ++
        ": possible precision loss")
    let v := if m.sourceUnit = 1 && m.targetUnit = 1 then n.value
      else (n.value.mul (Value.ofNat m.sourceUnit)).div (Value.ofNat m.targetUnit)
    let places := m.precision.getD n.places
    let (_, magnitude) := v.scaleDown 10 5000 0
    if m.target = .none && exactDigits < magnitude + places then
      let subject := if places = 0 then "value" else "value/precision"
      let precision := if places = 0 then "" else "/" ++ Numeral.decimal places
      return { ends := ← m.object (subject ++ " too large to be printed: '" ++ shown v ++
        precision ++ "' (consider using --to)") }
    if mostDigits - 1 < magnitude then
      return { ends := ← m.object ("value too large to be printed: '" ++ shown v ++
        "' (cannot handle values > 999Y)") }
    let digits := m.write v places ++ m.ending.getD ""
    return { text := some (m.front ++ m.align padding digits ++ m.back) }

/-! ## Lines -/

def Manner.fields (m : Manner) (line : List Char) : List (List Char) :=
  match m.delimiter with
  | some c => Cutting.fieldsOf c line
  | none => blanks (line.length + 1) line
where
  isBlank (c : Char) : Bool := c = ' ' || c = '\t' || c = '\n'
  blanks : Nat → List Char → List (List Char)
    | 0, line => [line]
    | fuel + 1, line =>
      let gap := line.takeWhile isBlank
      let word := (line.drop gap.length).takeWhile (!isBlank ·)
      let size := gap.length + word.length
      match line.drop size with
      | [] => [line]
      | _ :: rest => line.take size :: blanks fuel rest

/-- Converts the fields of a line; whether all could be converted, and whether the program ends. -/
def Manner.line (m : Manner) : List (List Char) → Nat → Bool → Run (Bool × Bool)
  | [], _, fine => return (fine, false)
  | field :: rest, number, fine => do
    let mark := if rest.isEmpty then "" else String.singleton (m.delimiter.getD ' ')
    if !(m.keeps.getD fun n => n = 1) number then
      Run.emit (String.ofList field ++ mark)
      m.line rest (number + 1) fine
    else
      let answer ← m.convert number field
      if answer.ends then return (false, true)
      Run.emit (answer.text.getD (String.ofList field) ++ mark)
      m.line rest (number + 1) (fine && answer.text.isSome)

def Manner.lines (m : Manner) : List (List Char × Octets) → Bool → Run (Bool × Bool)
  | [], fine => return (fine, false)
  | (line, stop) :: rest, fine => do
    let (good, ends) ← m.line (m.fields line) 1 true
    if ends then return (false, true)
    Run.emit stop
    m.lines rest (fine && good)

/-! ## Options -/

/-- Reads a format with one directive, or says why that is not one. -/
def readFormat (m : Manner) (format : Octets) : Except Octets Manner := do
  let shown := Quoting.plain format
  let chars := format.toList
  let front := literal (chars.length + 1) chars
  match chars.drop front.length with
  | [] => throw ("format " ++ shown ++ " has no % directive")
  | _ :: rest =>
    let flags := rest.takeWhile fun c => c = ' ' || c = '\'' || c = '0'
    let rest := rest.drop flags.length
    let digits := (rest.drop (if rest.head? = some '-' then 1 else 0)).takeWhile Char.isDigit
    let left := rest.head? = some '-' && !digits.isEmpty
    let rest := if digits.isEmpty then rest else rest.drop (digits.length + if left then 1 else 0)
    let width := Numeral.value digits
    if 1 <<< 63 ≤ width then throw ("invalid format " ++ shown ++ " (width overflow)")
    let zeros := flags.contains '0'
    let m := { m with groups := m.groups || flags.contains '\'' }
    let m := if width = 0 then m
      else if left then { m with left := true, padding := width }
      else if zeros then { m with zeros := width } else { m with padding := width }
    if rest.isEmpty then throw ("format " ++ shown ++ " ends in %")
    let (m, rest) ← match rest with
      | '.' :: after =>
        let digits := after.takeWhile Char.isDigit
        let bad := after.head?.any fun c => c = ' ' || c = '\t' || c = '+'
        let negative := after.head? = some '-' && ((after.drop 1).head?.any Char.isDigit)
        if bad || negative || 1 <<< 63 ≤ Numeral.value digits then
          throw ("invalid precision in format " ++ shown)
        pure ({ m with precision := some (Numeral.value digits) }, after.drop digits.length)
      | _ => pure (m, rest)
    if rest.head? != some 'f' then
      throw ("invalid format " ++ shown ++ ", directive must be %[0]['][-][N][.][N]f")
    let back := literal (rest.length + 1) rest.tail
    if back.length < rest.length - 1 then
      throw ("format " ++ shown ++ " has too many % directives")
    -- Two percent signs count as one, but what counts is taken from the format as it is.
    let marks := (front.filter (· = '%')).length / 2
    let front := front.take (front.length - marks)
    return { m with front := String.ofList front, back := String.ofList back }
where
  /-- The part of a format in front of a directive. -/
  literal : Nat → List Char → List Char
    | 0, _ | _, [] => []
    | fuel + 1, '%' :: '%' :: rest => '%' :: '%' :: literal fuel rest
    | _, '%' :: _ => []
    | fuel + 1, c :: rest => c :: literal fuel rest

def sources : List (List String × Scale) :=
  [(["none"], .none), (["auto"], .auto), (["si"], .thousands), (["iec"], .binary),
   (["iec-i"], .binaryMarked)]

def targets : List (List String × Scale) := sources.filter fun choice => choice.2 != .auto

def roundings : List (List String × Rounding) :=
  [(["up"], .up), (["down"], .down), (["from-zero"], .fromZero),
   (["towards-zero"], .towardsZero), (["nearest"], .nearest)]

def invalids : List (List String × Invalid) :=
  [(["abort"], .abort), (["fail"], .fail), (["warn"], .warn), (["ignore"], .ignore)]

/-- Reads the size of a unit; a letter on its own stands for a power of 1000, and with an `i` behind
it for one of 1024. -/
def unit? (text : Octets) : Option Nat :=
  let chars := text.toList
  let digits := chars.takeWhile Char.isDigit
  let n := if digits.isEmpty then 1 else Numeral.value digits
  let value := match chars.drop digits.length with
    | [] => if digits.isEmpty then none else some n
    | [c] => (letters.findIdx? (· = c)).map fun i => n * Nat.pow 1000 (i + 1)
    | [c, 'i'] => (letters.findIdx? (· = c)).map fun i => n * Nat.pow 1024 (i + 1)
    | _ => none
  value.filter fun n => 0 < n && n < UInt64.size

/-- Takes an option in; none after a complaint. -/
def Manner.withOption (m : Manner) (option : GivenOption) : Run (Option Manner) := do
  let text := option.2.getD ""
  let chosen := fun {α : Type} (long : Octets) (choices : List (List String × α))
      (set : α → Manner) => do
    return (← Tool.choose m.name long text choices).map set
  let refuse := fun (reason : Octets) => do
    Tool.complain m.name reason
    return none
  match option.1 with
  | '\x10' => chosen "--from" sources fun source => { m with source }
  | '\x11' => chosen "--to" targets fun target => { m with target }
  | '\x12' | '\x13' =>
    match unit? text with
    | none => refuse ("invalid unit size: " ++ Quoting.plain text)
    | some n =>
      return some (if option.1 = '\x12' then { m with sourceUnit := n }
        else { m with targetUnit := n })
  | '\x14' => chosen "--round" roundings fun rounding => { m with rounding }
  | '\x15' => return some { m with groups := true }
  | '\x16' =>
    match Quantity.readSigned text with
    | some n =>
      if n = 0 || !Numeral.fitsInt64 n then
        refuse ("invalid padding value " ++ Quoting.plain text)
      else return some { m with padding := n.natAbs, left := m.left || n < 0 }
    | none => refuse ("invalid padding value " ++ Quoting.plain text)
  | '\x17' =>
    if m.keeps.isSome then return ← refuse "multiple field specifications"
    if text = "-" then return some { m with keeps := some fun _ => true }
    let cut := text.toList.map fun c => if c = ' ' || c = '\t' then ',' else c
    match (Cutting.fieldsOf ',' cut).mapM Cutting.places? with
    | .ok ranges => return some { m with keeps := some fun n => ranges.any (·.has n) }
    | .error fault =>
      let _ ← Tool.misuse m.name (match fault with
        | .zero => "fields are numbered from 1"
        | .invalid text => "invalid field value " ++ Quoting.plain text
        | .decreasing => "invalid decreasing range"
        | .open_ => "invalid range with no endpoint: -") 1
      return none
  | 'd' =>
    if 1 < text.length then return ← refuse "the delimiter must be a single character"
    return some { m with delimiter := some (text.toList.headD '\x00') }
  | 'z' => return some { m with zero := true }
  | '\x18' => return some { m with ending := some text }
  | '\x19' => return some { m with debugs := true }
  | '\x1a' =>
    match option.2 with
    | none => return some { m with header := 1 }
    | some text =>
      match Quantity.read "" text with
      | .fine n =>
        if n = 0 then refuse ("invalid header value " ++ Quoting.plain text)
        else return some { m with header := n }
      | _ => refuse ("invalid header value " ++ Quoting.plain text)
  | '\x1b' => return some { m with format := some text }
  | '\x1c' => chosen "--invalid" invalids fun invalid => { m with invalid }
  | _ => return some m

def Manner.withOptions (m : Manner) : List GivenOption → Run (Option Manner)
  | [] => return some m
  | option :: rest => do
    match ← m.withOption option with
    | some m => m.withOptions rest
    | none => return none

def cutLines (stop : Char) (octets : List Char) : List (List Char × Octets) :=
  let records := Tool.records stop octets
  let whole := octets.getLast? = some stop
  let last := records.length
  records.zipIdx.map fun (line, i) =>
    (line, if i + 1 < last || whole then String.singleton stop else "")

def Manner.run (m : Manner) (operands : List Octets) : Run Nat := do
  let stop := Tool.stopOf m.zero
  let (fine, ends) ← if !operands.isEmpty then do
      if m.debugs && 0 < m.header then
        Tool.complain m.name "--header ignored with command-line input"
      m.lines (operands.map fun text => (text.toList, String.singleton stop)) true
    else do
      match ← Run.readAll 0 with
      | .error fault =>
        Tool.fault m.name "error reading input" fault
        pure (true, false)
      | .ok octets =>
        let lines := cutLines stop octets
        for (line, stop) in lines.take m.header do
          Run.emit (String.ofList line ++ stop)
        m.lines (lines.drop m.header) true
  if ends then return 2
  if m.debugs && !fine then
    Tool.complain m.name "failed to convert some of the input numbers"
  return if !fine && m.invalid != .warn && m.invalid != .ignore then 2 else 0

def numfmt : Tool := fun _ name words =>
  Tool.withOptions [⟨'\x10', "from", .yes⟩, ⟨'\x11', "to", .yes⟩, ⟨'\x12', "from-unit", .yes⟩,
      ⟨'\x13', "to-unit", .yes⟩, ⟨'\x14', "round", .yes⟩, ⟨'\x15', "grouping", .no⟩,
      ⟨'\x16', "padding", .yes⟩, ⟨'\x17', "field", .yes⟩, ⟨'d', "delimiter", .yes⟩,
      ⟨'z', "zero-terminated", .no⟩, ⟨'\x18', "suffix", .yes⟩, ⟨'\x19', "debug", .no⟩,
      ⟨'\x1a', "header", .maybe⟩, ⟨'\x1b', "format", .yes⟩, ⟨'\x1c', "invalid", .yes⟩]
      1 name words fun given => do
    let some m ← Manner.withOptions { name } given.options | return 1
    if m.format.isSome && m.groups then
      Tool.complain name "--grouping cannot be combined with --format"
      return 1
    if m.debugs && m.source = .none && m.target = .none && !m.groups && m.padding = 0 &&
        m.format.isNone then
      Tool.complain name "no conversion option specified"
    match m.format.elim (.ok m) (readFormat m) with
    | .error reason =>
      Tool.complain name reason
      return 1
    | .ok m =>
      if m.groups && m.target != .none then
        Tool.complain name "grouping cannot be combined with --to"
        return 1
      if m.groups && m.debugs then
        Tool.complain name "grouping has no effect in this locale"
      m.run given.operands

end Rescaling
end Shell
end LineShell
