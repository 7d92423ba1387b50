import LineShell.Shell.Utility.Inputs
import LineShell.Shell.Utility.Quantity
import LineShell.Text.Binary

/-!
# The program that writes bytes as numbers

This is `od`.  The input is cut into blocks.  A block is written once for each format, one below
the other, so that what stands for the same bytes ends in the same column.  A block like the one
before it is left out, and a star stands for all that are left out in a row.
-/

namespace LineShell
namespace Shell
namespace Dumping

/-- How a unit of some bytes is written. -/
inductive Form where
  | named
  /-- As a character, or by its escape. -/
  | character
  | signed
  | unsigned
  | octal
  | hexadecimal
  | fraction
  deriving DecidableEq, Repr

/-- A format: how units are written, how many bytes they have, and whether the bytes of the block
are shown as text behind it. -/
structure Format where
  form : Form
  size : Nat
  trailer : Bool := false

/-- The names of the characters that do not print. -/
def names : List String :=
  ["nul", "soh", "stx", "etx", "eot", "enq", "ack", "bel", "bs", "ht", "nl", "vt", "ff", "cr", "so",
   "si", "dle", "dc1", "dc2", "dc3", "dc4", "nak", "syn", "etb", "can", "em", "sub", "esc", "fs",
   "gs", "rs", "us", "sp"]

def escapes : List (Char × Char) :=
  [('\x00', '0'), ('\x07', 'a'), ('\x08', 'b'), ('\x0c', 'f'), ('\n', 'n'), ('\r', 'r'),
   ('\t', 't'), ('\x0b', 'v')]

def digitsOf (base width n : Nat) : String :=
  let text := Nat.toDigits base n
  String.ofList (List.replicate (width - text.length) '0' ++ text)

namespace Format

def width (f : Format) : Nat :=
  let digits := fun (base most : Nat) => (Nat.toDigits base most).length
  match f.form with
  | .named | .character => 3
  | .octal => digits 8 ((1 <<< (8 * f.size)) - 1)
  | .hexadecimal => 2 * f.size
  | .unsigned => digits 10 ((1 <<< (8 * f.size)) - 1)
  | .signed => digits 10 (1 <<< (8 * f.size - 1)) + 1
  | .fraction => if f.size = 4 then 15 else if f.size = 8 then 24 else 29

/-- The text of a unit, whose bytes are given with the lowest one first. -/
def text (f : Format) (octets : List Char) : String :=
  let n := octets.foldr (fun c n => 256 * n + c.toNat) 0
  match f.form with
  | .named =>
    let n := n % 128
    if n = 127 then "del" else (names[n]?).getD (String.singleton (Char.ofNat n))
  | .character =>
    let c := Char.ofNat n
    match escapes.lookup c with
    | some letter => String.ofList ['\\', letter]
    | none => if Quoting.prints c then String.singleton c else digitsOf 8 3 n
  | .octal => digitsOf 8 f.width n
  | .hexadecimal => digitsOf 16 f.width n
  | .unsigned => Numeral.decimal n
  | .signed =>
    let negative := 1 <<< (8 * f.size - 1) ≤ n
    Numeral.decimal (if negative then (n : Int) - (1 <<< (8 * f.size) : Nat) else (n : Int))
  | .fraction =>
    Binary.textOf (if f.size = 4 then .single else if f.size = 8 then .double else .extended) n

/-- How many bytes a unit has by a letter or a number, where that was asked for. -/
def takeSize (isFraction : Bool) (text : List Char) : Option Nat × List Char :=
  let letters : List (Char × Nat) :=
    if isFraction then [('F', 4), ('D', 8), ('L', 16)]
    else [('C', 1), ('S', 2), ('I', 4), ('L', 8)]
  match text with
  | c :: rest =>
    match letters.lookup c with
    | some size => (some size, rest)
    | none =>
      let digits := text.takeWhile Char.isDigit
      (Numeral.natural? digits, text.drop digits.length)
  | [] => (none, [])

/-- Takes a format off a text, or tells why there is none. -/
def take (text : List Char) : Except String (Format × List Char) := do
  let whole := Quoting.plain (String.ofList text)
  let number := fun (form : Form) (rest : List Char) => do
    let isFraction := form = .fraction
    let (size, rest) := takeSize isFraction rest
    let size := size.getD (if isFraction then 8 else 4)
    let sizes := if isFraction then [4, 8, 16] else [1, 2, 4, 8]
    if !sizes.contains size then
      throw ("invalid type string " ++ whole ++ ";\nthis system doesn't provide a " ++
        Numeral.decimal size ++ "-byte " ++ (if isFraction then "floating point" else "integral") ++
        " type")
    return (({ form, size } : Format), rest)
  let (f, rest) ← match text with
    | 'a' :: rest => pure (({ form := .named, size := 1 } : Format), rest)
    | 'c' :: rest => pure ({ form := .character, size := 1 }, rest)
    | 'd' :: rest => number .signed rest
    | 'u' :: rest => number .unsigned rest
    | 'o' :: rest => number .octal rest
    | 'x' :: rest => number .hexadecimal rest
    | 'f' :: rest => number .fraction rest
    | c :: _ =>
      throw ("invalid character '" ++ String.singleton c ++ "' in type string " ++ whole)
    | [] => throw ("invalid type string " ++ whole)
  match rest with
  | 'z' :: rest => return ({ f with trailer := true }, rest)
  | _ => return (f, rest)

def readAll : Nat → List Char → Except String (List Format)
  | 0, _ | _, [] => .ok []
  | fuel + 1, text => do
    let (f, rest) ← take text
    return f :: (← readAll fuel rest)

def ofLetter? (letter : Char) : Option Format :=
  let rows : List (Char × Format) :=
    [('a', ⟨.named, 1, false⟩), ('b', ⟨.octal, 1, false⟩), ('c', ⟨.character, 1, false⟩),
     ('D', ⟨.unsigned, 4, false⟩), ('d', ⟨.unsigned, 2, false⟩), ('F', ⟨.fraction, 8, false⟩),
     ('e', ⟨.fraction, 8, false⟩), ('f', ⟨.fraction, 4, false⟩), ('H', ⟨.hexadecimal, 4, false⟩),
     ('X', ⟨.hexadecimal, 4, false⟩), ('h', ⟨.hexadecimal, 2, false⟩),
     ('x', ⟨.hexadecimal, 2, false⟩), ('I', ⟨.signed, 8, false⟩), ('L', ⟨.signed, 8, false⟩),
     ('l', ⟨.signed, 8, false⟩), ('i', ⟨.signed, 4, false⟩), ('O', ⟨.octal, 4, false⟩),
     ('B', ⟨.octal, 2, false⟩), ('o', ⟨.octal, 2, false⟩), ('s', ⟨.signed, 2, false⟩)]
  rows.lookup letter

end Format

/-- How the place of a block is written. -/
inductive Radix where
  | decimal
  | octal
  | hexadecimal
  | none
  deriving DecidableEq, Repr

def Radix.address (radix : Radix) (n : Nat) (after : String) : String :=
  match radix with
  | .decimal => digitsOf 10 7 n ++ after
  | .octal => digitsOf 8 7 n ++ after
  | .hexadecimal => digitsOf 16 6 n ++ after
  | .none => ""

structure Plan where
  formats : List Format
  radix : Radix := .octal
  width : Nat
  /-- Whether blocks like the one before are written. -/
  repeats : Bool := false
  /-- Whether the first byte of a unit is the highest. -/
  reversed : Bool := false
  /-- What is shown in brackets for the place zero. -/
  label : Option Int := none

def unitOf (formats : List Format) : Nat := formats.foldl (fun n f => Nat.lcm n f.size) 1

def pieces {α : Type} (size : Nat) : Nat → List α → List (List α)
  | 0, _ | _, [] => []
  | fuel + 1, items => items.take size :: pieces size fuel (items.drop size)

namespace Plan

def columns (p : Plan) : Nat :=
  (p.formats.map fun f => (f.width + 1) * (p.width / f.size)).foldl max 0

/-- The line of a block in one format, without the place. -/
def line (p : Plan) (f : Format) (octets : List Char) : String :=
  let total := p.width / f.size
  let unit := unitOf p.formats
  let filled := octets ++ List.replicate ((unit - octets.length % unit) % unit) '\x00'
  let missing := (p.width - octets.length) / f.size
  let extra := p.columns - f.width * total
  let units := (pieces f.size total filled).take (total - missing)
  let cells := units.zipIdx.map fun (unit, i) =>
    let left := total - i
    let share := extra * left / total - extra * (left - 1) / total
    Tool.padLeft (share + f.width) (f.text (if p.reversed then unit.reverse else unit))
  let gap := if f.trailer then missing * f.width + extra * missing / total else 0
  let shown := octets.map fun c => if Quoting.prints c then c else '.'
  let trailer := if f.trailer then "  >" ++ String.ofList shown ++ "<" else ""
  String.join cells ++ String.ofList (List.replicate gap ' ') ++ trailer

def address (p : Plan) (n : Nat) : String :=
  match p.label with
  | none => p.radix.address n ""
  | some label =>
    let radix := if p.radix = .none then .octal else p.radix
    (if p.radix = .none then "" else p.radix.address n " ") ++ "(" ++
      radix.address (label + (n : Int)).toNat ")"

def block (p : Plan) (place : Nat) (octets : List Char) : String :=
  String.join (p.formats.zipIdx.map fun (f, i) =>
    let front := if i = 0 then p.address place
      else String.ofList (List.replicate (p.address place).length ' ')
    front ++ p.line f octets ++ "\n")

/-- The lines of all blocks, with the place behind the last one. -/
def blocks (p : Plan) (place : Nat) (octets : List Char) : List String :=
  let all := pieces p.width (octets.length + 1) octets
  let step := fun (state : List String × Nat × Option (List Char) × Bool) (current : List Char) =>
    let (done, place, before, starred) := state
    let same := !p.repeats && before = some current && current.length = p.width
    let next := place + current.length
    if same then (if starred then done else "*\n" :: done, next, some current, true)
    else (p.block place current :: done, next, some current, false)
  let (done, place, _) := all.foldl step ([], place, none, false)
  let last := p.address place
  (((if last.isEmpty then "" else last ++ "\n") :: done)).reverse

end Plan

/-! ## Texts among bytes -/

/-- The texts of printing characters that end with a zero byte and are not too short, with their
places. -/
def texts (least : Nat) : Nat → List Char → List (Nat × List Char)
  | place, octets => (go octets place [] []).reverse
where
  go : List Char → Nat → List Char → List (Nat × List Char) → List (Nat × List Char)
    | [], _, _, done => done
    | c :: rest, place, current, done =>
      if Quoting.prints c then go rest (place + 1) (c :: current) done
      else if c = '\x00' && least ≤ current.length then
        go rest (place + 1) [] ((place - current.length, current.reverse) :: done)
      else go rest (place + 1) [] done

/-! ## The program -/

/-- What was asked for, as far as it was read. -/
structure Request where
  formats : List Format := []
  radix : Radix := .octal
  skip : Nat := 0
  limit : Option Nat := none
  width : Option Nat := none
  least : Option Nat := none
  repeats : Bool := false
  reversed : Bool := false
  /-- The place that is shown for the first byte, beside its own. -/
  label : Option Nat := none
  /-- Whether there were options that exclude the old way to give a place. -/
  modern : Bool := false

def units : String := "bEGKkMmPTYZ0"

def Request.read (name : Octets) (r : Request) (option : GivenOption) :
    Run (Except Nat Request) := do
  let value := option.2.getD ""
  let number := fun (label : Octets) (base : Nat) (letters : String) (next : Nat → Request) => do
    match ← Tool.optionAmount name label base letters value with
    | some n => return .ok { next n with modern := true }
    | none => return .error 1
  match option.1 with
  | 'A' =>
    let radix? := ([('d', Radix.decimal), ('o', .octal), ('x', .hexadecimal), ('n', .none)]).lookup
      (value.toList.headD '\x00')
    match radix? with
    | some radix => return .ok { r with radix, modern := true }
    | none =>
      Tool.complain name ("invalid output address radix '" ++ String.ofList (value.toList.take 1) ++
        "'; it must be one character from [doxn]")
      return .error 1
  | 'j' => number "-j" 0 units fun n => { r with skip := n }
  | 'N' => number "-N" 0 units fun n => { r with limit := some n }
  | 'S' =>
    if option.2.isNone then return .ok { r with least := some 3, modern := true }
    else number "-S" 0 units fun n => { r with least := some n }
  | 'w' =>
    if option.2.isNone then return .ok { r with width := some 32, modern := true }
    else number "-w" 10 "" fun n => { r with width := some n }
  | 't' =>
    match Format.readAll (value.length + 1) value.toList with
    | .ok formats => return .ok { r with formats := r.formats ++ formats, modern := true }
    | .error text =>
      Tool.complain name text
      return .error 1
  | 'v' => return .ok { r with repeats := true, modern := true }
  | '\x11' =>
    match ← Tool.choose name "--endian" value [(["little"], false), (["big"], true)] with
    | some reversed => return .ok { r with reversed, modern := true }
    | none => return .error 1
  | letter =>
    return .ok { r with formats := r.formats ++ (Format.ofLetter? letter).toList }

def Request.readAll (name : Octets) : Request → List GivenOption → Run (Except Nat Request)
  | r, [] => return .ok r
  | r, option :: others => do
    match ← r.read name option with
    | .ok r => Request.readAll name r others
    | .error status => return .error status

def oldPlace? (always : Bool) (word : Octets) : Option Nat :=
  let body := if word.startsWith "+" then (word.drop 1).toString else word
  let digits := body.toList.headD 'x'
  if word.isEmpty || !always && !word.startsWith "+" && !digits.isDigit then none
  else if !digits.isDigit then none
  else
    let base := if body.startsWith "0x" || body.startsWith "0X" then 16 else 8
    match Quantity.readIn base "Bb" body with
    | .fine n => some n
    | _ => none

def withOldPlaces (r : Request) (given : Given) : Request × List Octets :=
  if r.modern then (r, given.operands)
  else
    let place := fun (word : Octets) =>
      if word.startsWith "+" || given.has '\x10' then oldPlace? true word else none
    match given.operands with
    | [word] =>
      match place word with
      | some n => ({ r with skip := n }, [])
      | none => (r, [word])
    | [first, second] =>
      let old := given.has '\x10'
      match (if old then oldPlace? old first else none), oldPlace? old second with
      | some n, some label => ({ r with skip := n, label := some label }, [])
      | none, some n => ({ r with skip := n }, [first])
      | _, none => (r, [first, second])
    | operands =>
      if !given.has '\x10' then (r, operands)
      else match operands.reverse.map (oldPlace? (given.has '\x10')) with
      | some label :: some n :: _ =>
        ({ r with skip := n, label := some label }, operands.take (operands.length - 2))
      | _ => (r, operands)

/-- Reads the operands one after the other, up to so many bytes. -/
def readAll (name : Octets) : Option Nat → List Octets → Run (List Char × Bool × Bool)
  | _, [] => return ([], false, true)
  | limit, path :: others => do
    if limit = some 0 then return ([], true, true)
    let found ← match path, limit with
      | "-", some n => Run.read 0 n
      | _, _ => Tool.input path
    match found with
    | .error problem =>
      Tool.fault name (Quoting.ifNeeded path) problem
      let (rest, any, _) ← readAll name limit others
      return (rest, any || problem = .isDirectory, false)
    | .ok octets =>
      let octets := match limit with
        | some n => octets.take n
        | none => octets
      let (rest, _, fine) ← readAll name (limit.map (· - octets.length)) others
      return (octets ++ rest, true, fine)

def dump (name : Octets) (r : Request) (operands : List Octets) : Run Nat := do
  let formats := if r.formats.isEmpty then [⟨.octal, 2, false⟩] else r.formats
  let (octets, any, fine) ← readAll name (r.limit.map (· + r.skip)) operands
  if !any then return if fine then 0 else 1
  if octets.length < r.skip then
    Tool.complain name "cannot skip past end of combined input"
    return 1
  let octets := octets.drop r.skip
  match r.least with
  | some least =>
    (texts least r.skip octets).forM fun (place, text) =>
      Run.emitLine (r.radix.address place " " ++ String.ofList text)
    return if fine then 0 else 1
  | none =>
    let unit := unitOf formats
    let fits := r.width.all fun n => n != 0 && n % unit = 0
    if !fits then
      Tool.complain name ("warning: invalid width " ++ Numeral.decimal (r.width.getD 0) ++
        "; using " ++ Numeral.decimal unit ++ " instead")
    let usual := if unit < 16 then unit * (16 / unit) else unit
    let width := match r.width with
      | some n => if fits then n else unit
      | none => usual
    let p : Plan :=
      { formats, radix := r.radix, width, repeats := r.repeats, reversed := r.reversed
        label := r.label.map fun n => (n : Int) - r.skip }
    Run.emit (String.join (p.blocks r.skip octets))
    return if fine then 0 else 1

def od : Tool := fun _ name words =>
  let letters := "aBbcDdeFfHhIiLlOosXx".toList.map fun c => (⟨c, "", .no⟩ : OptionShape)
  Tool.withOptions ([⟨'A', "address-radix", .yes⟩, ⟨'j', "skip-bytes", .yes⟩,
      ⟨'N', "read-bytes", .yes⟩, ⟨'S', "", .yes⟩, ⟨'S', "strings", .maybe⟩, ⟨'t', "format", .yes⟩,
      ⟨'v', "output-duplicates", .no⟩, ⟨'w', "width", .maybe⟩, ⟨'\x10', "traditional", .no⟩,
      ⟨'\x11', "endian", .yes⟩] ++ letters) 1 name words fun given => do
    match ← Request.readAll name {} given.options with
    | .error status => return status
    | .ok r =>
      let (r, operands) := withOldPlaces r given
      match given.has '\x10', operands with
      | true, _ :: extra :: _ =>
        Tool.complain name ("extra operand " ++ Quoting.plain extra)
        Run.complain (name ++ ": compatibility mode supports at most one file")
        Tool.pointToHelp name
        return 1
      | _, _ => pure ()
      dump name r (if operands.isEmpty then ["-"] else operands)

end Dumping
end Shell
end LineShell
