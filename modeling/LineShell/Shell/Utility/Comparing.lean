import LineShell.Shell.Utility.Inputs
import LineShell.Shell.Utility.Quantity

/-!
# The program that compares bytes

This is `cmp`.  It tells the first byte in which two files differ, or all of them.
-/

namespace LineShell
namespace Shell
namespace Comparing

/-- Reads so many bytes to be passed over, with a unit behind. -/
def skip? (text : List Char) : Option Nat :=
  let letters := "kKMGTPEZY0"
  match Quantity.readIn 0 letters (String.ofList text) with
  | .fine n => some n
  | .tooLarge => some (1 <<< 63)
  | _ => none

def misuse (name text : Octets) : Run Nat := do
  Tool.complain name text
  Tool.complain name ("Try '" ++ name ++ " --help' for more information.")
  return 2

/-- A byte as people see it: with marks for what does not print. -/
def visible (c : Char) : String :=
  let n := c.toNat
  let (front, n) := if 128 ≤ n then ("M-", n - 128) else ("", n)
  front ++ (if n = 127 then "^?" else if n < 32 then "^" ++ String.singleton (Char.ofNat (n + 64))
    else String.singleton (Char.ofNat n))

/-- A byte in octal digits at the right of a field. -/
def octal (c : Char) : String := Tool.padLeft 3 (String.ofList (Nat.toDigits 8 c.toNat))

/-- The place of the first difference: how many bytes are before it, and how many line ends. -/
def firstDifference : List Char → List Char → Nat → Nat → Nat × Nat
  | a :: as, b :: bs, n, lines =>
    if a = b then firstDifference as bs (n + 1) (if a = '\n' then lines + 1 else lines)
    else (n, lines)
  | _, _, n, lines => (n, lines)

structure Manner where
  name : Octets
  bytes : Bool
  all : Bool
  silent : Bool
  limit : Option Nat

/-- How many bytes a file may have whose size is not known. -/
def unbounded : Nat := (1 <<< 63) - 1

/-- Whether the size of a file is known before it is read. -/
def isRegular (path : Octets) : Run Bool := do
  if path = "-" then
    match ← Run.channel? 0 with
    | some (_, .file ..) => return true
    | _ => return false
  else
    match ← Run.nodeAt true path with
    | .ok (.file _) => return true
    | _ => return false

def Manner.compare (m : Manner) (first second : Octets) (x y : List Char) : Run Nat := do
  let cut := fun (octets : List Char) =>
    match m.limit with
    | some n => octets.take n
    | none => octets
  let a := cut x
  let b := cut y
  if a = b then return 0
  if m.silent then return 1
  let (n, lines) := firstDifference a b 0 0
  let shorter := if a.length < b.length then first else second
  let least := min a.length b.length
  let tellEnd : Run Unit := do
    let cutLines := ((if a.length < b.length then a else b).filter (· = '\n')).length
    let whole := (if a.length < b.length then a else b).getLast?.all (· = '\n')
    if least = 0 then
      Tool.complain m.name ("EOF on " ++ shorter ++ " which is empty")
    else if m.all then
      Tool.complain m.name ("EOF on " ++ shorter ++ " after byte " ++ Numeral.decimal (least : Nat))
    else
      Tool.complain m.name ("EOF on " ++ shorter ++ " after byte " ++
        Numeral.decimal (least : Nat) ++ ", " ++ (if whole then "line " else "in line ") ++
        Numeral.decimal ((if whole then cutLines else cutLines + 1 : Nat)))
  if m.all then
    let sizes := (if ← isRegular first then [x.length] else []) ++
      (if ← isRegular second then [y.length] else [])
    let most := sizes.foldl min (min (m.limit.getD unbounded) unbounded)
    let width := (Numeral.decimal (most : Nat)).length
    let rows := (a.zip b).zipIdx.filter fun ((c, d), _) => c != d
    for ((c, d), i) in rows do
      let number := Tool.padLeft width (Numeral.decimal (i + 1 : Nat))
      if m.bytes then
        Run.emitLine (number ++ " " ++ octal c ++ " " ++ Tool.padRight 4 (visible c) ++ " " ++
          octal d ++ " " ++ visible d)
      else Run.emitLine (number ++ " " ++ octal c ++ " " ++ octal d)
    if a.length != b.length then tellEnd
  else if n = least then tellEnd
  else
    let place := "char"
    let head := first ++ " " ++ second ++ " differ: "
    match m.bytes, a[n]?, b[n]? with
    | true, some c, some d =>
      Run.emitLine (head ++ "byte " ++ Numeral.decimal (n + 1 : Nat) ++ ", line " ++
        Numeral.decimal (lines + 1 : Nat) ++ " is " ++ octal c ++ " " ++ visible c ++ " " ++
        octal d ++ " " ++ visible d)
    | _, _, _ =>
      Run.emitLine (head ++ place ++ " " ++ Numeral.decimal (n + 1 : Nat) ++ ", line " ++
        Numeral.decimal (lines + 1 : Nat))
  return 1

def Manner.run (m : Manner) (first second : Octets) (skipFirst skipSecond : Nat) : Run Nat := do
  if first = second && skipFirst = skipSecond then
    -- The same file need not be read, but it must be there.
    match ← Tool.input first with
    | .ok _ | .error .isDirectory => return 0
    | .error fault =>
      if !m.silent then Tool.fault m.name first fault
      return 2
  match ← Tool.input first with
  | .error fault =>
    if !m.silent then Tool.fault m.name first fault
    return 2
  | .ok x =>
    match ← Tool.input second with
    | .error fault =>
      if !m.silent then Tool.fault m.name second fault
      return 2
    | .ok y => m.compare first second (x.drop skipFirst) (y.drop skipSecond)

def shapes : OptionShapes :=
  [⟨'b', "print-bytes", .no⟩, ⟨'b', "print-chars", .no⟩, ⟨'i', "ignore-initial", .yes⟩,
   ⟨'l', "verbose", .no⟩, ⟨'n', "bytes", .yes⟩, ⟨'s', "quiet", .no⟩, ⟨'s', "silent", .no⟩,
   ⟨'v', "version", .no⟩, OptionShapes.help]

def cmp : Tool := fun _ name words => do
  match OptionShapes.read shapes true (words.length + 1) words with
  | .error text => misuse name text
  | .ok given =>
    if given.has OptionShapes.help.letter then
      Tool.showUsage name
      return 0
    if given.has 'v' then
      Tool.showRelease name
      return 0
    let skips := (given.value? 'i').map fun text =>
      let chars := text.toList
      let first := chars.takeWhile (· != ':')
      let second := if first.length < chars.length then chars.drop (first.length + 1) else first
      (skip? first, skip? second)
    match skips with
    | some (none, _) | some (_, none) =>
      return ← misuse name ("invalid --ignore-initial value '" ++ (given.value? 'i').getD "" ++ "'")
    | _ => pure ()
    let limit := (given.value? 'n').map fun text => skip? text.toList
    if limit = some none then
      return ← misuse name ("invalid --bytes value '" ++ (given.value? 'n').getD "" ++ "'")
    if given.has 'l' && given.has 's' then
      return ← misuse name "options -l and -s are incompatible"
    match given.operands with
    | [] => misuse name ("missing operand after '" ++ words.getLast?.getD name ++ "'")
    | first :: rest =>
      let second := rest.headD "-"
      let more := rest.drop 1
      let numbers := (more.take 2).map fun text => (text, skip? text.toList)
      match numbers.find? fun entry => entry.2.isNone, more.drop 2 with
      | some (text, _), _ => misuse name ("invalid --ignore-initial value '" ++ text ++ "'")
      | none, extra :: _ => misuse name ("extra operand '" ++ extra ++ "'")
      | none, [] =>
        let (a, b) := match skips with
          | some (some a, some b) => (a, b)
          | _ => (0, 0)
        let at_ := fun (i given : Nat) => max given (((numbers[i]?).bind (·.2)).getD 0)
        let m : Manner := { name, bytes := given.has 'b', all := given.has 'l'
                            silent := given.has 's', limit := limit.bind id }
        m.run first second (at_ 0 a) (at_ 1 b)

end Comparing
end Shell
end LineShell
