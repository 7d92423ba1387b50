import LineShell.Shell.Utility.Inputs
import LineShell.Shell.Utility.Quantity

/-!
# Programs that show a part of files

These are `head` and `tail`.  A part is so many bytes, or so many records, counted from one end or
from the other.
-/

namespace LineShell
namespace Shell
namespace Portions

/-- Which part of a file is shown. -/
structure Portion where
  /-- Whether bytes are counted, or else records. -/
  bytes : Bool := false
  count : Nat := 10
  /-- Whether it is counted from the other end than usual. -/
  inverse : Bool := false
  /-- What ends a record. -/
  stop : Char := '\n'

/-- How many bytes the first so many records have, with their ends, added to a number. -/
def extent (stop : Char) : Nat → List Char → Nat → Nat
  | 0, _, sum => sum
  | _, [], sum => sum
  | n + 1, c :: rest, sum => extent stop (if c = stop then n else n + 1) rest (sum + 1)

/-- The first so many records, with their ends. -/
def first (stop : Char) (n : Nat) (octets : List Char) : List Char :=
  octets.take (extent stop n octets 0)

/-- What follows the first so many records. -/
def after (stop : Char) (n : Nat) (octets : List Char) : List Char :=
  octets.drop (extent stop n octets 0)

/-- The number of records, where a last one may lack its end. -/
def recordCount (stop : Char) (octets : List Char) : Nat := (Tool.records stop octets).length

def Portion.atStart (p : Portion) (octets : List Char) : List Char :=
  if p.bytes then octets.take (if p.inverse then octets.length - p.count else p.count)
  else
    first p.stop (if p.inverse then recordCount p.stop octets - p.count else p.count) octets

def Portion.atEnd (p : Portion) (octets : List Char) : List Char :=
  if p.bytes then octets.drop (if p.inverse then p.count - 1 else octets.length - p.count)
  else
    after p.stop (if p.inverse then p.count - 1 else recordCount p.stop octets - p.count) octets

def units : String := "bkKmMGTPEZY0"

def most : Nat := UInt64.size - 1

def count? (name : Octets) (bytes : Bool) (text : Octets) : Run (Option Nat) :=
  Tool.amount name ("invalid number of " ++ if bytes then "bytes" else "lines") units 0 most text

/-- Reads which part is asked for, on top of what is known, or complains. -/
def portion? (name : Octets) (inverting : Char) (start : Portion) (given : Given) :
    Run (Option Portion) :=
  given.options.foldlM (fun found (letter, value) => do
    match found with
    | none => return none
    | some p =>
      let text := value.getD ""
      if letter = 'z' then return some { p with stop := '\x00' }
      else if letter = 'n' || letter = 'c' then
        let bytes := letter = 'c'
        let inverse := text.toList.head? = some inverting
        let body := if inverse || text.toList.head? = some '-' then
            if inverting = '+' && inverse then text else (text.drop 1).toString
          else text
        return (← count? name bytes body).map fun count => { p with bytes, count, inverse }
      else return some p) (some start)

/-- Shows a part of each operand, with titles if there are several. -/
def showParts (name : Octets) (titled : Bool) (part : Octets → List Char → Run (List Char)) :
    Bool → List Octets → Run Bool
  | _, [] => return true
  | isFirst, path :: rest => do
    match ← Tool.input path with
    | .error problem =>
      let what := if problem = .isDirectory then "error reading " ++ Quoting.always path
        else "cannot open " ++ Quoting.always path ++ " for reading"
      if problem = .isDirectory && titled then title isFirst path
      Tool.fault name what problem
      let _ ← showParts name titled part (isFirst && problem != .isDirectory) rest
      return false
    | .ok octets =>
      if titled then title isFirst path
      Run.emit (String.ofList (← part path octets))
      showParts name titled part false rest
where
  title (isFirst : Bool) (path : Octets) : Run Unit := do
    let shown := if path = "-" then "standard input" else path
    Run.emit ((if isFirst then "" else "\n") ++ "==> " ++ shown ++ " <==\n")

/-- Whether titles are shown, given the letters that ask for it or against it. -/
def isTitled (letters : List Char) (given : Given) : Bool :=
  let typed := letters ++ given.options.map (·.1)
  match (typed.filter fun c => c = 'q' || c = 'v').getLast? with
  | some 'v' => true
  | some _ => false
  | none => 1 < given.operands.length

/-! ## The start of files -/

/-- What a first word with digits behind a hyphen asks for: the count, the letters behind it, and
the other words. -/
def oldStart : List Octets → Option (List Char × List Char × List Octets)
  | [] => none
  | word :: rest =>
    match word.toList with
    | '-' :: c :: others =>
      if !c.isDigit then none
      else
        let digits := (c :: others).takeWhile Char.isDigit
        some (digits, (c :: others).drop digits.length, rest)
    | _ => none

/-- What the letters behind an old count change, where some of them are units. -/
def withOldLetter (state : Portion × String) (c : Char) : Option (Portion × String) :=
  let (p, unit) := state
  match c with
  | 'c' => some ({ p with bytes := true }, "")
  | 'b' | 'k' | 'm' => some ({ p with bytes := true }, String.singleton c)
  | 'l' => some ({ p with bytes := false }, unit)
  | 'q' | 'v' => some (p, unit)
  | 'z' => some ({ p with stop := '\x00' }, unit)
  | _ => none

/-- A digit as an option is not known where it stands. -/
def digitShapes : OptionShapes := "0123456789".toList.map fun c => ⟨c, "", .no⟩

def head : Tool := fun _ name words => do
  let old := oldStart words
  let letters := (old.map (·.2.1)).getD []
  match letters.find? fun c => (withOldLetter ({}, "") c).isNone with
  | some c => Tool.misuse name ("invalid trailing option -- " ++ String.singleton c) 1
  | none =>
    let (start, unit) := letters.foldl (fun state c => (withOldLetter state c).getD state)
      (({} : Portion), "")
    let start ← match old with
      | none => pure (some start)
      | some (digits, _, _) => do
        let count ← count? name start.bytes (String.ofList digits ++ unit)
        pure (count.map fun count => { start with count })
    match start with
    | none => return 1
    | some start =>
      let words := (old.map (·.2.2)).getD words
      Tool.withOptions ([⟨'n', "lines", .yes⟩, ⟨'c', "bytes", .yes⟩, ⟨'q', "quiet", .no⟩,
          ⟨'q', "silent", .no⟩, ⟨'v', "verbose", .no⟩, ⟨'z', "zero-terminated", .no⟩] ++
          digitShapes) 1 name words fun given => do
        match given.options.find? (·.1.isDigit) with
        | some (c, _) => Tool.misuse name ("invalid trailing option -- " ++ String.singleton c) 1
        | none =>
          match ← portion? name '-' start given with
          | none => return 1
          | some p =>
            let part := fun (path : Octets) (octets : List Char) => do
              let used := p.atStart octets
              if path = "-" then Tool.giveBack octets used
              return used
            let fine ← showParts name (isTitled letters given) part true (Tool.inputs given)
            return if fine then 0 else 1

/-! ## The end of files -/

/-- What a first word of the old form asks for: a sign, digits, a unit, and perhaps that the end is
followed. -/
def oldEnd (words : List Octets) : Option (Portion × List Octets) := do
  let word ← words.head?
  let rest := words.tail
  let fits := match rest with
    | [] => true
    | [second] => second = "--" || second = "-" || !second.startsWith "-"
    | [second, _] => second = "--"
    | _ => false
  if !fits then none
  let (inverse, body) ← match word.toList with
    | '+' :: body => some (true, body)
    | '-' :: body => if body.isEmpty || body = ['c'] then none else some (false, body)
    | _ => none
  let digits := body.takeWhile Char.isDigit
  let (unit, bytes, more) := match body.drop digits.length with
    | 'b' :: more => (512, true, more)
    | 'c' :: more => (1, true, more)
    | 'l' :: more => (1, false, more)
    | more => (1, false, more)
  if !more.isEmpty && more != ['f'] then none
  let count := if digits.isEmpty then 10 else Numeral.value digits
  return ({ bytes, inverse, count := count * unit }, rest)

def tail : Tool := fun _ name words => do
  let (start, words) := (oldEnd words).getD ({}, words)
  Tool.withOptions ([⟨'n', "lines", .yes⟩, ⟨'c', "bytes", .yes⟩, ⟨'q', "quiet", .no⟩,
      ⟨'q', "silent", .no⟩, ⟨'v', "verbose", .no⟩, ⟨'f', "", .no⟩, ⟨'f', "follow", .maybe⟩,
      ⟨'F', "", .no⟩, ⟨'s', "sleep-interval", .yes⟩, ⟨'\x10', "pid", .yes⟩, ⟨'\x11', "retry", .no⟩,
      ⟨'\x12', "max-unchanged-stats", .yes⟩, ⟨'z', "zero-terminated", .no⟩] ++ digitShapes) 1 name
      words fun given => do
    match given.options.find? (·.1.isDigit) with
    | some (c, _) =>
      Tool.complain name ("option used in invalid context -- " ++ String.singleton c)
      return 1
    | none =>
      match ← portion? name '+' start given with
      | none => return 1
      | some p =>
        let part := fun (_ : Octets) (octets : List Char) => pure (p.atEnd octets)
        let fine ← showParts name (isTitled [] given) part true (Tool.inputs given)
        return if fine then 0 else 1

end Portions
end Shell
end LineShell
