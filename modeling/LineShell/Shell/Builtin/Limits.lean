import LineShell.Shell.Builtin.Basic
import LineShell.Shell.Number

/-!
# The command on limits

A process has limits on what it uses, a soft one that counts and a hard one that the soft one must
not pass.  A hard limit that was lowered stays low.
-/

namespace LineShell
namespace Shell
namespace Builtin
namespace Limits

/-- A kind of limit: its letter, its title, the size of its unit, and what it is on the host. -/
structure Kind where
  letter : Char
  title : String
  unit : Nat
  usual : Limit

def unlimited : Limit := {}

def kinds : List Kind :=
  [⟨'t', "time(seconds)", 1, unlimited⟩,
   ⟨'f', "file(blocks)", 512, unlimited⟩,
   ⟨'d', "data(kbytes)", 1024, unlimited⟩,
   ⟨'s', "stack(kbytes)", 1024, { soft := some 8388608 }⟩,
   ⟨'c', "coredump(blocks)", 512, unlimited⟩,
   ⟨'m', "memory(kbytes)", 1024, unlimited⟩,
   ⟨'l', "locked memory(kbytes)", 1024, { soft := some 8388608, hard := some 8388608 }⟩,
   ⟨'p', "process", 1, unlimited⟩,
   ⟨'n', "nofiles", 1, { soft := some 1048576, hard := some 1048576 }⟩,
   ⟨'v', "vmemory(kbytes)", 1024, unlimited⟩,
   ⟨'w', "locks", 1, unlimited⟩,
   ⟨'r', "rtprio", 1, { soft := some 0, hard := some 0 }⟩]

def current (kind : Kind) : Run Limit := do
  return ((← get).limits.lookup kind.letter).getD kind.usual

def text (kind : Kind) (hard : Bool) (limit : Limit) : String :=
  match if hard then limit.hard else limit.soft with
  | none => "unlimited"
  | some n => Numeral.decimal (n / kind.unit)

/-- Whether a limit is at most another one; none is the highest. -/
def isAtMost : Option Nat → Option Nat → Bool
  | _, none => true
  | none, some _ => false
  | some a, some b => a ≤ b

/-- Sets a limit; the answer is why that failed. -/
def put (kind : Kind) (limit : Limit) : Run (Option Fault) := do
  let old ← current kind
  if !isAtMost limit.soft limit.hard then return some .invalid
  else if !isAtMost limit.hard old.hard then return some .notPermitted
  else
    modify fun s => { s with
      limits := (kind.letter, limit) :: s.limits.filter (·.1 != kind.letter) }
    return none

def read (kind : Kind) (word : Octets) : Run (Option Nat) := do
  if word = "unlimited" then return none
  else if word.toList.all Char.isDigit then return some (ofDigits 10 word.toList * kind.unit)
  else Run.fail "bad number"

end Limits

open Limits in
def ulimit : Builtin := plain fun _ words => do
  let letters := ['H', 'S', 'a'] ++ kinds.map (·.letter)
  let (options, operands) ← options (String.ofList letters) words
  let sides := options.filter fun option => option.1 = 'H' || option.1 = 'S'
  let side := (sides.getLast?).map (·.1)
  let chosen := (options.filter fun option => !"HSa".toList.contains option.1).getLast?
  let letter := (chosen.map (·.1)).getD 'f'
  let kind := (kinds.find? (·.letter = letter)).getD ⟨'f', "", 1, unlimited⟩
  match operands with
  | [] =>
    if options.has 'a' then
      for kind in kinds do
        let limit ← current kind
        Run.emitLine (padded kind.title ++ " " ++ Limits.text kind (side = some 'H') limit)
    else Run.emitLine (Limits.text kind (side = some 'H') (← current kind))
    return 0
  | word :: others =>
    if options.has 'a' || !others.isEmpty then Run.fail "too many arguments"
    let value ← Limits.read kind word
    let old ← current kind
    let limit : Limit :=
      { soft := if side = some 'H' then old.soft else value
        hard := if side = some 'S' then old.hard else value }
    match ← Limits.put kind limit with
    | none => return 0
    | some fault => Run.fail ("error setting limit: " ++ fault.description)
where
  padded (title : String) : String :=
    title ++ String.ofList (List.replicate (20 - title.length) ' ')

end Builtin
end Shell
end LineShell
