import LineShell.Shell.Builtin.Location
import LineShell.Shell.Builtin.Variables
import LineShell.Shell.Search

/-!
# How a shell starts

A shell reads switches from its words.  Then it runs the text that stands in the next word, the file
that the next word names, or its input.  What follows are the operands of the script.
-/

namespace LineShell
namespace Shell
namespace Startup

def usualVariables : List (String × Octets) :=
  [("IFS", " \t\n"), ("PATH", Search.shellPath), ("PS1", "# "), ("PS2", "> "), ("PS4", "+ "),
   ("OPTIND", "1")]

/-- The variables whose values are not taken from programs. -/
def ownVariables : List String := ["IFS", "OPTIND"]

/-- Takes on the variables that a shell was given, and those that every shell has. -/
def takeVariables : Run Unit := do
  let given := (← get).vars.filter fun entry => isName entry.1.toList
  let usual := usualVariables.map fun (name, value) =>
    match given.lookup name with
    | some v => (name, if ownVariables.contains name then { v with value := some value } else v)
    | none => (name, { value := some value })
  let others := given.filter fun entry => (usual.lookup entry.1).isNone
  modify fun s => { s with vars := usual ++ others }
  Run.setVariable "PPID" (some (Numeral.decimal (← get).parent)) false

/-- Finds out by which names the shell is where it is: those that it was given, if they lead
there. -/
def findWay : Run Unit := do
  let here := (← get).here
  let given := (← Run.value? "PWD").filter (·.startsWith "/")
  let leads ← match given with
    | some path => do
      match ← Run.spotAt true path with
      | .ok (.directory place) => pure (decide (place = here) && here.exists?)
      | _ => pure false
    | none => pure false
  Builtin.setWay (given.filter fun _ => leads) false

/-- What the switches of a shell ask for. -/
structure Wish where
  /-- Whether the next word is a script. -/
  command : Bool := false
  words : List Octets

/-- Reads the switches of one word, with the words after it. -/
def readLetters (on : Bool) : List Char → Wish → Run Wish
  | [], wish => return wish
  | 'c' :: rest, wish => readLetters on rest { wish with command := true }
  | 'l' :: rest, wish => readLetters on rest wish
  | 'o' :: rest, wish => do
    match wish.words with
    | [] =>
      -- Nothing is decided yet, which shows as if all were on.
      let s ← get
      let all := Builtin.switches.foldl (fun switches switch => switch.set true switches) s.switches
      set { s with switches := all }
      Builtin.showSwitches (!on)
      modify fun t => { t with switches := s.switches }
    | name :: _ => Builtin.setNamed on (some name)
    readLetters on rest { wish with words := wish.words.tail }
  | c :: rest, wish => do
    Builtin.setLetter on c
    readLetters on rest wish

def readSwitches : Nat → Wish → Run Wish
  | 0, wish => return wish
  | fuel + 1, wish => do
    match wish.words with
    | [] => return wish
    | word :: words =>
      match word.toList with
      | ['-'] | ['-', '-'] => return { wish with words }
      | '-' :: letters => readSwitches fuel (← readLetters true letters { wish with words })
      | '+' :: letters => readSwitches fuel (← readLetters false letters { wish with words })
      | _ => return wish

def runInput (e : Engine) : Run Nat := do
  match ← Run.readAll 0 with
  | .ok text => e.runFile text
  | .error _ => return 0

def runScript (e : Engine) (path : Octets) (operands : List Octets) : Run Nat := do
  match ← Run.openPath { reads := true } path with
  | .error fault => Run.fail ("cannot open " ++ path ++ ": " ++ Redirecting.faultText false fault)
  | .ok index =>
    let before := (← get).descriptors
    Run.setDescriptor 10 (some index)
    let text ← Run.readAll 10
    modify fun s => { s with descriptors := before, name := path, operands }
    match text with
    | .ok text => e.runFile text
    | .error _ => return 0

def obey (e : Engine) (words : List Octets) : Run Nat := do
  let wish ← readSwitches (words.length + 1) { words }
  match wish.command, wish.words with
  | true, [] => Run.fail "-c requires an argument"
  | true, script :: rest =>
    let s ← get
    set { s with name := rest.headD s.name, operands := rest.tail }
    if s.switches.interactive then
      Run.complain "sh: 0: can't access tty; job control turned off"
    let reads := (← get).switches.readsInput
    let status ← e.runText { exits := !reads } script
    if reads then runInput e else return status
  | false, [] =>
    modify fun s => { s with switches := { s.switches with readsInput := true } }
    runInput e
  | false, path :: operands =>
    if (← get).switches.readsInput then
      modify fun s => { s with operands := path :: operands }
      runInput e
    else runScript e path operands

def run (e : Engine) (dialect : Dialect) (name : Octets) (words : List Octets) : Run Nat := do
  modify fun s => { s with name, dialect, shell := s.process, line := 0 }
  e.finish do
    takeVariables
    findWay
    obey e words

end Startup
end Shell
end LineShell
