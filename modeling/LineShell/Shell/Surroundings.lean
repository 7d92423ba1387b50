import LineShell.Files.System
import LineShell.Shell.Channel
import LineShell.Shell.Script

/-!
# What a process works on

A process of the host shares its files and its channels with all other processes.  The rest is its
own: where it is, its descriptors, its variables, and for a shell what scripts have set.  A new
process starts with a copy of what its parent has; when it has ended, only what is shared is left.
-/

namespace LineShell
namespace Shell

structure Variable where
  /-- None for a variable that was given a role, but no value. -/
  value : Option Octets
  /-- Whether programs see it. -/
  exported : Bool := false
  fixed : Bool := false
  deriving Inhabited

structure Switches where
  /-- Every variable that is set is seen by programs. -/
  allExported : Bool := false
  /-- A command that fails ends the script. -/
  endsOnFailure : Bool := false
  /-- Words are not taken for patterns. -/
  noPatterns : Bool := false
  readsOnly : Bool := false
  /-- A parameter without a value is an error. -/
  demandsValues : Bool := false
  /-- Lines are shown as they are read. -/
  showsLines : Bool := false
  /-- Commands are shown before they run. -/
  traces : Bool := false
  /-- Redirections do not overwrite files. -/
  keepsFiles : Bool := false
  interactive : Bool := false
  monitors : Bool := false
  ignoresEnd : Bool := false
  readsInput : Bool := false
  editsVi : Bool := false
  editsEmacs : Bool := false
  notifies : Bool := false
  noLog : Bool := false
  privileged : Bool := false
  debugs : Bool := false

/-- What is passed over, until the construct that is left. -/
inductive Skipping where
  | nothing
  /-- Leaves so many loops. -/
  | breaks (loops : Nat)
  /-- Goes on with the next round of the loop so many loops out. -/
  | continues (loops : Nat)
  /-- Leaves a function or a file; whether that came with a status of its own. -/
  | returns (chosen : Bool)
  deriving DecidableEq, Repr

inductive Ended where
  | status (n : Nat)
  | signal (n : Nat)
  deriving DecidableEq, Repr, Inhabited

def Ended.code : Ended → Nat
  | .status n => n % 256
  | .signal n => 128 + n

/-- A process that was started beside its parent, as its parent knows it. -/
structure Job where
  number : Nat
  process : Nat
  /-- Whether somebody has waited for it, so that its number is free. -/
  awaited : Bool := false
  deriving Inhabited

/-- What a command puts aside until it ends. -/
structure Frame where
  vars : List (String × Option Variable) := []
  switches : Option Switches := none
  deriving Inhabited

/-- How much of something a process may use: what counts, and how far that may be raised.  None is
without a limit. -/
structure Limit where
  soft : Option Nat := none
  hard : Option Nat := none
  deriving DecidableEq, Repr, Inhabited

/-- What a process has for itself. -/
structure Own where
  process : Nat
  parent : Nat
  /-- The number of the shell that a script is read by. -/
  shell : Nat
  here : Place
  /-- The text of the working directory, by which names lead there; none if it is unknown. -/
  way : Option Octets := none
  mask : Nat := 0o022
  /-- The limits that were set, by the letters of their kinds. -/
  limits : List (Char × Limit) := []
  descriptors : List (Nat × Nat) := []
  vars : List (String × Variable) := []
  arrays : List (String × List Octets) := []
  /-- What was put aside by the commands that run, the innermost one first. -/
  frames : List Frame := []
  functions : List (String × Nat × Script) := []
  aliases : List (String × List Char) := []
  /-- The programs that were looked up, with their paths. -/
  found : List (String × Octets) := []
  /-- The documents of scripts that were read. -/
  documents : List (Nat × Word) := []
  nextDocument : Nat := 0
  dialect : Dialect := .plain
  name : Octets := "sh"
  operands : List Octets := []
  switches : Switches := {}
  /-- Whether the script was given as an operand. -/
  givenScript : Bool := false
  status : Nat := 0
  /-- The status that a script wants to end with. -/
  wantedStatus : Option Nat := none
  /-- The status of the last substitution of a command. -/
  substituted : Nat := 0
  skipping : Skipping := .nothing
  loops : Nat := 0
  functionDepth : Nat := 0
  /-- The line of the command that runs, as complaints show it. -/
  line : Nat := 1
  /-- The command that complains. -/
  speaker : Option Octets := none
  /-- What is done on signals, and at the end on signal zero; an empty text ignores. -/
  traps : List (Nat × Octets) := []
  /-- Signals that came and were not dealt with. -/
  pending : List Nat := []
  /-- Signals that were ignored from the start. -/
  ignored : List Nat := []
  /-- The processes that were started beside this one, the last one first. -/
  jobs : List Job := []
  /-- The last process that was started beside this one. -/
  lastJob : Option Nat := none
  /-- The number of the operand that is next to be read for options. -/
  optionIndex : Nat := 1
  /-- How far a word with several options was read. -/
  optionOffset : Option Nat := none
  /-- Why the last attempt to write regular output failed. -/
  writeFault : Option Fault := none

/-- A script that was to run beside others and was put off. -/
structure Deferred where
  /-- What its process starts with. -/
  own : Own
  script : Script
  /-- How many directories had moved by then. -/
  seen : Nat

/-- When directories were last changed and read; one that is not named, at the present.  This stands
beside the tree, so that an entry that is made and taken away again leaves the tree as it was. -/
abbrev FolderStamps := List (Location × Stamps)

namespace FolderStamps

def of (stamps : FolderStamps) (location : Location) : Stamps := (stamps.lookup location).getD {}

def alter (stamps : FolderStamps) (location : Location) (change : Stamps → Stamps) :
    FolderStamps :=
  (location, change (stamps.of location)) :: stamps.filter fun entry => entry.1 != location

def renew (stamps : FolderStamps) (location : Location) : FolderStamps :=
  stamps.alter location fun own => { own with changed := .present }

def follow (stamps : FolderStamps) (old new : Tree) : FolderStamps :=
  let left := stamps.filter fun entry => (new.find? entry.1).any Node.isDirectory
  left.map fun entry =>
    if old.sortedNames entry.1 = new.sortedNames entry.1 then entry
    else (entry.1, { entry.2 with changed := .present })

/-- A directory whose names are others has changed just now. -/
theorem changed_follow (stamps : FolderStamps) {old new : Tree} {location : Location}
    (h : old.sortedNames location ≠ new.sortedNames location) :
    ((stamps.follow old new).of location).changed = Moment.present := by
  cases hl : (stamps.follow old new).lookup location with
  | none => simp [of, hl]
  | some own =>
    have hmem : (location, own) ∈ stamps.follow old new := by
      obtain ⟨before, after, hsplit, -⟩ := List.lookup_eq_some_iff.1 hl
      simp [hsplit]
    obtain ⟨entry, -, hentry⟩ := List.mem_map.1 hmem
    split at hentry
    · next hsame =>
      subst hentry
      exact absurd hsame h
    · cases hentry
      simp [of, hl]

end FolderStamps

structure Commons where
  files : Files
  stamps : FolderStamps := []
  channels : Array Channel := #[]
  nextProcess : Nat := 1000
  /-- The processes that have not ended. -/
  alive : List Nat := []
  /-- How processes ended that nobody waited for yet. -/
  ended : List (Nat × Ended) := []
  /-- Signals that were sent, each with the number of its receiver. -/
  sent : List (Nat × Nat) := []
  /-- The number of the next file that gets a second name. -/
  nextTwin : Nat := 1
  /-- Where directories were and where they are now, in the order in which they moved. -/
  moves : List (Location × Location) := []
  deferred : List Deferred := []

/-- When what stands at a location was last changed and read. -/
def Commons.stampsOf (s : Commons) (location : Location) : Node → Stamps
  | .directory _ => s.stamps.of location
  | .file file => file.stamps
  | .link _ | .device _ => {}

structure Surroundings extends Commons, Own

/-- Why a process does not go on. -/
inductive Halt where
  /-- After an error that was told. -/
  | failed
  /-- It was asked to. -/
  | exited
  /-- Its last command is done. -/
  | done
  /-- A program has taken its place and is done. -/
  | replaced
  | killed (signal : Nat)
  deriving DecidableEq, Repr

abbrev Run := EStateM Halt Surroundings

/-- A command of the shell itself, or what a program does: it takes words and gives a status. -/
abbrev Utility := List Octets → Run Nat

/-- What programs can ask for that needs other programs. -/
structure Calls where
  /-- Runs a program in this process, whose first word is its name. -/
  become : List Octets → Run (Except Fault Nat)
  /-- Runs a program in a process of its own. -/
  spawn : List Octets → Run (Except Fault Ended)
  /-- Runs what was put off so far. -/
  catchUp : Run Unit

end Shell
end LineShell
