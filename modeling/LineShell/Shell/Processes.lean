import LineShell.Shell.Paths
import LineShell.Shell.Signals

/-!
# Processes

A process is started with a copy of what its parent has for itself, and the parent waits for its
end.  What it does to files and channels stays.  A script that runs beside others is put off until
somebody waits for it, or until its parent ends.
-/

namespace LineShell
namespace Shell

namespace Process

/-- Whether something is run on a signal or at the end. -/
def hasTraps : Run Bool := do return (← get).traps.any fun entry => entry.2 != ""

/-- What a new process forgets of its parent: what is run on signals, and its jobs. -/
def Own.fresh (own : Own) (process : Nat) : Own :=
  { own with
    process
    parent := own.process
    traps := own.traps.filter fun entry => entry.2 = ""
    pending := []
    jobs := []
    writeFault := none }

def settled (s : Surroundings) (seen : Nat) (here : Place) : Place :=
  s.files.tree.settle ((s.moves.drop seen).foldl (fun p (old, new) => Place.moved old new p) here)

def outcome (body : Run Nat) : Run Ended :=
  tryCatch (Ended.status <$> body) fun
    | .killed signal => return .signal signal
    | _ => return .status (← get).status

/-- Runs something as a process of which this one is the parent. -/
def within (child : Own) (body : Run Nat) : Run Ended := do
  let parent := (← get).toOwn
  let seen := (← get).moves.length
  modify fun s => { s with toOwn := child, alive := child.process :: s.alive }
  let ended ← outcome body
  modify fun s =>
    { s with
      toOwn := { parent with here := settled s seen parent.here }
      alive := s.alive.filter (· != child.process) }
  return ended

def newNumber : Run Nat := modifyGet fun s =>
  (s.nextProcess, { s with nextProcess := s.nextProcess + 1 })

/-- Runs something in a process of its own, tells if a signal ended it, and gives the status. -/
def run (body : Run Nat) : Run Nat := do
  let number ← newNumber
  let ended ← within (Own.fresh (← get).toOwn number) body
  Signal.collect
  if let .signal signal := ended then Signal.mourn signal
  return ended.code

end Process
end Shell
end LineShell
