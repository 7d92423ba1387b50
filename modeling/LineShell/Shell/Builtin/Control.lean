import LineShell.Shell.Builtin.Basic
import LineShell.Shell.Search

/-!
# Commands that decide what runs next

These leave loops, functions, files and the shell; they run texts and files, and say what is to be
done on signals.
-/

namespace LineShell
namespace Shell
namespace Builtin

def succeed : Builtin := plain fun _ _ => return 0

def colon : Builtin := ofLanguage fun _ _ => return 0

def failing : Builtin := plain fun _ _ => return 1

/-! ## Texts and files -/

def eval : Builtin :=
  { special := true,
    run := fun e at_ _ words =>
      if words.isEmpty then return 0
      else e.runText { tested := at_.tested } (" ".intercalate words) }

/-- The path of a file that a script names: one without a slash is looked for. -/
def sourcePath (name : Octets) : Run Octets := do
  if name.toList.contains '/' then return name
  for path in Search.candidates (← Search.current) name do
    if let .ok (.file _) := ← Run.nodeAt true path then return path
  Run.fail (name ++ ": not found")

def dot : Builtin :=
  { special := true,
    run := fun e _ _ words => do
      match ← operands words with
      | [] => return 0
      | name :: _ =>
        let path ← sourcePath name
        match ← Run.openPath { reads := true } path with
        | .error fault =>
          Run.fail ("cannot open " ++ path ++ ": " ++ Redirecting.faultText false fault)
        | .ok index =>
          let before := (← get).descriptors
          Run.setDescriptor 10 (some index)
          let text ← Run.readAll 10
          modify fun s => { s with descriptors := before, speaker := some path }
          match text with
          | .ok text => e.runFile text
          | .error _ => return 0 }

/-! ## Leaving -/

def exit : Builtin := ofLanguage fun _ words => do
  match words with
  | [] => throw .exited
  | word :: _ =>
    let status ← Run.count word
    modify fun s => { s with wantedStatus := some status }
    throw .exited

def return_ : Builtin := ofLanguage fun _ words => do
  match words with
  | [] =>
    modify fun s => { s with skipping := .returns false }
    return (← get).status
  | word :: _ =>
    let status ← Run.count word
    modify fun s => { s with skipping := .returns true }
    return status

/-- Leaves so many loops, or goes on with the next round. -/
def leave (how : Nat → Skipping) : Builtin := ofLanguage fun _ words => do
  let n ← match words with
    | [] => pure 1
    | word :: _ =>
      let n ← Run.count word
      if n = 0 then Run.badNumber word else pure n
  let n := min n (← get).loops
  if 0 < n then modify fun s => { s with skipping := how n }
  return 0

/-! ## Signals -/

def showTraps : Run Nat := do
  let s ← get
  for signal in List.range (Signal.last + 1) do
    if let some action := s.traps.lookup signal then
      Run.emitLine ("trap -- " ++ quoted action ++ " " ++ Signal.name signal)
  return 0

def setTraps (action : Option Octets) : List Octets → Run Nat
  | [] => return 0
  | word :: words => do
    match Signal.find? 0 word with
    | none =>
      Run.complain ("trap: " ++ word ++ ": bad trap")
      return 1
    | some signal =>
      modify fun s =>
        let others := s.traps.filter fun entry => entry.1 != signal
        { s with traps := match action with
            | some action => (signal, action) :: others
            | none => others }
      setTraps action words

def trap : Builtin := ofLanguage fun _ words => do
  match ← operands words with
  | [] => showTraps
  | [word] => setTraps none [word]
  | first :: rest =>
    if (Signal.ofNumber? first).isSome then setTraps none (first :: rest)
    else setTraps (if first = "-" then none else some first) rest

def times : Builtin := ofLanguage fun _ _ => do
  Run.emitLine "0m0.000000s 0m0.000000s"
  Run.emitLine "0m0.000000s 0m0.000000s"
  return 0

end Builtin
end Shell
end LineShell
