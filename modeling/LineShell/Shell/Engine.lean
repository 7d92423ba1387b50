import LineShell.Shell.Grammar
import LineShell.Shell.Processes
import LineShell.Shell.Redirecting

/-!
# What runs scripts

An engine runs the scripts that are inside of another one.  Around it stands all that can be said
without knowing how a script is run: how a text is run line by line, how a process of a shell ends,
how scripts run in processes of their own, and when signals are dealt with.
-/

namespace LineShell
namespace Shell

/-- What is known of the place of a script. -/
structure Standpoint where
  /-- The process ends with the script. -/
  exits : Bool := false
  /-- The outcome is looked at, so that a failure does not end the whole. -/
  tested : Bool := false

structure Engine where
  /-- Runs a script and gives its status. -/
  evaluate : Standpoint → Script → Run Nat
  /-- Runs the script of a shell up to the end of its process, whose status it gives. -/
  complete : Run Nat → Run Nat

namespace Engine

def settle (status : Nat) : Run Unit := modify fun s => { s with status }

/-! ## Texts -/

def readLine (r : Reader) : Run (Option Script × Reader) := do
  let s ← get
  let r := { r with dialect := s.dialect, aliases := s.aliases, documents := s.documents,
                    nextDocument := s.nextDocument }
  match nextLine.run r with
  | .ok (script, r) =>
    modify fun s => { s with documents := r.documents, nextDocument := r.nextDocument }
    return (script, r)
  | .error problem =>
    modify fun s => { s with line := problem.line }
    Run.fail problem.text

/-- Shows the part of a text that was read, if lines are to be shown. -/
def showRead (before after : List Char) : Run Unit := do
  if (← get).switches.showsLines then
    Run.murmur (String.ofList (before.take (before.length - after.length)))

/-- Runs what is left of a text, line by line, and gives the status of the last one.  Whether the
lines of the text may be shown is given. -/
def runLines (e : Engine) (at_ : Standpoint) (shows : Bool) : Nat → Nat → Reader → Run Nat
  | 0, status, _ => return status
  | fuel + 1, status, r => do
    let (script, after) ← readLine r
    if shows then showRead r.rest after.rest
    match script with
    | none => return status
    | some script =>
      let answer ← e.evaluate { at_ with exits := at_.exits && after.isOver } script
      let status := match script with
        | .skip => status
        | _ => answer
      if (← get).skipping != .nothing then return status
      runLines e at_ shows fuel status after

def runText (e : Engine) (at_ : Standpoint) (text : Octets) : Run Nat :=
  runLines e at_ false (text.length + 2) 0 { rest := text.toList }

/-- Runs the text of a file, which may be left early. -/
def runFile (e : Engine) (text : List Char) : Run Nat := do
  let status ← runLines e {} true (text.length + 2) 0 { rest := text }
  if let .returns _ := (← get).skipping then modify fun s => { s with skipping := .nothing }
  return status

/-! ## Signals -/

/-- Takes a signal off those that were not dealt with. -/
def forget (signal : Nat) : Run Unit := modify fun s =>
  { s with pending := s.pending.filter (· != signal) }

def attendTo (e : Engine) (status : Nat) : List Nat → Run Unit
  | [] => return
  | signal :: others => do
    let s ← get
    if s.skipping != .nothing then return
    forget signal
    match s.traps.lookup signal with
    | none => attendTo e status others
    | some action =>
      let _ ← e.runText {} action
      if (← get).skipping != .returns true then settle status
      attendTo e status others

def attend (e : Engine) : Run Unit := do
  let s ← get
  if s.pending.isEmpty then return
  let status := s.wantedStatus.getD s.status
  modify fun s => { s with wantedStatus := some status }
  attendTo e status (s.pending.mergeSort (· ≤ ·)).eraseDups
  modify fun t => { t with wantedStatus := s.wantedStatus }

/-! ## Ends of processes -/

/-- Decides the status with which a shell ends, and leaves everything that it was in. -/
def conclude (exited : Bool) : Run Unit := modify fun s =>
  let status := match s.wantedStatus with
    | some wanted => if exited || s.skipping = .returns false then wanted else s.status
    | none => s.status
  { s with status, wantedStatus := none, skipping := .nothing, loops := 0, functionDepth := 0 }

/-- Why a step ended its process; nothing if it did not. -/
def haltOf (body : Run Nat) : Run (Option Halt) :=
  tryCatch (do let _ ← body; return none) fun halt => return some halt

def bidFarewell (e : Engine) : Run Unit := do
  let s ← get
  match s.traps.lookup 0 with
  | none => return
  | some action =>
    set { s with
      traps := s.traps.filter fun entry => entry.1 != 0
      wantedStatus := some s.status
      skipping := .nothing }
    let text : Run Nat := do
      let status ← e.runText {} action
      modify fun s => { s with skipping := .returns false }
      return status
    match ← haltOf text with
    | some (.killed signal) => throw (.killed signal)
    | some .replaced => return
    | halt => conclude (halt = some .exited)

def runDeferred (e : Engine) (d : Deferred) : Run Unit := do
  modify fun s => { s with
    deferred := s.deferred.filter fun other => other.own.process != d.own.process }
  let s ← get
  let own := { d.own with here := Process.settled s d.seen d.own.here }
  let body : Run Nat := do
    Signal.collect
    e.evaluate { exits := true } d.script
  let ended ← Process.within own (e.complete body)
  modify fun s => { s with ended := (d.own.process, ended) :: s.ended }

def catchUp (e : Engine) (parent : Option Nat) : Run Unit := do
  let wanted := (← get).deferred.filter fun d => parent.all (· = d.own.parent)
  wanted.forM (runDeferred e)

/-- Runs the script of a shell up to the end of its process, whose status it gives. -/
def finish (e : Engine) (body : Run Nat) : Run Nat := do
  let halt ← haltOf body
  let last : Run Unit := do
    match halt with
    | some (.killed signal) => throw (.killed signal)
    | some .replaced => return
    | halt =>
      conclude (halt = some .exited)
      bidFarewell e
  tryCatch last fun halt => do
    catchUp e (some (← get).process)
    throw halt
  let status := (← get).status
  catchUp e (some (← get).process)
  return status

/-! ## Processes -/

def fork (e : Engine) (body : Run Nat) : Run Nat := Process.run (e.finish body)

/-- Gives a process the first number of a job that is free. -/
def addJob (process : Nat) (jobs : List Job) : List Job :=
  let kept := jobs.filter fun job => !job.awaited
  let taken := kept.map (·.number)
  let number := ((List.range (kept.length + 1)).map (· + 1)).find? fun n => !taken.contains n
  { number := number.getD 1, process } :: kept

/-- Starts a script that runs beside this process, and gives the number of its process. -/
def putOff (script : Script) : Run Nat := do
  let number ← Process.newNumber
  let index ← Run.newChannel (.device .null)
  modify fun s =>
    let own := Process.Own.fresh s.toOwn number
    let own := { own with
      descriptors := (0, index) :: own.descriptors.filter fun entry => entry.1 != 0
      ignored := 2 :: 3 :: own.ignored }
    { s with
      alive := number :: s.alive
      deferred := s.deferred ++ [{ own, script, seen := s.moves.length }]
      jobs := addJob number s.jobs
      lastJob := some number }
  return number

/-- The end of a process that was started beside this one, after waiting for it. -/
def await (e : Engine) (process : Nat) : Run (Option Ended) := do
  match (← get).deferred.find? fun d => d.own.process = process with
  | some d => runDeferred e d
  | none => pure ()
  return (← get).ended.lookup process

def substitute (e : Engine) : Expansion.Substitute
  | .skip => return ""
  | script => do
    let index ← Run.newChannel (.sink [] 0 none)
    let status ← e.fork do
      Run.setDescriptor 1 (some index)
      e.evaluate { exits := true } script
    modify fun s => { s with substituted := status }
    match (← get).channels[index]? with
    | some (.sink chunks _ _) =>
      Run.setChannel index (.source [])
      return joinChunks chunks
    | _ => return ""

def expandText (e : Engine) (text : Octets) : Run Octets := do
  match wholeText.run { rest := text.toList } with
  | .ok (word, _) => Expansion.text e.substitute .nowhere word
  | .error problem => Run.fail problem.text

end Engine
end Shell
end LineShell
