import LineShell.Shell.Builtin.Basic
import LineShell.Shell.Utility.Options

/-!
# Commands on processes

These wait for processes, show those that run beside the script, and send signals.
-/

namespace LineShell
namespace Shell
namespace Builtin

/-- Whether a text begins with a percent sign, which names a job. -/
def namesJob (word : Octets) : Bool := word.toList.head? = some '%'

/-- The process of a job, which is named by its number or by how recent it is. -/
def job (word : Octets) : Run Nat := do
  let jobs := (← get).jobs
  let found := match word with
    | "%" | "%%" | "%+" => (jobs.head?, "No current job")
    | "%-" => (jobs[1]?, "No previous job")
    | _ =>
      let number := if namesJob word then Numeral.natural? (word.toList.drop 1) else none
      (number.bind fun n => jobs.find? (·.number = n), "No such job: " ++ word)
  match found with
  | (some job, _) => return job.process
  | (none, complaint) => Run.fail complaint

def markAwaited (chosen : Nat → Bool) : Run Unit := modify fun s =>
  { s with jobs := s.jobs.map fun job =>
      if chosen job.process then { job with awaited := true } else job }

/-- Waits for a process and gives its status, if there is such a process. -/
def waitFor (e : Engine) (process : Nat) : Run (Option Nat) := do
  if !(← get).jobs.any (·.process = process) then return none
  let before := (← get).deferred.any fun d => d.own.process = process
  match ← e.await process with
  | none => return none
  | some ended =>
    if let .signal signal := ended then
      if before then Signal.mourn signal
    markAwaited (· = process)
    return some ended.code

def wait : Builtin :=
  { run := fun e _ _ words => do
      let operands ← operands words
      if operands.isEmpty then
        for job in (← get).jobs.reverse do
          let _ ← e.await job.process
        markAwaited fun _ => true
        return 0
      let mut status := 127
      for word in operands do
        let process ← if namesJob word then job word else Run.count word
        if let some code := ← waitFor e process then status := code
      return status }

/-! ## Jobs -/

def condition (process : Nat) : Run String := do
  match (← get).ended.lookup process with
  | none => return "Running"
  | some (.status n) =>
    return if n % 256 = 0 then "Done" else "Done(" ++ Numeral.decimal (n % 256 : Nat) ++ ")"
  | some (.signal n) => return (Signal.obituaries.lookup n).getD "Unknown signal"

/-- The number of columns in which a job is described. -/
def jobColumns : Nat := 33

/-- Shows one job, which is the last one or the one before, or none of them. -/
def showJob (options : Options) (rank : Nat) (job : Job) : Run Unit := do
  if options.has 'p' then Run.emitLine (Numeral.decimal job.process)
  else
    let sign := if rank = 0 then "+" else if rank = 1 then "-" else " "
    let front := "[" ++ Numeral.decimal job.number ++ "] " ++ sign ++ " "
    let number := if options.has 'l' then Numeral.decimal job.process ++ " " else ""
    Run.emitLine (Tool.padRight jobColumns (front ++ number ++ (← condition job.process)))

/-- Shows jobs, of which those that have ended are then forgotten. -/
def showJobs (options : Options) : Nat → List Job → Run Unit
  | _, [] => return
  | rank, job :: others => do
    showJob options rank job
    if ((← get).ended.lookup job.process).isSome then
      modify fun s => { s with jobs := s.jobs.filter (·.process != job.process) }
      showJobs options rank others
    else showJobs options (rank + 1) others

def jobs : Builtin :=
  { run := fun _ _ _ words => do
      let (options, operands) ← options "lp" words
      let all := (← get).jobs
      let wanted ← operands.mapM job
      let chosen := if wanted.isEmpty then all else all.filter (wanted.contains ·.process)
      showJobs options 0 chosen
      return 0 }

/-- A command that would take a job up again: there is never one that was stopped. -/
def resume : Builtin := plain fun _ words => do
  let named := (← operands words).head?
  let _ ← job (named.getD "%")
  Run.fail ("job " ++ named.getD "(null)" ++ " not created under job control")

/-! ## Signals -/

/-- Sends a signal to a process; the answer is why that failed. -/
def send (signal process : Nat) : Run (Option Fault) := do
  let s ← get
  if process = s.process then
    Signal.receive signal
    return none
  else if s.alive.contains process then
    modify fun s => { s with sent := s.sent ++ [(process, signal)] }
    return none
  else return some .noProcess

def killUsage : Octets :=
  "Usage: kill [-s sigspec | -signum | -sigspec] [pid | job]... or\nkill -l [exitstatus]"

def sendAll (signal : Nat) (operands : List Octets) : Run Nat := do
  let results ← operands.mapM fun word => do
    let answer ←
      if namesJob word then
        -- A job has no group of processes of its own that could be reached by its number.
        let _ ← job word
        pure (some .noProcess)
      else if word.toList.head? = some '-' then
        let _ ← Run.count (String.ofList (word.toList.drop 1))
        pure (some .noProcess)
      else send signal (← Run.count word)
    match answer with
    | none => return true
    | some fault =>
      Run.warn (fault.description ++ "\n")
      return false
  return if results.all id then 0 else 1

def listSignals : List Octets → Run Nat
  | [] => do
    Run.emitLine "0"
    for signal in (List.range (Signal.last + 1)).drop 1 do Run.emitLine (Signal.name signal)
    return 0
  | word :: _ => do
    let n ← Run.count word
    let signal := if 128 < n then n - 128 else n
    if 0 < signal && signal ≤ Signal.last then
      Run.emitLine (Signal.name signal)
      return 0
    else Run.fail ("invalid signal number or exit status: " ++ word)

/-- The signal that options of `kill` name: the last one. -/
def signalOf (options : Options) : Run (Option Nat) := do
  let values := options.filterMap fun (letter, value) => if letter = 's' then some value else none
  let signals ← values.mapM fun value => do
    match Signal.find? 1 value with
    | some signal => return signal
    | none => Run.fail ("invalid signal number or name: " ++ value)
  return signals.getLast?

def kill : Builtin := plain fun _ words => do
  match words with
  | [] => Run.fail killUsage
  | first :: rest =>
    let short := if first.toList.head? = some '-' then
        Signal.find? 1 (String.ofList (first.toList.drop 1))
      else none
    match short with
    | some signal => if rest.isEmpty then Run.fail killUsage else sendAll signal rest
    | none =>
      let dashed := first.toList.head? = some '-'
      let (options, operands) ←
        if dashed then readOptions [('l', false), ('s', true)] (words.length + 1) words
        else pure ([], words)
      let signal ← signalOf options
      if options.has 'l' then
        if signal.isSome then Run.fail killUsage else listSignals operands
      else if operands.isEmpty then Run.fail killUsage
      else sendAll (signal.getD 15) operands

end Builtin
end Shell
end LineShell
