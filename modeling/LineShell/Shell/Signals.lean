import LineShell.Shell.Number

/-!
# Signals

A signal has a number, a name and an effect on a process that does not expect it.  A process may
ignore a signal or run a script for it; the script waits until the process is between two commands.
-/

namespace LineShell
namespace Shell
namespace Signal

/-- The names of the first signals, in the order of their numbers. -/
def names : List String :=
  ["EXIT", "HUP", "INT", "QUIT", "ILL", "TRAP", "ABRT", "BUS", "FPE", "KILL", "USR1", "SEGV",
   "USR2", "PIPE", "ALRM", "TERM", "16", "CHLD", "CONT", "STOP", "TSTP", "TTIN", "TTOU", "URG",
   "XCPU", "XFSZ", "VTALRM", "PROF", "WINCH", "IO", "PWR", "SYS", "32", "33"]

def last : Nat := 64

def name (signal : Nat) : String :=
  match names[signal]? with
  | some name => name
  | none =>
    if signal = 34 then "RTMIN"
    else if signal ≤ 49 then "RTMIN+" ++ Numeral.decimal (signal - 34)
    else if signal < 64 then "RTMAX-" ++ Numeral.decimal (64 - signal)
    else "RTMAX"

def ofNumber? (text : Octets) : Option Nat :=
  let chars := text.toList
  if !chars.isEmpty && chars.all Char.isDigit then
    let n := ofDigits 10 chars
    if n ≤ last then some n else none
  else none

/-- The signal of a number, or of a name from a least number on. -/
def find? (least : Nat) (text : Octets) : Option Nat :=
  let chars := text.toList
  if !chars.isEmpty && chars.all Char.isDigit then ofNumber? text
  else
    let upper := String.ofList (chars.map Char.toUpper)
    ((List.range (last + 1)).drop least).find? fun signal => name signal = upper

/-- What is said of a process that a signal has ended. -/
def obituaries : List (Nat × String) :=
  [(1, "Hangup"), (2, "Interrupt"), (3, "Quit"), (4, "Illegal instruction"),
   (5, "Trace/breakpoint trap"), (6, "Aborted"), (7, "Bus error"),
   (8, "Floating point exception"), (9, "Killed"), (10, "User defined signal 1"),
   (11, "Segmentation fault"), (12, "User defined signal 2"), (13, "Broken pipe"),
   (14, "Alarm clock"), (15, "Terminated"), (16, "Stack fault"), (24, "CPU time limit exceeded"),
   (25, "File size limit exceeded"), (26, "Virtual timer expired"),
   (27, "Profiling timer expired"), (29, "I/O possible"), (30, "Power failure"),
   (31, "Bad system call")]

/-- The signals that have no effect on a process that does not expect them. -/
def harmless : List Nat := [17, 18, 23, 28]

/-- The signals whose end of a process is not worth telling. -/
def quiet : List Nat := [2, 13]

def receive (signal : Nat) : Run Unit := do
  if signal = 0 then return
  let s ← get
  if signal = 9 then throw (.killed signal)
  match s.traps.lookup signal with
  | some action =>
    if action != "" then
      modify fun s => { s with pending := s.pending ++ [signal] }
  | none =>
    if s.ignored.contains signal || harmless.contains signal then return
    else throw (.killed signal)

/-- Lets the process that runs receive what was sent to it. -/
def collect : Run Unit := do
  let s ← get
  let mine := (s.sent.filter fun entry => entry.1 = s.process).map (·.2)
  if mine.isEmpty then return
  modify fun s => { s with sent := s.sent.filter fun entry => entry.1 != s.process }
  mine.forM receive

def mourn (signal : Nat) : Run Unit := do
  if quiet.contains signal then return
  Run.complain ((obituaries.lookup signal).getD ("Real-time signal " ++
    Numeral.decimal (signal - 34)))

end Signal
end Shell
end LineShell
