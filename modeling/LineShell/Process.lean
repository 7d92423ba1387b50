import LineShell.Launch
import LineShell.Machine

/-!
# A run of the program

A run takes arguments, an environment, an input and files, and leaves an exit status, what was
written, a log and files.  The status is the low byte of the code of the session.
-/

namespace LineShell

/-- What a run leaves. -/
structure Run where
  /-- The exit status. -/
  status : Nat
  output : String
  errors : String
  /-- The lines of the log. -/
  log : List String
  files : Files

namespace Machine

/-- The low byte of a code. -/
def lowByte (code : ReturnCode) : Nat := (code.toInt.emod 256).toNat

/-- The state that a process starts with. -/
def initialState (m : Machine) : State Machine :=
  { session := Session.ofEnvironment m.valueOf m.site.files.here.toOption
    errors := {}
    world := m }

/-- Runs the interpreter on a machine and gives the exit status. -/
def execute (args : List String) (m : Machine) : Nat × State Machine :=
  match (Interpreter.standard host).process (.ofArgs args) openTerminal m.initialState with
  | (.ok code, s) => (lowByte code, s)
  | (.error cause, s) =>
    (1, { s with world := s.world.complain ("Error: " ++ cause.message ++ "\n") })

/-- The machine before a run. -/
def prepare (environment : List (String × String)) (stdin : List UInt8) (files : Files) :
    Machine :=
  { site := { files, environment, input := stdin.map Octets.ofByte } }

/-- The lines of the log that the environment asks for. -/
def logLines (m : Machine) : List String :=
  let filter := LogFilter.ofVariable (m.valueOf "YASH_LOG")
  (m.events.filter filter.shows).map Event.line

end Machine

/-- Runs the program. -/
def Run.ofProcess (args : List String) (environment : List (String × String))
    (stdin : List UInt8) (files : Files) : Run :=
  let (status, s) := (Machine.prepare environment stdin files).execute args
  let m := s.world
  { status, output := Octets.toText m.site.output, errors := Octets.toText m.site.errors,
    log := m.logLines, files := m.site.files }

end LineShell
