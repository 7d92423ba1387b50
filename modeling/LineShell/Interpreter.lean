import LineShell.LineSource
import LineShell.Standard.Table

/-!
# The interpreter

An interpreter is a host and a table of commands.  It takes a state to a state: a line is cut into
words, its first word picks a command, and what no command answers to goes to the host's shell.
Nothing that a command or the host does can stop the interpreter from going on; only a token ends
the loop.
-/

namespace LineShell

structure Interpreter (W : Type) where
  host : Host W
  commands : Registry W

namespace Interpreter

variable {W : Type}

/-- The interpreter with every built-in command. -/
def standard (host : Host W) : Interpreter W := { host, commands := Standard.table host }

/-- The state after an event was told. -/
def tell (sh : Interpreter W) (event : Event) (s : State W) : State W :=
  { s with world := sh.host.note event s.world }

/-! ## One line -/

/-- Records a failure outside of any command.  If the user cannot be told, the log is. -/
def report (sh : Interpreter W) (kind : Kind) (message : String) (item : Option String)
    (s : State W) : State W :=
  match (sh.host.fail kind message item).run s with
  | (.ok _, s) => s
  | (.error cause, s) => sh.tell (.errorLineLost cause) s

/-- Records that a command broke off. -/
def breakOff (sh : Interpreter W) (name : String) (cause : Failure) (s : State W) : State W :=
  let s := sh.tell (.commandFailed name cause) s
  let (position, errors) := s.errors.push (Record.ofKind .unknown)
  sh.tell (.unexpected position) { s with errors }

/-- Runs a command under the name that was typed.  A command that breaks off counts as run. -/
def runCommand (sh : Interpreter W) (command : Command W) (name : String) (operands : List String)
    (s : State W) : Token × State W :=
  let s := sh.tell (.commandStarted (command.names.headD name) operands.length) s
  match (command.execute sh.commands.synopses name operands).run s with
  | (.ok token, s) => (token, s)
  | (.error cause, s) => (.success, sh.breakOff name cause s)

/-- Hands a line to the host's shell. -/
def runExternal (sh : Interpreter W) (line : String) (s : State W) : Token × State W :=
  match (Action.call (sh.host.run line)).run s with
  | (.ok _, s) => (.success, s)
  | (.error cause, s) =>
    let s := sh.tell (.externalRefused cause line) s
    (.success, sh.report .unknown "failed to run command" (some line) s)

/-- Answers words, without keeping the token. -/
def answer (sh : Interpreter W) (words : List String) (s : State W) : Token × State W :=
  match words with
  | [] => (.blank, s)
  | name :: operands =>
    match sh.commands.resolve name with
    | some command => sh.runCommand command name operands s
    | none => sh.runExternal (joinWords words) s

/-- Keeps a token as the last one. -/
def keep (token : Token) (s : State W) : State W :=
  { s with session := { s.session with last := some token } }

/-- Answers words. -/
def dispatch (sh : Interpreter W) (words : List String) (s : State W) : Token × State W :=
  let (token, s) := sh.answer words s
  (token, keep token (sh.tell (.dispatched token) s))

/-- Answers a line. -/
def runLine (sh : Interpreter W) (line : String) (s : State W) : Token × State W :=
  sh.dispatch (tokenize line) s

/-! ## Directories -/

/-- Goes to a directory and lets the session follow. -/
def changeDir (sh : Interpreter W) (path : String) (s : State W) :
    Except ChangeFailure Unit × State W :=
  match (Action.call (sh.host.setCurrentDir path)).run s with
  | (.error cause, s) => (.error (.refused path cause), s)
  | (.ok _, s) =>
    match (Action.call sh.host.currentDir).run s with
    | (.error cause, s) => (.error (.unreadable cause), s)
    | (.ok cwd, s) =>
      (.ok (), sh.tell (.directoryChanged cwd) { s with session := { s.session with cwd } })

/-- Goes home. -/
def enterHome (sh : Interpreter W) (s : State W) : Except ChangeFailure Unit × State W :=
  sh.changeDir s.session.home s

/-! ## The loop -/

/-- Forgets the error log, as at the end of every session. -/
def shutdown (sh : Interpreter W) (s : State W) : State W :=
  let s := sh.tell (.logCleared s.errors.count) s
  { s with errors := s.errors.clear }

/-- Starts the session over, on behalf of a token. -/
def restart (sh : Interpreter W) (s : State W) : State W :=
  let s := sh.tell (.restarted s.session.code) s
  { s with session := s.session.reset }

/-- Whether the loop ends after a line that gave the token. -/
def stops (token : Token) (s : State W) : Bool :=
  token.isTerminal || s.session.last.any Token.isTerminal

/-- Reads and answers lines until one of them ends the loop or there are no more. -/
def readLines (sh : Interpreter W) (showPrompt : String → W → W) :
    Supply W → State W → Reading × State W
  | .ended ending, s =>
    let prompt := s.session.prompt
    let s := { s with world := showPrompt prompt s.world }
    ({ prompts := [prompt], unread := [] }, sh.tell ending.event s)
  | .line text rest, s =>
    let prompt := s.session.prompt
    let (token, s) := sh.runLine text { s with world := showPrompt prompt s.world }
    if stops token s then ({ prompts := [prompt], unread := rest.pending }, s)
    else
      let s := if token = .restart then sh.restart s else s
      let (reading, s) := sh.readLines showPrompt rest s
      ({ reading with prompts := prompt :: reading.prompts }, s)
  | .ask look after, s =>
    sh.readLines showPrompt (look s.world) { s with world := after s.world }

/-- Runs a session over a source and gives the code it ends with. -/
def loop (sh : Interpreter W) (source : LineSource W) (s : State W) :
    ReturnCode × Reading × State W :=
  let (reading, s) := sh.readLines source.showPrompt source.supply s
  (s.session.code, reading, sh.shutdown s)

theorem breakOff_eq (sh : Interpreter W) (name : String) (cause : Failure) (s : State W) :
    sh.breakOff name cause s =
      sh.tell (.unexpected s.errors.count) { sh.tell (.commandFailed name cause) s with
        errors := (s.errors.push (Record.ofKind .unknown)).2 } := by
  rw [← s.errors.push_fst (Record.ofKind .unknown)]
  rfl

@[simp] theorem dispatch_last (sh : Interpreter W) (words : List String) (s : State W) :
    (sh.dispatch words s).2.session.last = some (sh.dispatch words s).1 := rfl

/-- The last token is the one that was just given, so asking for both is asking twice. -/
theorem stops_runLine (sh : Interpreter W) (line : String) (s : State W) :
    stops (sh.runLine line s).1 (sh.runLine line s).2 = (sh.runLine line s).1.isTerminal := by
  simp [stops, runLine]

/-- A session leaves an empty log. -/
@[simp] theorem errors_shutdown (sh : Interpreter W) (s : State W) :
    (sh.shutdown s).errors = {} := rfl

end Interpreter
end LineShell
