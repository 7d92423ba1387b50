import LineShell.Interpreter
import LineShell.Text.Lines

/-!
# Carrying out an invocation

A session over lines starts at home or in the directory that was asked for; everything else is done
at once.  The source of lines is opened only for a session, and at most once.
-/

namespace LineShell

/-- What an invocation came to: a code for the process or a failure that ends it, and what was done
with the lines if there was a session. -/
structure Outcome where
  result : Except Failure ReturnCode
  reading : Option Reading

namespace Interpreter

variable {W : Type}

/-- Opens a source and runs a session over it. -/
def converse (sh : Interpreter W) (openSource : Attempt W (LineSource W)) (s : State W) :
    Outcome × State W :=
  match (Action.call openSource).run s with
  | (.error cause, s) => ({ result := .error cause, reading := none }, s)
  | (.ok source, s) =>
    let (code, reading, s) := sh.loop source s
    ({ result := .ok code, reading := some reading }, s)

/-- Writes lines outside of any command; a write that fails ends the process. -/
def announce (sh : Interpreter W) (lines : List String) (code : State W → ReturnCode)
    (s : State W) : Outcome × State W :=
  match (sh.host.printAll lines).run s with
  | (.error cause, s) => ({ result := .error cause, reading := none }, s)
  | (.ok _, s) => ({ result := .ok (code s), reading := none }, s)

/-- Ends with the session's code. -/
def conclude (s : State W) : Outcome × State W :=
  ({ result := .ok s.session.code, reading := none }, s)

/-- Runs a session that starts at home, or where it is if home cannot be entered. -/
def launchInteractive (sh : Interpreter W) (openSource : Attempt W (LineSource W)) (s : State W) :
    Outcome × State W :=
  match sh.enterHome s with
  | (.ok _, s) => sh.converse openSource s
  | (.error cause, s) => sh.converse openSource (sh.tell (.homeSkipped cause) s)

/-- Runs a session that starts in a directory, or none if that cannot be entered. -/
def launchIn (sh : Interpreter W) (path : String) (openSource : Attempt W (LineSource W))
    (s : State W) : Outcome × State W :=
  match sh.changeDir path s with
  | (.ok _, s) => sh.converse openSource s
  | (.error cause, s) =>
    let s := sh.tell (.startRefused cause path) s
    conclude (sh.report .invalidData "invalid directory" (some path) s)

/-- Runs one command.  The code is the one stored afterwards, whatever the token was. -/
def launchCommand (sh : Interpreter W) (words : List String) (s : State W) :
    Outcome × State W :=
  let s :=
    if words.isEmpty then
      sh.report .insufficientArguments "insufficient arguments" none s
    else (sh.dispatch words s).2
  let (outcome, s) := conclude s
  (outcome, sh.shutdown s)

/-- Carries out an invocation. -/
def launch (sh : Interpreter W) (invocation : Invocation)
    (openSource : Attempt W (LineSource W)) (s : State W) : Outcome × State W :=
  let s := sh.tell (.launching invocation) s
  match invocation with
  | .interactive => sh.launchInteractive openSource s
  | .directory path => sh.launchIn path openSource s
  | .command words => sh.launchCommand words s
  | .version => sh.announce Standard.versionLines (fun _ => 0) s
  | .help text => sh.announce (textLines text) (fun _ => 0) s
  | .invalid text =>
    let s := sh.report .invalidArguments "invalid arguments" none s
    sh.announce (textLines text) (fun s => s.session.code) s

/-- Runs a process.  The error log is cleared before the code is handed on, also if that was done
already. -/
def process (sh : Interpreter W) (invocation : Invocation)
    (openSource : Attempt W (LineSource W)) (s : State W) : Except Failure ReturnCode × State W :=
  let s := sh.tell (.starting Standard.versionNumber) s
  let (outcome, s) := sh.launch invocation openSource s
  match outcome.result with
  | .ok code => (.ok code, sh.shutdown s)
  | .error cause => (.error cause, s)

end Interpreter
end LineShell
