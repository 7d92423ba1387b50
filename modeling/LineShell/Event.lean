import LineShell.Failure
import LineShell.Invocation
import LineShell.PathEdit
import LineShell.Record
import LineShell.Token

/-!
# Events

What happens inside the interpreter is told to the host as events.  An event is a cause with its
data; its level, its source and its line of text are derived, so that nothing but this module knows
the wording.  Two events tell of a new record and carry its position in the error log, and so does
the one that tells of a record made by the user.
-/

namespace LineShell

/-- How severe an event is, the most severe first. -/
inductive Level where
  | error
  | warn
  | info
  | debug
  | trace
  deriving DecidableEq, Repr

namespace Level

def rank : Level → Nat
  | .error => 0
  | .warn => 1
  | .info => 2
  | .debug => 3
  | .trace => 4

def label : Level → String
  | .error => "ERROR"
  | .warn => "WARN"
  | .info => "INFO"
  | .debug => "DEBUG"
  | .trace => "TRACE"

/-- Reads the name of a level in any case of its letters. -/
def ofName? (name : String) : Option Level :=
  [Level.error, .warn, .info, .debug, .trace].find? fun level =>
    level.label.toList.map Char.toLower == name.toList.map Char.toLower

end Level

inductive Event where
  /-- The process starts. -/
  | starting (version : String)
  | launching (invocation : Invocation)
  /-- The loop starts somewhere else because home cannot be entered. -/
  | homeSkipped (cause : ChangeFailure)
  /-- The directory to start in was refused. -/
  | startRefused (cause : ChangeFailure) (path : String)
  /-- A command runs, under its first name. -/
  | commandStarted (command : String) (operands : Nat)
  /-- A command broke off, under the name that was typed. -/
  | commandFailed (command : String) (cause : Failure)
  /-- A failure was recorded and is about to be told to the user. -/
  | recorded (kind : Kind) (position : Nat) (message : String) (item : Option String)
  /-- The failure of a command that broke off was recorded. -/
  | unexpected (position : Nat)
  /-- The user recorded a failure. -/
  | thrown (name : String) (code : ReturnCode) (position : Nat)
  /-- The user could not be told of a failure. -/
  | errorLineLost (cause : Failure)
  | dispatched (token : Token)
  | directoryChanged (cwd : String)
  | endOfInput
  | readFailed (cause : Failure)
  | restarted (code : ReturnCode)
  | logCleared (records : Nat)
  /-- The directory of an operand was refused. -/
  | pathRefused (cause : Failure) (path : String)
  | homeRefused (cause : Failure) (home : String)
  | cwdUnreadable (cause : Failure)
  | editFailed (cause : Failure) (path : String) (edit : PathEdit)
  | listingFailed (cause : Failure) (path : String)
  /-- A line that no command answers to could not be run. -/
  | externalRefused (cause : Failure) (line : String)
  /-- A line given to the shell command could not be run. -/
  | shellRefused (cause : Failure) (line : String)
  | spawning (program : String) (line : String)
  | childFinished (code : Int)
  deriving DecidableEq, Repr

namespace Event

def level : Event → Level
  | .commandFailed .. | .errorLineLost _ | .readFailed _ => .error
  | .homeSkipped _ | .recorded .. | .unexpected _ => .warn
  | .starting _ | .restarted _ => .info
  | _ => .debug

/-- The part of the program that an event comes from. -/
def source : Event → String
  | .starting _ => "yash"
  | .launching _ | .homeSkipped _ | .startRefused .. => "yash::cli"
  | .recorded .. => "yash::command"
  | .pathRefused .. | .homeRefused .. | .cwdUnreadable _ | .thrown .. | .shellRefused .. =>
    "yash::builtin"
  | .editFailed .. | .listingFailed .. => "yash::builtin_fs"
  | .spawning .. | .childFinished _ => "yash::external"
  | _ => "yash::interpreter"

def message : Event → String
  | .starting _ => "yash starting"
  | .launching _ => "launching"
  | .homeSkipped _ => "could not enter home directory"
  | .startRefused .. => "startup directory rejected"
  | .commandStarted .. => "builtin"
  | .commandFailed .. => "builtin failed"
  | .recorded _ _ message _ => message
  | .unexpected _ => "unexpected failure"
  | .thrown .. => "user error thrown"
  | .errorLineLost _ => "failed to write error line"
  | .dispatched _ => "dispatched"
  | .directoryChanged _ => "working directory changed"
  | .endOfInput => "end of input"
  | .readFailed _ => "failed to read input, ending session"
  | .restarted _ => "session restarted"
  | .logCleared _ => "clearing error log"
  | .pathRefused .. => "cd failed"
  | .homeRefused .. => "cd home failed"
  | .cwdUnreadable _ => "current_dir failed"
  | .editFailed .. => "file system operation failed"
  | .listingFailed .. => "listing failed"
  | .externalRefused .. => "external command failed to start"
  | .shellRefused .. => "shell command failed to start"
  | .spawning .. => "spawning"
  | .childFinished _ => "child finished"

/-- The data of an event, each under its name and in its written form. -/
def fields : Event → List (String × String)
  | .starting version => [("version", quote version)]
  | .launching invocation => [("invocation", invocation.display)]
  | .homeSkipped cause => [("error", cause.message)]
  | .startRefused cause path => [("error", cause.message), ("dir", path)]
  | .commandStarted command operands =>
    [("command", quote command), ("args", Numeral.decimal operands)]
  | .commandFailed command cause => [("command", quote command), ("error", cause.message)]
  | .recorded kind position _ item =>
    [("error", quote kind.name), ("position", Numeral.decimal position)] ++
      item.toList.map fun text => ("item", quote text)
  | .unexpected position =>
    [("error", quote Kind.unknown.name), ("position", Numeral.decimal position)]
  | .thrown name code position =>
    [("name", quote name), ("code", Numeral.decimal code.toInt),
      ("position", Numeral.decimal position)]
  | .errorLineLost cause => [("err", cause.message)]
  | .dispatched token => [("token", token.label)]
  | .directoryChanged cwd => [("cwd", cwd)]
  | .endOfInput => []
  | .readFailed cause => [("error", cause.message)]
  | .restarted code => [("code", Numeral.decimal code.toInt)]
  | .logCleared records => [("records", Numeral.decimal records)]
  | .pathRefused cause path => [("err", cause.message), ("path", quote path)]
  | .homeRefused cause home => [("err", cause.message), ("home", home)]
  | .cwdUnreadable cause => [("err", cause.message)]
  | .editFailed cause path edit =>
    [("err", cause.message), ("path", quote path), ("op", edit.label)]
  | .listingFailed cause path => [("err", cause.message), ("path", path)]
  | .externalRefused cause line => [("err", cause.message), ("line", line)]
  | .shellRefused cause line => [("err", cause.message), ("line", line)]
  | .spawning program line => [("shell", program), ("command_line", quote line)]
  | .childFinished code => [("code", Numeral.decimal code)]

/-- The names of the data that events of this kind may have, their message among them. -/
def fieldNames (event : Event) : List String :=
  match event with
  | .recorded .. => ["message", "error", "position", "item"]
  | _ => "message" :: event.fields.map Prod.fst

/-- An event on one line of the log. -/
def line (event : Event) : String :=
  let data := event.fields.map fun field => field.1 ++ "=" ++ field.2
  event.level.label ++ " " ++ event.source ++ ": " ++ " ".intercalate (event.message :: data)

end Event
end LineShell
