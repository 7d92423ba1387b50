import LineShell.Record
import LineShell.Token

/-!
# Sessions

A session is what the interpreter remembers between lines, the error log apart: where it is, where
home is, whose session it is, the code it would end with and the last token.
-/

namespace LineShell

structure Session where
  /-- The working directory as the file system last reported it. -/
  cwd : String
  /-- The directory that a change without an operand goes to. -/
  home : String
  /-- The name in the prompt. -/
  user : String
  /-- The code the session would end with now. -/
  code : ReturnCode := 0
  /-- The token of the last line, none at the start and after a restart. -/
  last : Option Token := none
  deriving DecidableEq, Repr

namespace Session

/-- Forgets the code and the last token, and nothing else. -/
def reset (s : Session) : Session := { s with code := 0, last := none }

/-- What is shown before a line is read. -/
def prompt (s : Session) : String := "[" ++ s.user ++ "@yash  " ++ s.cwd ++ "]$ "

/-- The session of a fresh process, from its environment and its working directory if that can be
read.  A variable that is set to the empty text counts as set. -/
def ofEnvironment (valueOf : String → Option String) (cwd : Option String) : Session :=
  let here := cwd.getD "."
  { cwd := here
    home := ((valueOf "HOME").or (valueOf "USERPROFILE")).getD here
    user := ((valueOf "USER").or (valueOf "USERNAME")).getD "user" }

end Session
end LineShell
