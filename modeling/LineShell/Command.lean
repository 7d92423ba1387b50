import LineShell.Action

/-!
# Commands

A command answers to its names and acts when one of them is typed.  It sees the name as it was
typed, its operands, and the synopses of the commands that can be run.
-/

namespace LineShell

/-- What help shows of a command. -/
structure Synopsis where
  /-- Every name the command answers to, its own name first. -/
  names : List String
  /-- How the operands are written, empty if there are none. -/
  usage : String := ""
  description : String := ""
  deriving DecidableEq, Repr

/-- The line of help for a command. -/
def Synopsis.line (s : Synopsis) : String :=
  let names := ", ".intercalate s.names
  let operands := if s.usage = "" then "" else " " ++ s.usage
  " " ++ names ++ operands ++ "\t: " ++ s.description

structure Command (W : Type) extends Synopsis where
  /-- What the command does, given the synopses of all commands, the name that was typed, and the
  operands.  It fails only if the host's output does, or as it chooses itself. -/
  execute : List Synopsis → String → List String → Action W Token

end LineShell
