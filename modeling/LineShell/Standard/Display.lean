import LineShell.Text.Words
import LineShell.Command

/-!
# Writing to the user
-/

namespace LineShell
namespace Standard

variable {W : Type}

/-- The version of the program. -/
def versionNumber : String := "0.1.0"

/-- What the program says of itself. -/
def versionLines : List String :=
  ["yash v" ++ versionNumber ++ " (debug) for linux.", "developed by yash contributors."]

def version (h : Host W) : Command W where
  names := ["version", "info"]
  description := "Displays the build version and info"
  execute _ _ _ := do
    h.printAll ([""] ++ versionLines ++ [""])
    return .success

def clear (h : Host W) : Command W where
  names := ["clear", "cls"]
  description := "Clears the screen"
  execute _ _ _ := do
    .call h.clear
    return .success

/-- Writes its operands as they were cut, with single spaces between them. -/
def print (h : Host W) : Command W where
  names := ["stdout", "print"]
  usage := "[*message]"
  description := "Output to the console"
  execute _ _ operands := do
    h.print (joinWords operands)
    return .success

/-- The lines of help: a heading and a line for each command that can be run. -/
def helpLines (synopses : List Synopsis) : List String :=
  ["", "Available Commands:", ""] ++ synopses.map Synopsis.line ++ [""]

def help (h : Host W) : Command W where
  names := ["help"]
  description := "Show this list"
  execute synopses _ _ := do
    h.printAll (helpLines synopses)
    return .success

end Standard
end LineShell
