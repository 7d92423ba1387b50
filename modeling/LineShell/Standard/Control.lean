import LineShell.Command
import LineShell.Text.Numeral

/-!
# Steering the session

These commands tell the loop how to go on.  Leaving with a code stores the code first, so that the
loop, the process and a run of a single command all read it from the session.
-/

namespace LineShell
namespace Standard

variable {W : Type}

/-- Refuses an operand that should be an integer. -/
def rejectInteger (h : Host W) (text : String) : Action W Token :=
  h.reject .invalidData "invalid integer" (some text)

/-- Refuses a command that lacks an operand. -/
def rejectMissing (h : Host W) : Action W Token :=
  h.reject .insufficientArguments "insufficient arguments" none

def exit : Command W where
  names := ["exit", "quit", "q"]
  description := "Exit yash"
  execute _ _ _ := return .leave

/-- Leaves with the code in the first operand. -/
def leaveWith (h : Host W) (text : String) : Action W Token :=
  match Numeral.code? text with
  | some code => do
    .modifySession fun s => { s with code }
    return .leaveWith
  | none => rejectInteger h text

def leave (h : Host W) : Command W where
  names := ["return"]
  usage := "[code=saved]"
  description := "Exit yash and return an exit code. Default value is the saved return status " ++
    "of the current session"
  execute _ _ operands :=
    match operands with
    | text :: _ => leaveWith h text
    | [] => return .leaveWith

def restart : Command W where
  names := ["restart"]
  description := "Reset the saved return status and continue"
  execute _ _ _ := return .restart

/-- Waits for the seconds in the operand. -/
def sleepFor (h : Host W) (text : String) : Action W Token :=
  match Numeral.seconds? text with
  | some seconds => do
    .touch (h.pause seconds)
    return .success
  | none => rejectInteger h text

def sleep (h : Host W) : Command W where
  names := ["sleep"]
  usage := "[seconds=1]"
  description := "Sleep for a certain amount of seconds"
  execute _ _ operands :=
    match operands with
    | text :: _ => sleepFor h text
    | [] => do
      .touch (h.pause 1)
      return .success

end Standard
end LineShell
