import LineShell.Standard.Control
import LineShell.Text.Words

/-!
# Handing a line to the host's shell
-/

namespace LineShell
namespace Standard

variable {W : Type}

/-- Runs a line on the host and tells the user if it could not be started. -/
def runLine (h : Host W) (line : String) : Action W Token := do
  match ← .attempt (h.run line) with
  | .ok _ => return .success
  | .error cause =>
    h.tell (.shellRefused cause line)
    h.reject .unknown "failed to run command" (some line)

def system (h : Host W) : Command W where
  names := ["sh", "sys", "system"]
  usage := "<*input>"
  description := "Execute a system shell command"
  execute _ _ operands :=
    match operands with
    | [] => rejectMissing h
    | words => runLine h (joinWords words)

end Standard
end LineShell
