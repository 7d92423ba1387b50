/-!
# Control tokens

Running a line ends in a token, which tells the loop how to go on.
-/

namespace LineShell

/-- What a line asks of the loop. -/
inductive Token where
  /-- The command ran, well or not: go on. -/
  | success
  /-- The line had no words: go on. -/
  | blank
  /-- Leave with the session's code. -/
  | leave
  /-- Leave with a code that was just set. -/
  | leaveWith
  /-- Forget the session's code and go on. -/
  | restart
  deriving DecidableEq, Repr

namespace Token

/-- Whether a token ends the loop. -/
def isTerminal : Token → Bool
  | .leave | .leaveWith => true
  | .success | .blank | .restart => false

/-- The name under which a token is reported. -/
def label : Token → String
  | .success => "Success"
  | .blank => "Blank"
  | .leave => "Exit"
  | .leaveWith => "Return"
  | .restart => "Restart"

theorem isTerminal_iff (token : Token) :
    token.isTerminal = true ↔ token = .leave ∨ token = .leaveWith := by
  cases token <;> simp [isTerminal]

end Token
end LineShell
