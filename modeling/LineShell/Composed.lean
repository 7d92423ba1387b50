import LineShell.Command

/-!
# Composed commands

A command can be put together from steps, each of which does one thing that commands may do.  The
steps are made in order; the first one that gives a token or fails ends the command, and a command
that runs through succeeds.
-/

namespace LineShell

inductive Step where
  | line (text : String)
  | labeled (label value : String)
  | clear
  /-- Writes the words of the line, its name among them, with bars between them. -/
  | words
  /-- Records a failure and tells the user of it. -/
  | fail (kind : Kind) (message : String) (item : Option String)
  | run (text : String)
  | code (value : ReturnCode)
  | push (r : Record)
  | token (t : Token)
  | breakOff (cause : Failure)
  deriving DecidableEq, Repr

namespace Step

variable {W : Type}

/-- Makes a step; a token ends the command. -/
def perform (h : Host W) (words : List String) : Step → Action W (Option Token)
  | .line text => do
    h.print text
    return none
  | .labeled label value => do
    h.printLabeled label value
    return none
  | .clear => do
    .call h.clear
    return none
  | .words => do
    h.print ("|".intercalate words)
    return none
  | .fail kind message item => do
    h.fail kind message item
    return none
  | .run text => do
    .call (h.run text)
    return none
  | .code value => do
    .modifySession fun s => { s with code := value }
    return none
  | .push r => do
    let _ ← .push r
    return none
  | .token t => return some t
  | .breakOff cause => .abort cause

/-- Makes steps up to the first that gives a token. -/
def performAll (h : Host W) (words : List String) : List Step → Action W Token
  | [] => return .success
  | step :: rest => do
    match ← step.perform h words with
    | some t => return t
    | none => performAll h words rest

/-- The command that makes steps. -/
def command (h : Host W) (synopsis : Synopsis) (steps : List Step) : Command W where
  toSynopsis := synopsis
  execute _ name operands := performAll h (name :: operands) steps

end Step
end LineShell
