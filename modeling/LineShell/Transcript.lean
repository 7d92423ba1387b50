import LineShell.Host

/-!
# Output kept in memory

A transcript holds the lines that are on the screen.  It may be told how many more calls will work;
from then on every call fails and leaves no trace.
-/

namespace LineShell

structure Transcript where
  /-- The lines since the screen was last cleared. -/
  lines : List String := []
  /-- How often the screen was cleared. -/
  cleared : Nat := 0
  /-- How many more calls work, none if all of them do. -/
  budget : Option Nat := none
  deriving DecidableEq, Repr

namespace Transcript

/-- Makes a call that changes the transcript, as long as the budget lasts. -/
def spend (change : Transcript → Transcript) : Attempt Transcript Unit := fun t =>
  match t.budget with
  | none => (.ok (), change t)
  | some 0 => (.error .brokenPipe, t)
  | some (left + 1) => (.ok (), change { t with budget := some left })

/-- Shows one more line. -/
def showing (text : String) (t : Transcript) : Transcript := { t with lines := t.lines ++ [text] }

/-- Clears the screen. -/
def wipe (t : Transcript) : Transcript := { t with lines := [], cleared := t.cleared + 1 }

/-- The output that shows everything on a transcript. -/
def output : Output Transcript where
  writeLine text := spend (showing text)
  writeError message item := spend (showing (errorLine message item))
  clear := spend wipe

/-- Takes the lines away and counts clearings from zero again. -/
def drain (t : Transcript) : Transcript := { t with lines := [], cleared := 0 }

end Transcript
end LineShell
