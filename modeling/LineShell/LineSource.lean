import LineShell.Event

/-!
# Sources of lines

A session reads lines one by one and shows a prompt before each read, also before the one that finds
no more lines.  What comes next may depend on the world, since others may read from the same input
meanwhile; but there is an end to every source.
-/

namespace LineShell

/-- How the lines of a source come to an end. -/
inductive Ending where
  | endOfInput
  /-- The read after the last line fails. -/
  | failedRead (cause : Failure)
  deriving DecidableEq, Repr

/-- What is told when a source is at its end. -/
def Ending.event : Ending → Event
  | .endOfInput => .endOfInput
  | .failedRead cause => .readFailed cause

/-- What a source still has to give. -/
inductive Supply (W : Type) where
  | ended (ending : Ending)
  | line (text : String) (rest : Supply W)
  /-- What there is depends on the world, which is changed by looking. -/
  | ask (look : W → Supply W) (after : W → W)

namespace Supply

variable {W : Type}

/-- The supply of lines that are known beforehand. -/
def ofLines (ending : Ending) : List String → Supply W
  | [] => .ended ending
  | text :: rest => .line text (ofLines ending rest)

/-- The lines that are known to come. -/
def pending : Supply W → List String
  | .line text rest => text :: rest.pending
  | _ => []

@[simp] theorem pending_ofLines (ending : Ending) (lines : List String) :
    (ofLines ending lines : Supply W).pending = lines := by
  induction lines with
  | nil => rfl
  | cons text rest ih => simp [ofLines, pending, ih]

end Supply

/-- Where the loop reads from. -/
structure LineSource (W : Type) where
  supply : Supply W
  /-- What showing a prompt does to the world. -/
  showPrompt : String → W → W

/-- What a loop did with its source. -/
structure Reading where
  /-- The prompts that were shown, one before each read. -/
  prompts : List String
  /-- The lines that were not read. -/
  unread : List String
  deriving DecidableEq, Repr

namespace Reading

/-- What was done with a source that nobody has read from. -/
def start (lines : List String) : Reading := { prompts := [], unread := lines }

/-- Shows a prompt and reads a line, none if there are no more. -/
def read (prompt : String) (r : Reading) : Option String × Reading :=
  (r.unread.head?, { prompts := r.prompts ++ [prompt], unread := r.unread.tail })

end Reading
end LineShell
