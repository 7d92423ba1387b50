import LineShell.Event

/-!
# The host

The interpreter reaches the outside only through capabilities: a file system, an output, an executor
of command lines, and two that cannot fail, a listener for events and a pause.  They act on a world
of any type.  A capability is a function of its operands and the world, and it may give any answer
and leave any world behind; a host that misbehaves or decides by chance is one whose world holds the
decisions.
-/

namespace LineShell

/-- A call on the host: an answer or the cause of a failure, and the world afterwards. -/
abbrev Attempt (W α : Type) := W → Except Failure α × W

/-- The operations on files and directories.  A relative path starts at the working directory. -/
structure FileSystem (W : Type) where
  createFile : String → Attempt W Unit
  removeFile : String → Attempt W Unit
  createDir : String → Attempt W Unit
  removeDir : String → Attempt W Unit
  /-- The names in a directory, sorted. -/
  listDir : String → Attempt W (List String)
  /-- The working directory. -/
  currentDir : Attempt W String
  setCurrentDir : String → Attempt W Unit

/-- What the user sees. -/
structure Output (W : Type) where
  writeLine : String → Attempt W Unit
  /-- Writes an error line, which may name an item. -/
  writeError : String → Option String → Attempt W Unit
  /-- Clears the screen. -/
  clear : Attempt W Unit

/-- Runs a command line to its end.  How the command line ended is not told. -/
structure Executor (W : Type) where
  run : String → Attempt W Unit

structure Host (W : Type) extends FileSystem W, Output W, Executor W where
  /-- Tells an event. -/
  note : Event → W → W
  /-- Waits for a number of seconds. -/
  pause : Nat → W → W

/-- The operation that makes an edit. -/
def FileSystem.edit {W : Type} (fs : FileSystem W) : PathEdit → String → Attempt W Unit
  | .createFile => fs.createFile
  | .removeFile => fs.removeFile
  | .createDir => fs.createDir
  | .removeDir => fs.removeDir

/-- An error line as every output shows it. -/
def errorLine (message : String) (item : Option String) : String :=
  match item with
  | some text => "error: " ++ message ++ ": " ++ text
  | none => "error: " ++ message

/-- A labelled value as every output shows it. -/
def labeledLine (label value : String) : String := label ++ ": " ++ value

/-! ## Capabilities of a part of the world -/

/-- A world inside another one. -/
structure Part (V W : Type) where
  get : V → W
  set : W → V → V

variable {V W α : Type}

/-- A call on a part leaves the rest of the world alone. -/
def Attempt.within (part : Part V W) (call : Attempt W α) : Attempt V α := fun v =>
  let (answer, w) := call (part.get v)
  (answer, part.set w v)

/-- A call that always fails and does nothing. -/
def Attempt.refuse (cause : Failure) : Attempt W α := fun w => (.error cause, w)

def FileSystem.within (part : Part V W) (fs : FileSystem W) : FileSystem V where
  createFile path := Attempt.within part (fs.createFile path)
  removeFile path := Attempt.within part (fs.removeFile path)
  createDir path := Attempt.within part (fs.createDir path)
  removeDir path := Attempt.within part (fs.removeDir path)
  listDir path := Attempt.within part (fs.listDir path)
  currentDir := Attempt.within part fs.currentDir
  setCurrentDir path := Attempt.within part (fs.setCurrentDir path)

def Output.within (part : Part V W) (out : Output W) : Output V where
  writeLine text := Attempt.within part (out.writeLine text)
  writeError message item := Attempt.within part (out.writeError message item)
  clear := Attempt.within part out.clear

def Executor.within (part : Part V W) (exec : Executor W) : Executor V where
  run line := Attempt.within part (exec.run line)

end LineShell
