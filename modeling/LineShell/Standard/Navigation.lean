import LineShell.Command
import LineShell.Text.Numeral

/-!
# Moving between directories and looking into them

The working directory is kept by the file system, and the session remembers what the file system
last said of it.  After a change of directory the session follows; if the file system cannot name
the directory it has just entered, the session stays as it was and nobody is told.
-/

namespace LineShell
namespace Standard

variable {W : Type}

/-- Lets the session follow the file system, if that can name its working directory. -/
def follow (h : Host W) : Action W Token := do
  match ← .attempt h.currentDir with
  | .ok cwd => .modifySession fun s => { s with cwd }
  | .error _ => pure ()
  return .success

/-- Goes to a directory that was named. -/
def goTo (h : Host W) (path : String) : Action W Token := do
  match ← .attempt (h.setCurrentDir path) with
  | .ok _ => follow h
  | .error cause =>
    h.tell (.pathRefused cause path)
    h.reject .invalidArguments "invalid path" (some path)

/-- Goes home. -/
def goHome (h : Host W) : Action W Token := do
  let session ← .session
  match ← .attempt (h.setCurrentDir session.home) with
  | .ok _ => follow h
  | .error cause =>
    h.tell (.homeRefused cause session.home)
    h.reject .unknown "failed to navigate to home directory" none

def cd (h : Host W) : Command W where
  names := ["cd", "chdir", "cwd"]
  usage := "[path=HOME]"
  description := "Changes the current working directory to the provided path"
  execute _ _ operands :=
    match operands with
    | path :: _ => goTo h path
    | [] => goHome h

/-- Tells where the file system is, which the session may remember wrongly once the directory is
gone. -/
def showDirectory (h : Host W) : Action W Token := do
  match ← .attempt h.currentDir with
  | .ok cwd =>
    h.print cwd
    return .success
  | .error cause =>
    h.tell (.cwdUnreadable cause)
    h.reject .unknown "failed to get working directory" none

def gwd (h : Host W) : Command W where
  names := ["gwd"]
  description := "Get the current working directory"
  execute _ _ _ := showDirectory h

/-- The lines that show the names in a directory, each numbered from zero. -/
def listingLines (path : String) (names : List String) : List String :=
  if names.isEmpty then [labeledLine "Empty directory" path]
  else
    [labeledLine "Searching for items in directory" path, ""] ++
      names.mapIdx (fun i name => Numeral.decimal i ++ ".\t" ++ name) ++ [""]

/-- Shows a directory under the text it was named by. -/
def showListing (h : Host W) (path : String) : Action W Token := do
  match ← .attempt (h.listDir path) with
  | .ok names =>
    h.printAll (listingLines path names)
    return .success
  | .error cause =>
    h.tell (.listingFailed cause path)
    h.reject .invalidArguments "failed to list directory" (some path)

/-- The directory to list without an operand: where the file system is, or else where the session
thinks it is. -/
def defaultListing (h : Host W) : Action W String := do
  match ← .attempt h.currentDir with
  | .ok cwd => return cwd
  | .error _ => return (← .session).cwd

def ls (h : Host W) : Command W where
  names := ["ls", "listdir", "dig"]
  usage := "[path=CWD]"
  description := "List all items in a directory"
  execute _ _ operands :=
    match operands with
    | path :: _ => showListing h path
    | [] => do showListing h (← defaultListing h)

/-- A directory with names takes a header, two empty lines and a line for each name. -/
theorem length_listingLines (path : String) {names : List String} (h : names ≠ []) :
    (listingLines path names).length = names.length + 3 := by
  have he : names.isEmpty = false := by simpa using h
  simp [listingLines, he]

end Standard
end LineShell
