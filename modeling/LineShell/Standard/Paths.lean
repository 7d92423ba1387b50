import LineShell.Standard.Control

/-!
# Making and deleting files and directories

Each edit has a command for one path and one for many.  The command for many treats every path on
its own: a path that fails is reported, and the next one is attempted all the same.
-/

namespace LineShell
namespace Standard

variable {W : Type}

/-- Makes an edit at a path and tells how it went. -/
def editPath (h : Host W) (edit : PathEdit) (path : String) : Action W Unit := do
  match ← .attempt (h.edit edit path) with
  | .ok _ => h.printLabeled edit.done path
  | .error cause =>
    h.tell (.editFailed cause path edit)
    h.fail .invalidArguments edit.failed (some path)

/-- Makes an edit at each path in order, up to the first whose outcome cannot be told. -/
def editAll (h : Host W) (edit : PathEdit) : List String → Action W Unit
  | [] => pure ()
  | path :: rest => do
    editPath h edit path
    editAll h edit rest

/-- The names of the command for one path. -/
def singleNames : PathEdit → List String
  | .createFile => ["mk", "make"]
  | .removeFile => ["rm", "remove"]
  | .createDir => ["mkdir"]
  | .removeDir => ["rmdir"]

/-- The names of the command for many paths. -/
def batchNames : PathEdit → List String
  | .createFile => ["mks", "makes"]
  | .removeFile => ["rms", "removes"]
  | .createDir => ["mkdirs"]
  | .removeDir => ["rmdirs"]

def singleDescription : PathEdit → String
  | .createFile => "Create a file"
  | .removeFile => "Remove a file"
  | .createDir => "Create a directory"
  | .removeDir => "Remove an empty directory"

def batchDescription : PathEdit → String
  | .createFile => "Create multiple files"
  | .removeFile => "Remove multiple files"
  | .createDir => "Create multiple directories"
  | .removeDir => "Remove multiple empty directories"

/-- The command that edits its first operand and looks at no other. -/
def single (h : Host W) (edit : PathEdit) : Command W where
  names := singleNames edit
  usage := "<path>"
  description := singleDescription edit
  execute _ _ operands :=
    match operands with
    | [] => rejectMissing h
    | path :: _ => do
      editPath h edit path
      return .success

/-- The command that edits all of its operands. -/
def batch (h : Host W) (edit : PathEdit) : Command W where
  names := batchNames edit
  usage := "<*paths>"
  description := batchDescription edit
  execute _ _ operands :=
    match operands with
    | [] => rejectMissing h
    | paths => do
      editAll h edit paths
      return .success

end Standard
end LineShell
