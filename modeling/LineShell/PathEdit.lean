/-!
# Edits of one path

There are four ways to change a directory through one path: make or delete a file, make or delete a
directory.
-/

namespace LineShell

inductive PathEdit where
  | createFile
  | removeFile
  | createDir
  | removeDir
  deriving DecidableEq, Repr

namespace PathEdit

/-- What is reported of a path on which the edit worked. -/
def done : PathEdit → String
  | .createFile => "created file"
  | .removeFile => "removed file"
  | .createDir => "created directory"
  | .removeDir => "removed directory"

/-- What is reported of a path on which the edit failed. -/
def failed : PathEdit → String
  | .createFile => "failed to create file"
  | .removeFile => "failed to remove file"
  | .createDir => "failed to create directory"
  | .removeDir => "failed to remove directory"

/-- The name of an edit in the log. -/
def label : PathEdit → String
  | .createFile => "CreateFile"
  | .removeFile => "RemoveFile"
  | .createDir => "CreateDir"
  | .removeDir => "RemoveDir"

end PathEdit
end LineShell
