import LineShell.Files.Edit
import LineShell.Host

/-!
# A file system in memory

Files are a tree and a working directory.  An operation that fails leaves both as they were; one
that works may remove the very directory that is worked in, and then the working directory knows
that it is gone.
-/

namespace LineShell

structure Files where
  tree : Tree
  cwd : Place
  deriving DecidableEq, Repr

namespace Files

/-- The directories that every host has, from the outermost name on. -/
def usualDirectories : List (List String) :=
  [["boot"], ["dev"], ["etc"], ["home"], ["media"], ["mnt"], ["opt"], ["proc"], ["root"], ["run"],
   ["srv"], ["sys"], ["tmp"], ["usr", "bin"], ["usr", "include"], ["usr", "lib"],
   ["usr", "local", "bin"], ["usr", "local", "sbin"], ["usr", "sbin"], ["usr", "share"],
   ["usr", "src"], ["var", "log"], ["var", "tmp"]]

/-- The links that every host has in its root, and their targets. -/
def usualLinks : List (String × String) :=
  [("bin", "usr/bin"), ("lib", "usr/lib"), ("sbin", "usr/sbin")]

def usualDevices : List (String × Device) := [("null", .null), ("zero", .zero), ("full", .full)]

/-- What the machine code of programs begins with; the name of the program follows. -/
def machineCode : String := "\x7fELF"

def usualPrograms : List String :=
  ["[", "b2sum", "base32", "base64", "basename", "basenc", "bash", "cat", "chmod", "cksum", "cmp",
   "comm", "cp", "cut", "dash", "date", "diff", "dir", "dirname", "echo", "egrep", "env", "expand",
   "expr", "factor", "false", "fgrep", "find", "fold", "grep", "head", "id", "install", "join",
   "link", "ln", "logname", "ls", "md5sum", "mkdir", "mv", "nl", "numfmt", "od", "paste",
   "printenv", "printf", "pwd", "readlink", "realpath", "rev", "rm", "rmdir", "sed", "seq", "sh",
   "sha1sum", "sha224sum", "sha256sum", "sha384sum", "sha512sum", "sleep", "sort", "sum", "sync",
   "tac", "tail", "tee", "test", "touch", "tr", "true", "truncate", "tsort", "tty", "uname",
   "unexpand", "uniq", "unlink", "vdir", "wc", "which", "whoami", "xargs", "yes"]

/-- The tree of a host on which nobody has worked. -/
def usualTree : Tree :=
  let t := usualDirectories.foldl (fun t names => t.grow names.reverse) {}
  let t := usualLinks.foldl (fun t (name, target) => t.insert [name] (.link target)) t
  let t := usualDevices.foldl (fun t (name, device) =>
    t.insert [name, "dev"] (.device device)) t
  usualPrograms.foldl (fun t name =>
    t.insert [name, "bin", "usr"] (.file { content := machineCode ++ name, mode := 0o755 })) t

/-- The usual tree with a directory to work in. -/
def fresh (l : Location) : Files := { tree := usualTree.grow l, cwd := { live := l } }

/-- Reads the text of a path as an operation takes it, without a limit on its length. -/
def readPath (text : String) : Except Failure Path :=
  if text.toList.contains '\x00' then .error .nulInPath
  else if text.isEmpty then .error (.system .notFound)
  else .ok (Path.ofString text)

/-- Reads the text of a path as most operations take it. -/
def readShortPath (text : String) : Except Failure Path :=
  if Path.lengthLimit ≤ text.utf8ByteSize && !text.toList.contains '\x00' then
    .error (.system .nameTooLong)
  else readPath text

def failing {α : Type} (answer : Except Fault α) : Except Failure α := answer.mapError .system

def withTree (files : Files) (tree : Tree) : Files :=
  { tree, cwd := tree.settle files.cwd }

def change (op : Tree → Place → Path → Except Fault Tree) (text : String) :
    Attempt Files Unit := fun files =>
  match readShortPath text >>= fun path => failing (op files.tree files.cwd path) with
  | .ok tree => (.ok (), files.withTree tree)
  | .error cause => (.error cause, files)

def list (files : Files) (text : String) : Except Failure (List String) := do
  failing (files.tree.listDir files.cwd (← readShortPath text))

/-- The text of the working directory, if it still exists. -/
def here (files : Files) : Except Failure String :=
  if files.cwd.exists? then .ok (Location.text files.cwd.live) else .error (.system .notFound)

/-- The place that a change of directory leads to.  The path is made absolute first, which fails in
a directory that is gone, and then it must not be too long. -/
def destination (files : Files) (text : String) : Except Failure Place := do
  let path ← readPath text
  if !path.absolute && !files.cwd.exists? then .error (.system .notFound)
  else
    let place ← failing (files.tree.directoryAt files.cwd path)
    if Path.lengthLimit ≤ (Location.text place.live).utf8ByteSize then
      .error (.system .nameTooLong)
    else if place.exists? && !files.tree.permits place.live .pass then .error (.system .noAccess)
    else .ok place

def enter (text : String) : Attempt Files Unit := fun files =>
  match files.destination text with
  | .ok cwd => (.ok (), { files with cwd })
  | .error cause => (.error cause, files)

def system : FileSystem Files where
  createFile := change Tree.createFile
  removeFile := change Tree.removeFile
  createDir := change Tree.createDir
  removeDir := change Tree.removeDir
  listDir text := fun files => (files.list text, files)
  currentDir := fun files => (files.here, files)
  setCurrentDir := enter

/-- A change that fails changes nothing. -/
theorem change_error {op : Tree → Place → Path → Except Fault Tree} {text : String}
    {files files' : Files} {cause : Failure}
    (h : change op text files = (.error cause, files')) : files' = files := by
  unfold change at h
  split at h
  · cases h
  · cases h
    rfl

end Files
end LineShell
