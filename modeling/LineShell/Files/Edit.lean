import LineShell.Files.Walk

/-!
# Editing a tree through a path

Each operation looks at what the path leads to and either refuses, or makes the one change that its
name promises.  A path whose last name is `.` or `..`, or that is the root, cannot be made or taken
away; its directory is still walked to first, so that a fault on the way there comes first.
-/

namespace LineShell
namespace Tree

/-- Refuses a path that does not end in a proper name. -/
def refuseLast (t : Tree) (p : Place) (path : Path) (fault : Fault) : Except Fault Tree := do
  let _ ← t.directoryAt p path.parent
  .error fault

def place (t : Tree) (p : Place) (name : String) (node : Node) : Except Fault Tree :=
  if !p.exists? then .error .notFound
  else if !t.permits p.live .write then .error .noAccess
  else .ok (t.insert (name :: p.live) node)

/-- Refuses to take a name out of a directory that must not be written. -/
def guardName (t : Tree) (l : Location) : Except Fault Unit :=
  if t.permits l.tail .write then .ok () else .error .noAccess

/-- Follows the links that a path ends at, so many at most: the place and the path that the last of
them gives.  A path that asks for a directory is not followed any further. -/
def pastLinks (t : Tree) : Nat → Place → Path → Place × Path
  | 0, p, path => (p, path)
  | links + 1, p, path =>
    match path.last, path.slash, t.spot p path with
    | .name _, false, .ok (.leaf location (.link target)) =>
      t.pastLinks links { live := location.tail } (Path.ofString target)
    | _, _, _ => (p, path)

/-- Makes an empty file, or finds one that is there.  A last link is followed, so the file may be
made at its target; but neither the path nor the target may ask for a directory. -/
def createFile (t : Tree) (p : Place) (path : Path) : Except Fault Tree :=
  let (q, target) := t.pastLinks maxLinks p path
  match target.last, target.slash with
  | .name _, false => do
    match ← t.reach p path with
    | .directory _ => .error .isDirectory
    | .leaf _ node => if node.grants .write then .ok t else .error .noAccess
    | .vacant p name => t.place p name (.file {})
  | _, _ => t.refuseLast q target .isDirectory

/-- Takes away anything but a directory.  A link is taken away itself. -/
def removeFile (t : Tree) (p : Place) (path : Path) : Except Fault Tree :=
  match path.last with
  | .name _ => do
    match ← t.spot p path with
    | .directory place =>
      t.guardName place.live
      .error .isDirectory
    | .vacant .. => .error .notFound
    | .leaf location _ =>
      if path.slash then .error .notDirectory
      else
        t.guardName location
        .ok (t.erase location)
  | _ => t.refuseLast p path .isDirectory

/-- Makes an empty directory with a mode under a free name. -/
def createDirWith (mode : Nat) (t : Tree) (p : Place) (path : Path) : Except Fault Tree :=
  match path.last with
  | .name _ => do
    match ← t.spot p path with
    | .directory _ | .leaf .. => .error .exists
    | .vacant p name => t.place p name (.directory { mode })
  | _ => t.refuseLast p path .exists

/-- Makes an empty directory under a free name, as processes do that keep others from writing. -/
def createDir : Tree → Place → Path → Except Fault Tree := createDirWith 0o755

def removeDir (t : Tree) (p : Place) (path : Path) : Except Fault Tree :=
  match path.last with
  | .name _ => do
    match ← t.spot p path with
    | .directory place =>
      t.guardName place.live
      if (t.names place.live).isEmpty then .ok (t.erase place.live) else .error .notEmpty
    | .vacant .. => .error .notFound
    | .leaf .. => .error .notDirectory
  | .root => t.refuseLast p path .busy
  | .dot => t.refuseLast p path .invalid
  | .dotDot => t.refuseLast p path .notEmpty

/-- The names in a directory, sorted.  A directory that was removed has none. -/
def listDir (t : Tree) (p : Place) (path : Path) : Except Fault (List String) := do
  let place ← t.directoryAt p path
  if !place.exists? then return []
  if !t.permits place.live .read then throw .noAccess
  return t.sortedNames place.live

end Tree
end LineShell
