import LineShell.Shell.Search

/-!
# Tests of files

These are what can be asked about what a path leads to.
-/

namespace LineShell
namespace Shell
namespace FileTests

/-- Whether a path leads to a descriptor of this process that other processes read or write. -/
def isPipe (path : Octets) : Run Bool := do
  match Run.descriptorAt? path with
  | none => return false
  | some descriptor =>
    match ← Run.channel? descriptor with
    | some (_, .source _) | some (_, .sink ..) => return true
    | _ => return false

def holds (operator : String) (path : Octets) : Run Bool := do
  let links := operator = "-h" || operator = "-L"
  if operator = "-p" then return ← isPipe path
  match ← Run.nodeAt (!links) path with
  | .error _ => return false
  | .ok node =>
    match operator, node with
    | "-e", _ | "-O", _ | "-G", _ => return true
    | "-r", node => return node.grants .read
    | "-w", node => return node.grants .write
    | "-x", node => return node.grants .pass
    | "-f", .file _ => return true
    | "-d", .directory _ => return true
    | "-c", .device _ => return true
    | "-s", .directory _ => return true
    | "-s", .file file => return !file.content.isEmpty
    | "-h", .link _ | "-L", .link _ => return true
    | "-u", node => return node.mode &&& 0o4000 != 0
    | "-g", node => return node.mode &&& 0o2000 != 0
    | "-k", node => return node.mode &&& 0o1000 != 0
    | _, _ => return false

/-- What two paths lead to: a location, and the number that other names of a file share. -/
def identity (path : Octets) : Run (Option (Location × Nat)) := do
  match ← Run.spotAt true path with
  | .ok (.directory place) => return some (place.live, 0)
  | .ok (.leaf location (.file file)) => return some (location, file.twin)
  | .ok (.leaf location _) => return some (location, 0)
  | _ => return none

def areSame (a b : Octets) : Run Bool := do
  match ← identity a, ← identity b with
  | some (l, n), some (k, m) => return l = k || n != 0 && n = m
  | _, _ => return false

end FileTests
end Shell
end LineShell
