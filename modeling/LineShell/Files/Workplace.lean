import LineShell.Files.System

/-!
# A directory that is lent

One directory serves for one job after the other.  Before a job it is cleared, and after the job
somebody reads all that was left in it.  Both can fail, as a job may take rights away from its
owner: a directory that must not be read or passed hides what is in it, and one that must not be
written keeps it.  What cannot be cleared stands in the way of every later job.
-/

namespace LineShell

structure Workplace where
  location : Location
  /-- What the last job left. -/
  tree : Tree := {}

namespace Tree

/-- Whether the owner has some rights to a directory, as far as that matters for what is in it. -/
def isOpen (t : Tree) (needed : List Right) (l : Location) : Bool :=
  t.permits l .read && ((t.names l).isEmpty || needed.all (t.permits l))

/-- Whether every node at a location and below it passes a test. -/
def allBelow (t : Tree) (l : Location) (test : Location → Node → Bool) : Bool :=
  (t.find? l).all (test l) &&
    t.entries.all fun entry => !l.isSuffixOf entry.1 || test entry.1 entry.2

def isLegible (t : Tree) (l : Location) : Bool :=
  t.allBelow l fun k node =>
    match node with
    | .directory _ => t.isOpen [.pass] k
    | .file _ => node.grants .read
    | _ => true

def isClearable (t : Tree) (l : Location) : Bool :=
  t.allBelow l fun k node => !node.isDirectory || t.isOpen [.pass, .write] k

end Tree

namespace Workplace

/-- Clears the directory for a job. -/
def lend (w : Workplace) : Except Failure Files :=
  if w.tree.isClearable w.location then .ok (Files.fresh w.location)
  else .error (.system .noAccess)

/-- Everything in the directory, each with its names from the outermost on. -/
def inventory (w : Workplace) : Except Failure (List (List String × Node)) :=
  if w.tree.isLegible w.location then .ok (w.tree.below w.location)
  else .error (.system .noAccess)

end Workplace
end LineShell
