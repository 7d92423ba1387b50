import LineShell.Failure
import LineShell.Files.Path
import LineShell.Files.Tree

/-!
# Walking along a path

A path is walked name by name from a place.  On a symbolic link the walk goes on along the link's
target, and a budget of links keeps it from going round in circles; within the budget the walk is
structural in the names.

A place is a directory that somebody stands in.  It may have been removed meanwhile, together with
some directories above it; then it holds nothing and nothing can be made in it, but it still knows
what was above it.
-/

namespace LineShell

structure Place where
  /-- The innermost directory that still exists. -/
  live : Location
  /-- The names below it that were removed, from the innermost on. -/
  gone : List String := []
  deriving DecidableEq, Repr

namespace Place

def root : Place := { live := [] }

def exists? (p : Place) : Bool := p.gone.isEmpty

/-- The place above; above the root is the root. -/
def parent (p : Place) : Place :=
  match p.gone with
  | _ :: gone => { p with gone }
  | [] => { live := p.live.tail }

def enter (p : Place) (name : String) : Place := { p with live := name :: p.live }

end Place

namespace Tree

/-- What stands in a place under a name. -/
def child? (t : Tree) (p : Place) (name : String) : Option Node :=
  if p.exists? then t.find? (name :: p.live) else none

/-- Gives up what no longer exists of a live location. -/
def settleFrom (t : Tree) : Location → List String → Place
  | [], gone => { live := [], gone }
  | name :: parent, gone =>
    if (t.find? (name :: parent)).any Node.isDirectory then { live := name :: parent, gone }
    else t.settleFrom parent (gone ++ [name])

def settle (t : Tree) (p : Place) : Place := t.settleFrom p.live p.gone

inductive Spot where
  /-- At a directory. -/
  | directory (place : Place)
  /-- At something else. -/
  | leaf (location : Location) (node : Node)
  /-- At a name that nothing stands under. -/
  | vacant (place : Place) (name : String)
  deriving DecidableEq, Repr

/-- Walks along names and leaves every link to be followed to the continuation, which is given the
place of the link, its target and the names after it. -/
def walkNames (t : Tree) (follow : Bool)
    (onLink : Place → String → List String → Except Fault Spot) :
    Place → List String → Except Fault Spot
  | p, [] => .ok (.directory p)
  | p, name :: rest =>
    if p.exists? && !t.permits p.live .pass then .error .noAccess
    else if name = "." then t.walkNames follow onLink p rest
    else if name = ".." then t.walkNames follow onLink p.parent rest
    else if Path.maxName < name.utf8ByteSize then .error .nameTooLong
    else
      match t.child? p name with
      | none => if rest.isEmpty then .ok (.vacant p name) else .error .notFound
      | some (.directory _) => t.walkNames follow onLink (p.enter name) rest
      | some (.link target) =>
        if rest.isEmpty && !follow then .ok (.leaf (name :: p.live) (.link target))
        else onLink p target rest
      | some node =>
        if rest.isEmpty then .ok (.leaf (name :: p.live) node) else .error .notDirectory

def start (p : Place) (path : Path) : Place := if path.absolute then Place.root else p

/-- Walks along names with a budget of links.  A link at the very end is followed if asked for. -/
def walk (t : Tree) (follow : Bool) : Nat → Place → List String → Except Fault Spot
  | 0 => t.walkNames follow fun _ _ _ => .error .tooManyLinks
  | links + 1 => t.walkNames follow fun p target rest =>
    let path := Path.ofString target
    t.walk follow links (start p path) (path.steps ++ rest)

def maxLinks : Nat := 40

/-- Walks along a path to its end, through every link. -/
def reach (t : Tree) (p : Place) (path : Path) : Except Fault Spot :=
  t.walk true maxLinks (start p path) path.steps

/-- Walks along the names of a path, through every link but a last one. -/
def spot (t : Tree) (p : Place) (path : Path) : Except Fault Spot :=
  t.walk false maxLinks (start p path) path.names

def directoryAt (t : Tree) (p : Place) (path : Path) : Except Fault Place :=
  match t.reach p path with
  | .ok (.directory place) => .ok place
  | .ok (.leaf ..) => .error .notDirectory
  | .ok (.vacant ..) => .error .notFound
  | .error fault => .error fault

end Tree
end LineShell
