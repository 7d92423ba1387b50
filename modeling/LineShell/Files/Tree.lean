import LineShell.Calendar
import LineShell.Text.Octets
import LineShell.Text.Runs

/-!
# Trees of files

A tree says what is where.  A location is a list of names from the innermost to the root, so that
the directory around a location is its tail.  The root is a directory in every tree and has no
entry.
-/

namespace LineShell

/-- Names from the innermost to the outermost; the root is the empty list. -/
abbrev Location := List String

/-- When something was last changed and last read. -/
structure Stamps where
  changed : Moment := Moment.present
  read : Moment := Moment.present
  deriving DecidableEq, Repr

/-- What its owner may do with a file or a directory. -/
inductive Right where
  | read
  | write
  /-- Run a file, or look for names in a directory. -/
  | pass
  deriving DecidableEq, Repr

/-- The bit of a mode that grants a right to the owner. -/
def Right.bit : Right → Nat
  | .read => 0o400
  | .write => 0o200
  | .pass => 0o100

/-- A regular file. -/
structure File where
  content : Octets := ""
  /-- Who may read, write and run it: three bits each for the owner, the group and all others. -/
  mode : Nat := 0o644
  /-- Zero, or a number that all names of the same file share. -/
  twin : Nat := 0
  stamps : Stamps := {}
  deriving DecidableEq, Repr

/-- What a directory has beside its names.  When it was last changed and read is no part of the
tree. -/
structure Folder where
  mode : Nat := 0o755
  deriving DecidableEq, Repr

/-- Something that is no store of bytes. -/
inductive Device where
  /-- Takes what is written and holds nothing. -/
  | null
  /-- Gives zeros without end. -/
  | zero
  /-- Has room for nothing. -/
  | full
  deriving DecidableEq, Repr

/-- What may stand at a location. -/
inductive Node where
  | directory (folder : Folder)
  | file (file : File)
  /-- A symbolic link, whose target is any text. -/
  | link (target : String)
  | device (device : Device)
  deriving DecidableEq, Repr

namespace Node

def isDirectory : Node → Bool
  | .directory _ => true
  | _ => false

def mode : Node → Nat
  | .directory here => here.mode
  | .file here => here.mode
  | .link _ => 0o777
  | .device _ => 0o666

def grants (node : Node) (right : Right) : Bool := node.mode &&& right.bit != 0

end Node

/-- The text of a location as an absolute path. -/
def Location.text (l : Location) : String :=
  match l with
  | [] => "/"
  | _ => String.join (l.reverse.map fun name => "/" ++ name)

structure Tree where
  /-- What stands where, each location at most once. -/
  entries : List (Location × Node) := []
  deriving DecidableEq, Repr

namespace Tree

/-- What stands at a location. -/
def find? (t : Tree) : Location → Option Node
  | [] => some (.directory {})
  | name :: parent => t.entries.lookup (name :: parent)

/-- Takes away what stands at a location, and nothing below it. -/
def erase (t : Tree) (l : Location) : Tree :=
  { entries := t.entries.filter fun entry => entry.1 != l }

/-- Puts a node at a location that is free. -/
def insert (t : Tree) (l : Location) (node : Node) : Tree :=
  { entries := (l, node) :: t.entries }

def replace (t : Tree) (l : Location) (node : Node) : Tree := (t.erase l).insert l node

/-- Changes a file under all its names. -/
def alterFile (t : Tree) (l : Location) (change : File → File) : Tree :=
  match t.find? l with
  | some (.file file) =>
    if file.twin = 0 then t.replace l (.file (change file))
    else
      { entries := t.entries.map fun entry =>
          match entry.2 with
          | .file other => if other.twin = file.twin then (entry.1, .file (change other)) else entry
          | _ => entry }
  | _ => t

def refit (t : Tree) (l : Location) (change : Folder → Folder) : Tree :=
  match l, t.find? l with
  | _ :: _, some (.directory folder) => t.replace l (.directory (change folder))
  | _, _ => t

/-- Whether the owner of what stands at a location has a right to it. -/
def permits (t : Tree) (l : Location) (right : Right) : Bool :=
  (t.find? l).all (·.grants right)

/-- The names in a directory, in no particular order. -/
def names (t : Tree) (l : Location) : List String :=
  t.entries.filterMap fun entry =>
    match entry.1 with
    | name :: parent => if parent = l then some name else none
    | [] => none

def sortedNames (t : Tree) (l : Location) : List String :=
  (t.names l).mergeSort fun a b => !(b < a)

/-- Makes a directory at a location and around it, where nothing stands. -/
def grow (t : Tree) : Location → Tree
  | [] => t
  | name :: parent =>
    let t := t.grow parent
    if (t.find? (name :: parent)).isSome then t else t.insert (name :: parent) (.directory {})

/-- Everything below a location, each with its names from the outermost on: a directory comes right
before what it holds, and neighbours are sorted by name. -/
def below (t : Tree) (l : Location) : List (List String × Node) :=
  let inside := t.entries.filterMap fun entry =>
    if l.isSuffixOf entry.1 && entry.1 != l then
      some ((entry.1.take (entry.1.length - l.length)).reverse, entry.2)
    else none
  inside.mergeSort fun a b => !(b.1 < a.1)

/-- What was put somewhere is there. -/
@[simp] theorem find?_insert_self (t : Tree) (name : String) (parent : Location) (node : Node) :
    (t.insert (name :: parent) node).find? (name :: parent) = some node := by
  simp [find?, insert]

/-- Putting something somewhere changes no other location. -/
theorem find?_insert_of_ne (t : Tree) {l k : Location} (node : Node) (h : k ≠ l) :
    (t.insert l node).find? k = t.find? k := by
  cases k with
  | nil => rfl
  | cons name parent =>
    have hb : ((name :: parent) == l) = false := by simpa using h
    simp [find?, insert, List.lookup_cons, hb]

/-- What was taken away is gone. -/
theorem find?_erase_self (t : Tree) (name : String) (parent : Location) :
    (t.erase (name :: parent)).find? (name :: parent) = none := by
  simp only [find?, erase, List.lookup_eq_none_iff, List.mem_filter]
  intro entry h
  have hne : entry.1 ≠ name :: parent := bne_iff_ne.1 h.2
  simpa using Ne.symm hne

/-- A node put at a free location and taken away again leaves no trace. -/
theorem erase_insert (t : Tree) (l : Location) (node : Node)
    (h : ∀ entry ∈ t.entries, entry.1 ≠ l) : (t.insert l node).erase l = t := by
  have hf : t.entries.filter (fun entry => entry.1 != l) = t.entries := by
    rw [List.filter_eq_self]
    intro entry hentry
    simpa using h entry hentry
  simp [erase, insert, hf]

end Tree
end LineShell
