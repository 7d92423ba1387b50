import LineShell.Text.Runs

/-!
# Paths

A path is a text in which slashes separate names.  Where it starts, its names and whether a slash
follows the last name are all that counts; more slashes in a row act as one.
-/

namespace LineShell

structure Path where
  /-- Whether it starts at the root, not at the working directory. -/
  absolute : Bool
  /-- The names from the outermost on, the special names `.` and `..` among them. -/
  names : List String
  /-- Whether it ends in a slash, and so asks for a directory. -/
  slash : Bool
  deriving DecidableEq, Repr

namespace Path

def ofString (text : String) : Path :=
  let chars := text.toList
  { absolute := chars.head? == some '/'
    names := (runs (· == '/') chars).map String.ofList
    slash := chars.getLast? == some '/' }

/-- The path of the directory that the last name is looked up in. -/
def parent (p : Path) : Path := { p with names := p.names.dropLast, slash := false }

/-- The names to walk along, where a slash at the end counts as one more step within the directory
that it asks for. -/
def steps (p : Path) : List String := if p.slash then p.names ++ ["."] else p.names

/-- What the last name says. -/
inductive Last where
  /-- There is none: the path is the root or empty. -/
  | root
  /-- The directory itself. -/
  | dot
  /-- The directory above. -/
  | dotDot
  | name (name : String)
  deriving DecidableEq, Repr

def last (p : Path) : Last :=
  match p.names.getLast? with
  | none => .root
  | some "." => .dot
  | some ".." => .dotDot
  | some name => .name name

/-- The longest name, in bytes. -/
def maxName : Nat := 255

/-- The length from which on a path is refused, in bytes. -/
def lengthLimit : Nat := 4096

end Path
end LineShell
