import LineShell.Text.Cluster

/-!
# Typed text with erasures

A terminal that cannot edit takes a line as it was typed, and a backspace in it takes back what a
reader takes for one character.  The size of each character is kept as one byte, so that of a
character of 256 bytes or more only the remainder is taken back.
-/

namespace LineShell

/-- What is left of a line that is being typed. -/
structure Typed where
  /-- What was typed and not taken back, last character first. -/
  kept : List Char := []
  /-- The sizes of the clusters that can be taken back, the last one first. -/
  sizes : List Nat := []
  deriving DecidableEq, Repr

/-- Takes characters off the front until they make up so many bytes. -/
def dropBytes : Nat → List Char → List Char
  | 0, text => text
  | _, [] => []
  | n, c :: rest => dropBytes (n - c.utf8Size) rest

namespace Typed

def backspace : Char := '\x08'

def press (t : Typed) (cluster : List Char) : Typed :=
  if cluster = [backspace] then
    match t.sizes with
    | [] => t
    | size :: sizes => { kept := dropBytes size t.kept, sizes }
  else
    { kept := cluster.reverse ++ t.kept
      sizes := cluster.foldl (fun sum c => sum + c.utf8Size) 0 % 256 :: t.sizes }

end Typed

/-- The text that is left when a line has been typed. -/
def afterErasures (line : String) : String :=
  String.ofList ((clusters line.toList).foldl Typed.press {}).kept.reverse

end LineShell
