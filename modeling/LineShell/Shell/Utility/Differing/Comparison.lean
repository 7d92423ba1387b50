import LineShell.Calendar
import LineShell.Difference
import LineShell.Shell.Number
import LineShell.Shell.Utility.Inputs
import LineShell.Shell.Utility.Regex
import Std.Data.HashMap

/-!
# Comparing the lines of two files

Lines are put into classes, where lines of one class count as the same.  What both files begin or
end with is left aside, except for some lines that give changes room to move.
-/

namespace LineShell
namespace Shell
namespace Differing

/-- What does not count of blanks in lines; each member of the list includes those before it, as far
as they are about the end of a line. -/
inductive Blanks where
  | count
  | tabs
  | trailing
  | tabsAndTrailing
  /-- How many there are. -/
  | amount
  | all
  deriving DecidableEq, Repr

def Blanks.rank : Blanks → Nat
  | .count => 0
  | .tabs => 1
  | .trailing => 2
  | .tabsAndTrailing => 3
  | .amount => 4
  | .all => 5

inductive Style where
  | normal
  | context
  | unified
  | script
  /-- A script whose places are those of the old file, from the beginning on. -/
  | forward
  | counted
  | columns
  deriving DecidableEq, Repr

/-- Whether a style can tell that the last line has no end. -/
def Style.tellsEnd : Style → Bool
  | .script | .forward => false
  | _ => true

/-- What the program is asked for. -/
structure Manner where
  name : Octets
  style : Style := .normal
  context : Nat := 0
  horizon : Nat := 0
  thorough : Bool := false
  folds : Bool := false
  blanks : Blanks := .count
  ignoresEmpty : Bool := false
  ignored : List Regex := []
  stripsReturns : Bool := false
  texts : Bool := false
  labels : List Octets := []
  expands : Bool := false
  initialTab : Bool := false
  tab : Nat := 8
  width : Nat := 130
  leftColumn : Bool := false
  skipsCommon : Bool := false
  bareEmpty : Bool := false
  heading : Option Regex := none
  brief : Bool := false
  tellsSame : Bool := false
  recursive : Bool := false
  newFile : Bool := false
  newFirst : Bool := false
  follows : Bool := true
  excluded : List Octets := []
  firstName : Option Octets := none
  /-- The options as they were written. -/
  options : Octets := ""

/-- A file that is compared: its name, when it was changed, and its lines with their ends. -/
structure Side where
  name : Octets
  stamp : Moment
  lines : Array (List Char)

def isComplete (line : List Char) : Bool := line.getLast? = some '\n'

def linesOf (octets : List Char) : Array (List Char) :=
  let lines := (Tool.lines octets).toArray
  let whole := octets.getLast? = some '\n' || octets.isEmpty
  let last := lines.size - 1
  lines.mapIdx fun i line => if i < last || whole then line ++ ['\n'] else line

def lacksEnd (lines : Array (List Char)) : Bool := lines.back?.any fun line => !isComplete line

def expandTabs (tab : Nat) : Nat → List Char → List Char
  | _, [] => []
  | column, '\t' :: rest =>
    let gap := tab - column % tab
    List.replicate gap ' ' ++ expandTabs tab (column + gap) rest
  | column, c :: rest => c :: expandTabs tab (column + 1) rest

def squeeze : List Char → List Char
  | [] => []
  | c :: rest =>
    let after := squeeze rest
    if isSpace c then if after.head? = some ' ' then after else ' ' :: after
    else c :: after

def trimEnd (line : List Char) : List Char := (line.reverse.dropWhile isSpace).reverse

/-- What counts of a line without its end. -/
def Manner.essence (m : Manner) (line : List Char) : List Char :=
  let line := if m.folds then line.map Char.toLower else line
  match m.blanks with
  | .count => line
  | .tabs => expandTabs m.tab 0 line
  | .trailing => trimEnd line
  | .tabsAndTrailing => trimEnd (expandTabs m.tab 0 line)
  | .amount => squeeze (trimEnd line)
  | .all => line.filter (!isSpace ·)

def Manner.key (m : Manner) (line : List Char) : Octets :=
  let body := if isComplete line then line.dropLast else line
  let open_ := !isComplete line && m.style.tellsEnd && m.blanks.rank < Blanks.trailing.rank
  String.ofList (m.essence body ++ if open_ then [] else ['\n'])

/-- A change, and whether it does not count. -/
structure Edit extends Difference.Change where
  ignored : Bool := false
  deriving Inhabited

/-- How many members two lists have in common from the beginning on. -/
def commonFront : List (List Char) → List (List Char) → Nat
  | a :: as, b :: bs => if a = b then commonFront as bs + 1 else 0
  | _, _ => 0

/-- The number of each line's class, and the classes so far. -/
def classify (m : Manner) (lines : List (List Char)) (known : Std.HashMap String Nat) :
    Array Nat × Std.HashMap String Nat :=
  lines.foldl (fun (row, known) line =>
    let key := m.key line
    match known[key]? with
    | some n => (row.push n, known)
    | none => (row.push known.size, known.insert key known.size)) (#[], known)

def Manner.changes (m : Manner) (x y : Array (List Char)) : List Difference.Change :=
  let whole := fun (line : List Char) =>
    if m.style.tellsEnd || isComplete line then line else line ++ ['\n']
  let a := x.toList.map whole
  let b := y.toList.map whole
  let before := commonFront a b - m.horizon
  let a := a.drop before
  let b := b.drop before
  let after := if m.style.tellsEnd && lacksEnd x != lacksEnd y then 0
    else commonFront a.reverse b.reverse - m.horizon
  let (rowX, known) := classify m (a.take (a.length - after)) {}
  let (rowY, known) := classify m (b.take (b.length - after)) known
  (Difference.changes m.thorough known.size rowX rowY).map fun c =>
    { c with line0 := c.line0 + before, line1 := c.line1 + before }

/-! ## What counts -/

def Manner.ignores (m : Manner) (line : List Char) : Bool :=
  let body := if isComplete line then line.dropLast else line
  let blank := if m.blanks.rank < Blanks.trailing.rank then body.isEmpty
    else if m.blanks.rank < Blanks.amount.rank then body.all isSpace
    else body.all isSpace
  m.ignoresEmpty && blank ||
    m.ignored.any fun re => (Regex.find? false re body.toArray 0).isSome

def slice (lines : Array (List Char)) (first count : Nat) : List (List Char) :=
  (lines.extract first (first + count)).toList

def Manner.dismisses (m : Manner) (x y : Array (List Char)) (c : Difference.Change) : Bool :=
  (m.ignoresEmpty || !m.ignored.isEmpty) &&
    (slice x c.line0 c.deleted ++ slice y c.line1 c.inserted).all m.ignores

def Manner.edits (m : Manner) (x y : Array (List Char)) : List Edit :=
  (m.changes x y).map fun c => { c with ignored := m.dismisses x y c }

/-- Groups changes that are close to each other, where changes that do not count are close only over
half the distance. -/
def group (context : Nat) : List Edit → List (List Edit)
  | [] => []
  | e :: rest =>
    match rest, group context rest with
    | next :: _, hunk :: others =>
      let reach := if e.ignored || next.ignored then context else 2 * context + 1
      if next.line0 - (e.line0 + e.deleted) < reach then (e :: hunk) :: others
      else [e] :: hunk :: others
    | _, _ => [[e]]

/-- What lines of two files a hunk is about: the first line of each and how many. -/
structure Extent where
  first0 : Nat
  count0 : Nat
  first1 : Nat
  count1 : Nat

def extentOf (hunk : List Edit) : Extent :=
  let first := hunk.headD default
  let last := hunk.getLastD default
  { first0 := first.line0, count0 := last.line0 + last.deleted - first.line0
    first1 := first.line1, count1 := last.line1 + last.inserted - first.line1 }

def Extent.widen (e : Extent) (context size0 size1 : Nat) : Extent :=
  let first0 := e.first0 - context
  let first1 := e.first1 - context
  { first0, count0 := min size0 (e.first0 + e.count0 + context) - first0
    first1, count1 := min size1 (e.first1 + e.count1 + context) - first1 }

end Differing
end Shell
end LineShell
