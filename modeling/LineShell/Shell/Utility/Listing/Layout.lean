import LineShell.Shell.Utility.Listing.Naming

/-!
# Layouts of listings

Names stand below each other, in as many columns as fit, or behind each other.  What lies between
two columns are tabs where they help, and blanks.
-/

namespace LineShell
namespace Shell
namespace Listing

/-- A cell: what is written, and how many columns that takes. -/
abbrev Cell := List Span × Nat

def gap : Nat := 2

def leastWidth : Nat := 3

/-- Moves from one column to another, by tabs of some width where they help. -/
def indent (tab : Nat) : Nat → Nat → Nat → List Char
  | 0, _, _ => []
  | fuel + 1, from_, to_ =>
    if to_ ≤ from_ then []
    else if tab != 0 && (from_ + 1) / tab < to_ / tab then
      '\t' :: indent tab fuel (from_ + tab - from_ % tab) to_
    else ' ' :: indent tab fuel (from_ + 1) to_

def columnOf (down : Bool) (count columns place : Nat) : Nat :=
  if down then place / ((count + columns - 1) / columns) else place % columns

def widths (down : Bool) (lengths : List Nat) (count : Nat) : List Nat :=
  let placed := lengths.zip (List.range lengths.length)
  (List.range count).map fun column =>
    placed.foldl (fun widest (length, place) =>
      if columnOf down lengths.length count place = column then
        max widest (length + if column + 1 = count then 0 else gap)
      else widest) leastWidth

def fittingColumns (down : Bool) (lengths : List Nat) (width : Nat) : Nat → Nat
  | 0 | 1 => 1
  | n + 1 =>
    if (widths down lengths (n + 1)).foldl (· + ·) 0 < width then n + 1
    else fittingColumns down lengths width n

/-- Writes one row of a table: cells at the places of their columns. -/
def row (tab : Nat) (positions : List Nat) (cells : List Cell) : List Span :=
  let (spans, _) := (cells.zip positions).foldl (fun (spans, at_) ((cell, length), position) =>
    let gap : Span := { text := String.ofList (indent tab (position + 1) at_ position) }
    (spans ++ gap :: cell, position + length)) (([] : List Span), 0)
  spans

def every {α : Type} (n : Nat) : Nat → List α → List α
  | 0, _ | _, [] => []
  | fuel + 1, x :: rest => x :: every n fuel (rest.drop (n - 1))

def table (down : Bool) (tab width : Nat) (cells : List Cell) : List (List Span) :=
  let lengths := cells.map (·.2)
  let most := max 1 (min cells.length ((width + leastWidth - 1) / leastWidth))
  let count := fittingColumns down lengths width most
  let all := widths down lengths count
  let positions := (List.range count).map fun n => (all.take n).foldl (· + ·) 0
  let rows := (cells.length + count - 1) / count
  (List.range rows).map fun n =>
    row tab positions (if down then every rows cells.length (cells.drop n)
      else (cells.drop (n * count)).take count)

/-- Puts cells behind each other with a separator, and breaks lines that would be too long.  A
width of zero is without a limit. -/
def sequence (separator : String) (stop : String) (width : Nat) (cells : List Cell) : List Span :=
  let (spans, _, _) := cells.foldl (fun (spans, at_, first) (cell, length) =>
    if first then (spans ++ cell, length, false)
    else if width = 0 || at_ + length + 2 < width then
      (spans ++ { text := separator ++ " " } :: cell, at_ + length + 2, false)
    else (spans ++ { text := separator ++ stop } :: cell, length, false))
    (([] : List Span), 0, true)
  spans

/-! ## Columns of long lines -/

/-- A cell of a long line: its text, and whether it stands at the right. -/
abbrev Field := Bool × String

def align (rows : List (List Field)) : List String :=
  let width := fun n : Nat =>
    rows.foldl (fun widest row => max widest ((row[n]?.map (·.2.length)).getD 0)) 0
  rows.map fun row =>
    " ".intercalate (row.zipIdx.map fun ((right, text), n) =>
      let gap := String.ofList (List.replicate (width n - text.length) ' ')
      if right then gap ++ text else text ++ gap)

end Listing
end Shell
end LineShell
