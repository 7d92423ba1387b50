/-!
# Differences of two rows

Two rows of numbers are compared: which members have to go from the first row, and which have to
come from the second one, so that as few as possible are changed.  Two walks, one from each end,
look for a point in the middle that a shortest way passes; what is before it and what is behind it
are compared in the same way.  Runs of changes that could as well stand elsewhere are then moved
to where they meet other changes, or as far towards the end as they go.
-/

namespace LineShell
namespace Difference

/-! ## The middle of a shortest way -/

/-- Two rows. -/
structure Rows where
  x : Array Nat
  y : Array Nat

structure Box where
  xoff : Int
  xlim : Int
  yoff : Int
  ylim : Int

def Rows.agree (r : Rows) (i j : Int) : Bool := r.x.getD i.toNat 0 = r.y.getD j.toNat 0

def slideDown (r : Rows) (b : Box) : Nat → Int → Int → Int
  | 0, x, _ => x
  | fuel + 1, x, y =>
    if x < b.xlim && y < b.ylim && r.agree x y then slideDown r b fuel (x + 1) (y + 1) else x

def slideUp (r : Rows) (b : Box) : Nat → Int → Int → Int
  | 0, x, _ => x
  | fuel + 1, x, y =>
    if b.xoff < x && b.yoff < y && r.agree (x - 1) (y - 1) then slideUp r b fuel (x - 1) (y - 1)
    else x

/-- How far a walk has come on each diagonal; the diagonals are shifted so that none is negative. -/
structure Reach where
  far : Array Int
  shift : Int
  low : Int
  high : Int

def Reach.at_ (f : Reach) (d : Int) : Int := f.far.getD (d + f.shift).toNat 0

def Reach.set (f : Reach) (d x : Int) : Reach :=
  { f with far := f.far.setIfInBounds (d + f.shift).toNat x }

/-- Widens a walk by a diagonal at both ends, or narrows it at the ends of the rows. -/
def Reach.widen (f : Reach) (least most unknown : Int) : Reach :=
  let f := if least < f.low then { f.set (f.low - 2) unknown with low := f.low - 1 }
    else { f with low := f.low + 1 }
  if f.high < most then { f.set (f.high + 2) unknown with high := f.high + 1 }
  else { f with high := f.high - 1 }

/-- One more step of the walk from the beginning, on every other diagonal; the point where it meets
the other walk. -/
def stepDown (r : Rows) (b : Box) (meets : Bool) (back : Reach) (fuel : Nat) :
    Nat → Int → Reach → Reach × Option (Int × Int)
  | 0, _, f => (f, none)
  | rounds + 1, d, f =>
    if d < f.low then (f, none)
    else
      let below := f.at_ (d - 1)
      let above := f.at_ (d + 1)
      let start := if below < above then above else below + 1
      let x := slideDown r b fuel start (start - d)
      let f := f.set d x
      if meets && back.low ≤ d && d ≤ back.high && back.at_ d ≤ x then (f, some (x, x - d))
      else stepDown r b meets back fuel rounds (d - 2) f

def stepUp (r : Rows) (b : Box) (meets : Bool) (front : Reach) (fuel : Nat) :
    Nat → Int → Reach → Reach × Option (Int × Int)
  | 0, _, f => (f, none)
  | rounds + 1, d, f =>
    if d < f.low then (f, none)
    else
      let below := f.at_ (d - 1)
      let above := f.at_ (d + 1)
      let start := if below < above then below else above - 1
      let x := slideUp r b fuel start (start - d)
      let f := f.set d x
      if meets && front.low ≤ d && d ≤ front.high && x ≤ front.at_ d then (f, some (x, x - d))
      else stepUp r b meets front fuel rounds (d - 2) f

/-- Walks from both ends until the walks meet. -/
def meet (r : Rows) (b : Box) (odd : Bool) (size : Nat) : Nat → Reach → Reach → Int × Int
  | 0, _, _ => (b.xoff, b.yoff)
  | fuel + 1, front, back =>
    let least := b.xoff - b.ylim
    let most := b.xlim - b.yoff
    let front := front.widen least most (-1)
    match stepDown r b odd back size size front.high front with
    | (_, some point) => point
    | (front, none) =>
      let back := back.widen least most 0x4000000000000000
      match stepUp r b (!odd) front size size back.high back with
      | (_, some point) => point
      | (back, none) => meet r b odd size fuel front back

/-- A point in the middle of a shortest way. -/
def middle (r : Rows) (b : Box) : Int × Int :=
  let front := b.xoff - b.yoff
  let back := b.xlim - b.ylim
  let size := (r.x.size + r.y.size + 3)
  let shift : Int := r.y.size + 1
  let empty := Array.replicate (size + 2) (0 : Int)
  let start := fun d x => ({ far := empty, shift, low := d, high := d : Reach }).set d x
  meet r b ((front - back) % 2 != 0) size size (start front b.xoff) (start back b.xlim)

/-! ## Comparing -/

/-- What has to change: members of the first row that go, members of the second one that come. -/
structure Marks where
  x : Array Bool
  y : Array Bool

def markRange (marks : Array Bool) (first last : Int) : Array Bool :=
  (List.range (last - first).toNat).foldl
    (fun marks i => marks.setIfInBounds (first.toNat + i) true) marks

def compare (r : Rows) : Nat → Box → Marks → Marks
  | 0, _, m => m
  | fuel + 1, b, m =>
    let size := r.x.size + r.y.size + 1
    let x := slideDown r b size b.xoff b.yoff
    let b := { b with xoff := x, yoff := b.yoff + (x - b.xoff) }
    let x := slideUp r b size b.xlim b.ylim
    let b := { b with xlim := x, ylim := b.ylim - (b.xlim - x) }
    if b.xoff = b.xlim then { m with y := markRange m.y b.yoff b.ylim }
    else if b.yoff = b.ylim then { m with x := markRange m.x b.xoff b.xlim }
    else
      let (x, y) := middle r b
      let m := compare r fuel { b with xlim := x, ylim := y } m
      compare r fuel { b with xoff := x, yoff := y } m

/-! ## Members that are no help -/

def occurrences (classes : Nat) (row : Array Nat) : Array Nat :=
  row.foldl (fun counts n => counts.modify n (· + 1)) (Array.replicate (classes + 1) 0)

/-- About the square root of a number, doubled from a start on. -/
def doubled : Nat → Nat → Nat → Nat
  | 0, _, n => n
  | fuel + 1, size, n => if size / 4 = 0 then n else doubled fuel (size / 4) (2 * n)

/-- Why a member might be left out of the comparison. -/
inductive Help where
  | some
  /-- Nothing is the same in the other row. -/
  | none
  /-- Too much is the same in the other row. -/
  | doubtful
  deriving DecidableEq, Inhabited

/-- What help the members of a row are, given how often each occurs in the other row. -/
def helpOf (counts : Array Nat) (row : Array Nat) : Array Help :=
  let many := doubled 64 (row.size / 64) 5
  row.map fun n =>
    let matching := counts.getD n 0
    if matching = 0 then .none else if many < matching then .doubtful else .some

/-- Keeps doubtful members at the beginning of a run, or at its end if it is read backwards, up to
three members without help, or up to the first one after eight. -/
def keepEnds (run : List Help) : List Help := go 0 0 run
where
  go : Nat → Nat → List Help → List Help
    | _, _, [] => []
    | i, row, h :: rest =>
      if 8 ≤ i && h = .none then h :: rest
      else
        let row' := if h = .none then row + 1 else 0
        let h' := if h = .doubtful then Help.some else h
        if row' = 3 then h' :: rest else h' :: go (i + 1) row' rest

def keepLong (least : Nat) : Nat → List Help → List Help
  | 0, run => run
  | _, [] => []
  | fuel + 1, run =>
    let doubts := run.takeWhile (· = .doubtful)
    let n := doubts.length
    let front := if least ≤ n then List.replicate n Help.some else doubts
    match run.drop n with
    | [] => front
    | h :: rest => front ++ h :: keepLong least fuel rest

/-- Settles the doubts in a run that begins and ends with members without help. -/
def settleRun (run : List Help) : List Help :=
  let doubts := (run.filter (· = .doubtful)).length
  if run.length < 4 * doubts then run.map fun h => if h = .doubtful then .some else h
  else
    let least := doubled 64 (run.length / 4) 1 + 1
    let run := keepLong least (run.length + 1) run
    (keepEnds (keepEnds run).reverse).reverse

/-- Settles all doubts: which members are left out. -/
def settle : Nat → List Help → List Bool
  | 0, _ | _, [] => []
  | fuel + 1, h :: rest =>
    if h != .none then false :: settle fuel rest
    else
      let run := (h :: rest).takeWhile (· != .some)
      let tail := (run.reverse.takeWhile (· = .doubtful)).length
      let run := run.take (run.length - tail)
      let after := (h :: rest).drop run.length
      let kept := List.replicate tail false
      (settleRun run).map (· != .some) ++ kept ++ settle fuel (after.drop tail)

/-- Which members of a row are left out of the comparison with another one. -/
def leftOut (classes : Nat) (row other : Array Nat) : Array Bool :=
  (settle (row.size + 1) (helpOf (occurrences classes other) row).toList).toArray

/-! ## Moving changes -/

/-- Whether the member at a place is marked; there are none outside of the row. -/
def marked (marks : Array Bool) (i : Nat) : Bool := marks.getD i false

def markedBefore (marks : Array Bool) (i : Nat) : Bool := 0 < i && marked marks (i - 1)

/-- The first place from one on that is not marked. -/
def endOfRun (marks : Array Bool) : Nat → Nat → Nat
  | 0, i => i
  | fuel + 1, i => if marked marks i then endOfRun marks fuel (i + 1) else i

def startOfRun (marks : Array Bool) : Nat → Nat → Nat
  | 0, i => i
  | fuel + 1, i => if markedBefore marks i then startOfRun marks fuel (i - 1) else i

/-- A run of changes in a row, and the place in the other row that its end corresponds to. -/
structure Run where
  marks : Array Bool
  start : Nat
  stop : Nat
  place : Nat

/-- Moves a run back while the member before it is the same as its last one. -/
def Run.moveBack (row : Array Nat) (other : Array Bool) : Nat → Run → Run
  | 0, run => run
  | fuel + 1, run =>
    if 0 < run.start && row.getD (run.start - 1) 0 = row.getD (run.stop - 1) 0 then
      let marks := (run.marks.setIfInBounds (run.start - 1) true).setIfInBounds (run.stop - 1) false
      let start := startOfRun marks run.start (run.start - 1)
      let place := previous other run.place (run.place - 1)
      moveBack row other fuel { marks, start, stop := run.stop - 1, place }
    else run
where
  /-- The last place up to one that is not marked. -/
  previous (other : Array Bool) : Nat → Nat → Nat
    | 0, j => j
    | fuel + 1, j => if marked other j then previous other fuel (j - 1) else j

/-- Moves a run on while the member behind it is the same as its first one; the last end at which it
corresponds to a run in the other row is given on. -/
def Run.moveOn (row : Array Nat) (other : Array Bool) (limit : Nat) :
    Nat → Run → Nat → Run × Nat
  | 0, run, corresponding => (run, corresponding)
  | fuel + 1, run, corresponding =>
    if run.stop < limit && row.getD run.start 0 = row.getD run.stop 0 then
      let marks := (run.marks.setIfInBounds run.start false).setIfInBounds run.stop true
      let stop := endOfRun marks limit (run.stop + 1)
      let next := run.place + 1
      let place := endOfRun other other.size next
      let corresponding := if next < place then stop else corresponding
      moveOn row other limit fuel { marks, start := run.start + 1, stop, place } corresponding
    else (run, corresponding)

/-- Moves a run back and on until it does not grow any more. -/
def Run.settle (row : Array Nat) (other : Array Bool) (limit : Nat) : Nat → Run → Run × Nat
  | 0, run => (run, limit)
  | fuel + 1, run =>
    let length := run.stop - run.start
    let run := run.moveBack row other (limit + 1)
    let corresponding := if markedBefore other run.place then run.stop else limit
    let (run, corresponding) := run.moveOn row other limit (limit + 1) corresponding
    if run.stop - run.start = length then (run, corresponding)
    else Run.settle row other limit fuel run

def Run.returnTo (other : Array Bool) (corresponding : Nat) : Nat → Run → Run
  | 0, run => run
  | fuel + 1, run =>
    if corresponding < run.stop then
      let marks := (run.marks.setIfInBounds (run.start - 1) true).setIfInBounds (run.stop - 1) false
      let place := Run.moveBack.previous other run.place (run.place - 1)
      returnTo other corresponding fuel
        { marks, start := run.start - 1, stop := run.stop - 1, place }
    else run

/-- Moves all runs of a row from one place on, where a place of the other row corresponds to it. -/
def moveRuns (row : Array Nat) (other : Array Bool) : Nat → Nat → Nat → Array Bool → Array Bool
  | 0, _, _, marks => marks
  | fuel + 1, i, j, marks =>
    if row.size ≤ i then marks
    else if !marked marks i then
      moveRuns row other fuel (i + 1) (endOfRun other other.size j + 1) marks
    else
      let stop := endOfRun marks row.size (i + 1)
      let place := endOfRun other other.size j
      let run : Run := { marks, start := i, stop, place }
      let (run, corresponding) := run.settle row other row.size (row.size + 1)
      let run := run.returnTo other corresponding (row.size + 1)
      moveRuns row other fuel run.stop run.place run.marks

/-! ## Changes -/

/-- A change: so many members go at a place of the first row, and so many come at a place of the
second one. -/
structure Change where
  line0 : Nat
  line1 : Nat
  deleted : Nat
  inserted : Nat
  deriving DecidableEq, Repr, Inhabited

def changesFrom (m : Marks) : Nat → Nat → Nat → List Change
  | 0, _, _ => []
  | fuel + 1, i, j =>
    if m.x.size ≤ i && m.y.size ≤ j then []
    else
      let x := endOfRun m.x m.x.size i
      let y := endOfRun m.y m.y.size j
      if i < x || j < y then
        ⟨i, j, x - i, y - j⟩ :: changesFrom m fuel x y
      else changesFrom m fuel (i + 1) (j + 1)

/-- The members of a row that are not left out, with their places. -/
def kept (row : Array Nat) (out : Array Bool) : Array (Nat × Nat) :=
  (row.zipIdx.filter fun entry => !marked out entry.2)

/-- The changes that make the second row of the first one, where all numbers are below a bound.
Whether members that are no help are compared all the same is given. -/
def changes (thorough : Bool) (classes : Nat) (x y : Array Nat) : List Change :=
  let outX := leftOut classes x y
  let outY := leftOut classes y x
  let none_ := fun (row : Array Nat) => Array.replicate row.size false
  let keptX := kept x (if thorough then none_ x else outX)
  let keptY := kept y (if thorough then none_ y else outY)
  let r : Rows := { x := keptX.map (·.1), y := keptY.map (·.1) }
  let size := r.x.size + r.y.size + 2
  let m := compare r size { xoff := 0, xlim := r.x.size, yoff := 0, ylim := r.y.size }
    { x := none_ r.x, y := none_ r.y }
  -- Marks go back to the places in the whole rows.
  let spread := fun (row : Array Nat) (out : Array Bool) (kept : Array (Nat × Nat))
      (marks : Array Bool) =>
    let start := if thorough then none_ row else out
    kept.zipIdx.foldl (fun all (entry, i) =>
      if marked marks i then all.setIfInBounds entry.2 true else all) start
  let marksX := spread x outX keptX m.x
  let marksY := spread y outY keptY m.y
  let marksX := moveRuns x marksY (x.size + y.size + 2) 0 0 marksX
  let marksY := moveRuns y marksX (x.size + y.size + 2) 0 0 marksY
  changesFrom { x := marksX, y := marksY } (x.size + y.size + 2) 0 0

end Difference
end LineShell
