import LineShell.Shell.Utility.Inputs
import LineShell.Shell.Utility.Quantity

/-!
# Programs that mind columns

`fold` breaks lines that are too wide.  `expand` makes blanks of tabs, and `unexpand` makes tabs of
blanks.  A tab leads to the next of the stops, a backspace one column back.
-/

namespace LineShell
namespace Shell
namespace Folding

/-! ## Lines of some width -/

def columnAfter (bytesOnly : Bool) (column : Nat) (c : Char) : Nat :=
  if bytesOnly then column + 1
  else
    match c with
    | '\x08' => column - 1
    | '\r' => 0
    | '\t' => column + 8 - column % 8
    | _ => column + 1

structure Breaking where
  width : Nat
  atBlanks : Bool
  bytesOnly : Bool

/-- Adds a byte to the line that is being filled, whose bytes are given the last one first.  The
answer is what is written before it, in reverse, and the line and its column. -/
def Breaking.add (b : Breaking) (c : Char) :
    Nat → List Char → Nat → List Char × List Char × Nat
  | 0, line, column => ([], c :: line, column)
  | fuel + 1, line, column =>
    let next := columnAfter b.bytesOnly column c
    if next ≤ b.width then ([], c :: line, next)
    else
      let tail := line.takeWhile fun c => c != ' ' && c != '\t'
      if b.atBlanks && tail.length < line.length then
        let head := line.drop tail.length
        let column := tail.foldr (fun c column => columnAfter b.bytesOnly column c) 0
        let (out, line, column) := b.add c fuel tail column
        (out ++ '\n' :: head, line, column)
      else if line.isEmpty then ([], [c], next)
      else
        let (out, rest, column) := b.add c fuel [] 0
        (out ++ '\n' :: line, rest, column)

def Breaking.text (b : Breaking) (octets : List Char) : List Char :=
  let (done, line, _) := octets.foldl (fun (done, line, column) c =>
    if c = '\n' then ('\n' :: line ++ done, [], 0)
    else
      let (out, line, column) := b.add c (line.length + 2) line column
      (out ++ done, line, column)) (([] : List Char), ([] : List Char), 0)
  (line ++ done).reverse

/-- The digits, which may start a number as options of their own. -/
def digitShapes : OptionShapes := "0123456789".toList.map fun c => ⟨c, "", .maybe⟩

def numbersOf (letter : Char) (given : Given) : List Octets :=
  given.options.filterMap fun option =>
    if option.1 = letter then option.2
    else if option.1.isDigit then some (String.singleton option.1 ++ option.2.getD "")
    else none

def fold : Tool := fun _ name words =>
  Tool.withOptions ([⟨'w', "width", .yes⟩, ⟨'s', "spaces", .no⟩, ⟨'b', "bytes", .no⟩] ++
      digitShapes) 1 name words fun given => do
    let read ← (numbersOf 'w' given).mapM
      (Tool.amount name "invalid number of columns" "" 1 (Quantity.limit - 10))
    if !read.all Option.isSome then return 1
    let width := ((read.filterMap id).getLast?).getD 80
    let b : Breaking := { width, atBlanks := given.has 's', bytesOnly := given.has 'b' }
    Tool.each (Tool.inputs given) fun path => do
      match ← Tool.inputOrComplain name path with
      | none => return false
      | some octets =>
        Run.emit (String.ofList (b.text octets))
        return true

/-! ## Tabs -/

/-- Where tabs lead to: some stops, and behind the last one equal steps, counted from the start of
the line or from the last stop. -/
structure Stops where
  listed : List Nat := []
  step : Option Nat := none
  fromLast : Bool := false

/-- The next stop; none behind the last one. -/
def Stops.next (s : Stops) (column : Nat) : Option Nat :=
  match s.listed.find? fun stop => column < stop with
  | some stop => some stop
  | none => s.step.map fun step =>
      let start := if s.fromLast then s.listed.getLastD 0 else 0
      column + step - (column - start) % step

/-- The part of a list of stops that was read. -/
structure StopsRead where
  listed : List Nat := []
  extend : Option Nat := none
  increment : Option Nat := none

def StopsRead.add (r : StopsRead) (text : List Char) : Except Octets StopsRead :=
  let mark := text.head?
  let body := if mark = some '/' || mark = some '+' then text.tail else text
  match Numeral.natural? body with
  | none =>
    let bad := body.dropWhile Char.isDigit
    .error ("tab size contains invalid character(s): " ++ Quoting.plain (String.ofList bad))
  | some n =>
    if mark = some '/' then .ok { r with extend := some n }
    else if mark = some '+' then .ok { r with increment := some n }
    else .ok { r with listed := r.listed ++ [n] }

def stopsOf (lists : List Octets) : Except Octets Stops := do
  let parts := lists.flatMap fun list =>
    ((list.map fun c => if c = ' ' || c = '\t' then ',' else c).splitOn ",").filter (· != "")
  let r ← parts.foldlM (fun r part => r.add part.toList) ({} : StopsRead)
  if r.listed.contains 0 then throw "tab size cannot be 0"
  if !(r.listed.zip r.listed.tail).all fun (a, b) => a < b then
    throw "tab sizes must be ascending"
  if r.extend.isSome && r.increment.isSome then
    throw "'/' specifier is mutually exclusive with '+'"
  let step? := fun (n : Option Nat) => n.filter (0 < ·)
  match r.listed, step? r.extend, step? r.increment with
  | [], some n, _ | [], none, some n => return { step := some n }
  | [], none, none => return { step := some 8 }
  | [n], none, none => return { step := some n }
  | listed, some n, _ => return { listed, step := some n }
  | listed, none, some n => return { listed, step := some n, fromLast := true }
  | listed, none, none => return { listed }

def expandLine (s : Stops) (all : Bool) (line : List Char) : List Char :=
  (line.foldl (fun (done, column, converts) c =>
    if !converts then (c :: done, column, false)
    else
      let goesOn := all || c = ' ' || c = '\t'
      match c with
      | '\t' =>
        let next := (s.next column).getD (column + 1)
        (List.replicate (next - column) ' ' ++ done, next, goesOn)
      | '\x08' => (c :: done, column - 1, goesOn)
      | _ => (c :: done, column + 1, goesOn)) (([] : List Char), 0, true)).1.reverse

/-- What is known within a line whose blanks become tabs. -/
structure Tabbing where
  done : List Char := []
  column : Nat := 0
  converts : Bool := true
  /-- Whether a single blank stands right before a stop. -/
  single : Bool := false
  afterBlank : Bool := true
  /-- The blanks that may become a tab. -/
  pending : List Char := []

def Tabbing.put (t : Tabbing) (all blank : Bool) (c : Char) : Tabbing :=
  let pending := if 1 < t.pending.length && t.single then '\t' :: t.pending.tail else t.pending
  { t with
    done := c :: (pending.reverse ++ t.done), pending := [], afterBlank := blank
    single := t.single && t.pending.isEmpty
    converts := t.converts && (all || blank) }

def Tabbing.add (s : Stops) (all : Bool) (t : Tabbing) (c : Char) : Tabbing :=
  if !t.converts then { t with done := c :: t.done }
  else if c = '\t' || c = ' ' then
    match s.next t.column with
    | none => ({ t with converts := false }).put all true c
    | some next =>
      if c = '\t' then
        let pending := if t.pending.isEmpty then [] else '\t' :: t.pending.tail
        let kept := pending.take (if t.single then 1 else 0)
        ({ t with column := next, pending := kept }).put all true c
      else
        let column := t.column + 1
        if t.afterBlank && column = next then
          let kept := if t.single then ['\t'] else []
          ({ t with column, pending := kept }).put all true '\t'
        else
          { t with
            column, single := t.single || column = next, pending := t.pending ++ [c]
            afterBlank := true }
  else if c = '\x08' then ({ t with column := t.column - 1 }).put all false c
  else ({ t with column := t.column + 1 }).put all false c

def unexpandLine (s : Stops) (all : Bool) (line : List Char) : List Char :=
  let t := line.foldl (Tabbing.add s all) {}
  let pending := if 1 < t.pending.length && t.single then '\t' :: t.pending.tail else t.pending
  (pending.reverse ++ t.done).reverse

def byStops (shapes : OptionShapes) (change : Given → Stops → List Char → List Char) : Tool :=
  fun _ name words =>
    Tool.withOptions (shapes ++ digitShapes) 1 name words fun given => do
      match stopsOf (numbersOf 't' given) with
      | .error text =>
        Tool.complain name text
        return 1
      | .ok stops =>
        Tool.each (Tool.inputs given) fun path => do
          match ← Tool.inputOrComplain name path with
          | none => return false
          | some octets =>
            let ended := octets.getLast? = some '\n'
            let text := Tool.unlines ((Tool.lines octets).map (change given stops))
            Run.emit (if ended || octets.isEmpty then text else (text.dropEnd 1).toString)
            return true

def expand : Tool :=
  byStops [⟨'i', "initial", .no⟩, ⟨'t', "tabs", .yes⟩] fun given stops line =>
    expandLine stops (!given.has 'i') line

def unexpand : Tool :=
  byStops [⟨'a', "all", .no⟩, ⟨'\x10', "first-only", .no⟩, ⟨'t', "tabs", .yes⟩]
    fun given stops line =>
      unexpandLine stops ((given.has 'a' || given.has 't') && !given.has '\x10') line

end Folding
end Shell
end LineShell
