import LineShell.Shell.Utility.Collating

/-!
# The program that joins lines with a common field

This is `join`.  Two files, each in the order of its join field, are gone through side by side.
Lines whose join fields are equal are put together, each of the first file with each of the
second.
-/

namespace LineShell
namespace Shell
namespace Joining

open Collation Collating

structure Row where
  text : Line
  fields : List Line

/-- A field to write: the join field, or one of a file. -/
inductive Column where
  | shared
  | field (second : Bool) (n : Nat)
  deriving DecidableEq, Repr

structure Plan where
  separator : Option Char := none
  /-- The places of the join fields. -/
  first : Option Nat := none
  second : Option Nat := none
  columns : List Column := []
  /-- Whether every line gets the fields that the first lines have. -/
  regular : Bool := false
  filler : Option Octets := none
  folds : Bool := false
  paired : Bool := true
  unpairedFirst : Bool := false
  unpairedSecond : Bool := false
  header : Bool := false
  watch : Vigilance := .onMismatch

namespace Plan

def key (p : Plan) (second : Bool) : Nat := ((if second then p.second else p.first)).getD 0

/-- Whether the lines of a file are written where they have no partner. -/
def keeps (p : Plan) (second : Bool) : Bool :=
  if second then p.unpairedSecond else p.unpairedFirst

def fields (p : Plan) (line : Line) : List Line :=
  if line.isEmpty then []
  else
    match p.separator with
    | some '\n' => [line]
    | some c => line.splitOn c
    | none =>
      let rest := line.dropWhile Collation.isBlank
      if rest.isEmpty then [] else blanks (rest.length + 1) rest
where
  /-- The fields between blanks; blanks at the end are followed by an empty field. -/
  blanks : Nat → Line → List Line
    | 0, _ => []
    | fuel + 1, line =>
      let field := line.takeWhile fun c => !Collation.isBlank c
      match line.drop field.length with
      | [] => [field]
      | rest => field :: blanks fuel (rest.dropWhile Collation.isBlank)

def row (p : Plan) (line : Line) : Row := ⟨line, p.fields line⟩

/-- The order of two fields, where a missing one comes first. -/
def compareFields (p : Plan) (a b : Line) : Ordering :=
  if p.folds then compareBytes (a.map Char.toUpper) (b.map Char.toUpper) else compareBytes a b

def keyOf (p : Plan) (second : Bool) (r : Row) : Line := (r.fields[p.key second]?).getD []

/-- A field as it is written. -/
def shown (p : Plan) (r : Option Row) (n : Nat) : Line :=
  match (r.bind fun r => r.fields[n]?).getD [] with
  | [] => (p.filler.getD "").toList
  | field => field

/-- The line for two lines, one of which may be missing. -/
def combine (p : Plan) (counts : Nat × Nat) (a b : Option Row) : Line :=
  let joiner := [p.separator.getD ' ']
  let shared := match a with
    | some _ => p.shown a (p.key false)
    | none => p.shown b (p.key true)
  if !p.columns.isEmpty then
    joiner.intercalate (p.columns.map fun
      | .shared => shared
      | .field false n => p.shown a n
      | .field true n => p.shown b n)
  else
    let others := fun (r : Option Row) (second : Bool) =>
      let count := if p.regular then (if second then counts.2 else counts.1)
        else (r.map fun r => r.fields.length).getD 0
      ((List.range count).filter (· != p.key second)).map (p.shown r)
    joiner.intercalate (shared :: others a false ++ others b true)

end Plan

/-- One of the files: the lines that are left, and the last line that was read. -/
structure Source where
  rest : List Line
  last : Option Row := none
  number : Nat := 0
  complained : Bool := false

structure State where
  left : Source
  right : Source
  mismatch : Bool := false
  done : List Line := []
  complaints : List (Bool × Nat × Line) := []

/-- A step; one that fails has come to a line that is out of order. -/
abbrev Step := EStateM Unit State

/-- Takes a line of a file, and complains if it is out of order. -/
def take (p : Plan) (second : Bool) : Step (Option Row) := do
  let s ← get
  let side := if second then s.right else s.left
  match side.rest with
  | [] => return none
  | line :: rest =>
    let r := p.row line
    let wanted := match p.watch with
      | .never => false
      | .onMismatch => s.mismatch
      | .always => true
    let wrong := wanted && !side.complained &&
      side.last.any fun last => p.compareFields (p.keyOf second last) (p.keyOf second r) = .gt
    let number := side.number + 1
    let side := { side with rest, last := some r, number, complained := side.complained || wrong }
    let s := if second then { s with right := side } else { s with left := side }
    set (if wrong then { s with complaints := (second, number, line) :: s.complaints } else s)
    if wrong && p.watch = .always then throw ()
    return some r

def put (line : Line) : Step Unit := modify fun s => { s with done := line :: s.done }

def putAlone (p : Plan) (counts : Nat × Nat) (second : Bool) (r : Row) : Step Unit :=
  put (if second then p.combine counts none (some r) else p.combine counts (some r) none)

/-- Takes all lines of a file that have the join field of some row, with the line after them. -/
def takeEqual (p : Plan) (second : Bool) (key : Line) :
    Nat → List Row → Step (List Row × Option Row)
  | 0, found => return (found.reverse, none)
  | fuel + 1, found => do
    match ← take p second with
    | none => return (found.reverse, none)
    | some r =>
      if p.compareFields (p.keyOf second r) key = .eq then takeEqual p second key fuel (r :: found)
      else return (found.reverse, some r)

/-- Joins as long as both files have lines; gives the lines that are left over. -/
def pair (p : Plan) (counts : Nat × Nat) :
    Nat → Option Row → Option Row → Step (Option Row × Option Row)
  | 0, a, b => return (a, b)
  | fuel + 1, a, b => do
    match a, b with
    | some x, some y =>
      match p.compareFields (p.keyOf false x) (p.keyOf true y) with
      | .lt =>
        if p.unpairedFirst then putAlone p counts false x
        let next ← take p false
        modify fun s => { s with mismatch := true }
        pair p counts fuel next b
      | .gt =>
        if p.unpairedSecond then putAlone p counts true y
        let next ← take p true
        modify fun s => { s with mismatch := true }
        pair p counts fuel a next
      | .eq =>
        let s ← get
        let (xs, a) ← takeEqual p false (p.keyOf true y) (s.left.rest.length + 1) [x]
        let (ys, b) ← takeEqual p true (p.keyOf false x) (s.right.rest.length + 1) [y]
        if p.paired then
          xs.forM fun x => ys.forM fun y => put (p.combine counts (some x) (some y))
        pair p counts fuel a b
    | _, _ => return (a, b)

/-- Goes through the lines of a file that are left when the other one has ended. -/
def finish (p : Plan) (counts : Nat × Nat) (second : Bool) (r : Row) : Nat → Step Unit
  | 0 => return
  | fuel + 1 => do
    if p.keeps second then putAlone p counts second r
    match ← take p second with
    | none => return
    | some next => finish p counts second next fuel

def joinAll (p : Plan) : Step Unit := do
  let s ← get
  let size := s.left.rest.length + s.right.rest.length + 2
  let a ← take p false
  let b ← take p true
  let width := fun (r : Option Row) => (r.map fun r => r.fields.length).getD 0
  let counts := (width a, width b)
  let (a, b) ← if p.header && (a.isSome || b.isSome) then do
      let blank := fun (r : Option Row) => r <|> some ⟨[], []⟩
      put (if a.isNone then p.combine counts none b else p.combine counts a (blank b))
      modify fun s =>
        { s with left := { s.left with last := none }, right := { s.right with last := none } }
      let a ← if a.isSome then take p false else pure none
      let b ← if b.isSome then take p true else pure none
      pure (a, b)
    else pure (a, b)
  let (a, b) ← pair p counts size a b
  match a with
  | some r => finish p counts false r size
  | none => pure ()
  match b with
  | some r => finish p counts true r size
  | none => pure ()

/-! ## The program -/

/-- What was given: a plan, or why it is refused. -/
abbrev Reading := Except Octets

def fieldNumber (text : Octets) : Reading Nat :=
  match Quantity.read "" text with
  | .fine 0 | .malformed => .error ("invalid field number: " ++ Quoting.plain text)
  | .fine n => .ok (n - 1)
  | .tooLarge => .ok (Quantity.limit - 2)

def column (text : Octets) : Reading Column :=
  match text.toList with
  | ['0'] => .ok .shared
  | '0' :: _ => .error ("invalid field specifier: " ++ Quoting.plain text)
  | c :: rest =>
    if c = '1' || c = '2' then
      match rest with
      | '.' :: number => (fieldNumber (String.ofList number)).map fun n => .field (c = '2') n
      | _ => .error ("invalid field specifier: " ++ Quoting.plain text)
    else .error ("invalid file number in field spec: " ++ Quoting.plain text)
  | [] => .error ("invalid file number in field spec: " ++ Quoting.plain text)

def columnsOf (text : Octets) : Reading (List Column) :=
  ((text.map fun c => if c = ' ' || c = '\t' then ',' else c).splitOn ",").mapM column

def noteKey (before : Option Nat) (n : Nat) : Reading (Option Nat) :=
  match before with
  | some m =>
    if m = n then .ok before
    else .error ("incompatible join fields " ++ Numeral.decimal m ++ ", " ++ Numeral.decimal n)
  | none => .ok (some n)

def Plan.read (p : Plan) (option : GivenOption) : Reading Plan := do
  let value := option.2.getD ""
  let key := fun (p : Plan) => do
    return { p with first := ← noteKey p.first (← fieldNumber value) }
  let otherKey := fun (p : Plan) => do
    return { p with second := ← noteKey p.second (← fieldNumber value) }
  let unpaired := fun (p : Plan) =>
    match Quantity.readSigned value with
    | some 1 => .ok { p with unpairedFirst := true }
    | some 2 => .ok { p with unpairedSecond := true }
    | _ => .error ("invalid field number: " ++ Quoting.plain value)
  match option.1 with
  | 'a' => unpaired p
  | 'v' => unpaired { p with paired := false }
  | 'e' =>
    if p.filler.any (· != value) then .error "conflicting empty-field replacement strings"
    else return { p with filler := some value }
  | 'i' => return { p with folds := true }
  | '1' => key p
  | '2' => otherKey p
  | 'j' => key p >>= otherKey
  | 'o' =>
    if value = "auto" then return { p with regular := true }
    else return { p with columns := p.columns ++ (← columnsOf value) }
  | 't' =>
    let separator ← match value.toList with
      | [] => pure '\n'
      | [c] => pure c
      | ['\\', '0'] => pure '\x00'
      | _ => .error ("multi-character tab " ++ Quoting.plain value)
    if p.separator.any (· != separator) then .error "incompatible tabs"
    else return { p with separator := some separator }
  | '\x12' => return { p with header := true }
  | _ => return p

/-- Moves operands that are lists of fields behind an option to that option's list. -/
def spareLists (given : Given) : List Column × List Octets :=
  let spare := given.operands.length - 2
  if !given.has 'o' || spare = 0 then ([], given.operands)
  else
    let (columns, operands, _) := given.operands.foldl (fun (columns, operands, spare) word =>
      match spare, columnsOf word with
      | spare + 1, .ok more => (columns ++ more, operands, spare)
      | spare, _ => (columns, operands ++ [word], spare))
      (([] : List Column), ([] : List Octets), spare)
    (columns, operands)

def join : Tool := fun _ name words =>
  Tool.withOptions [⟨'a', "", .yes⟩, ⟨'e', "", .yes⟩, ⟨'i', "ignore-case", .no⟩, ⟨'1', "", .yes⟩,
      ⟨'2', "", .yes⟩, ⟨'j', "", .yes⟩, ⟨'o', "", .yes⟩, ⟨'t', "", .yes⟩, ⟨'v', "", .yes⟩,
      ⟨'z', "zero-terminated", .no⟩, ⟨'\x10', "check-order", .no⟩, ⟨'\x11', "nocheck-order", .no⟩,
      ⟨'\x12', "header", .no⟩] 1 name words fun given => do
    match given.options.foldlM Plan.read {} with
    | .error text =>
      Tool.complain name text
      return 1
    | .ok p =>
      let (columns, operands) := spareLists given
      let p := { p with
        columns := p.columns ++ columns, watch := Vigilance.ofOptions given '\x10' '\x11' }
      match operands with
      | [] => Tool.misuse name "missing operand" 1
      | [_] => Tool.misuse name ("missing operand after " ++ Quoting.plain (words.getLastD "")) 1
      | _ :: _ :: extra :: _ => Tool.misuse name ("extra operand " ++ Quoting.always extra) 1
      | ["-", "-"] =>
        Tool.complain name "both files cannot be standard input"
        return 1
      | [first, second] =>
        let stop := Tool.stopOf (given.has 'z')
        let some a ← read name first | return 1
        let some b ← read name second | return 1
        do
          let start : State := { left := { rest := Tool.records stop a }
                                 right := { rest := Tool.records stop b } }
          let s := match joinAll p start with
            | .ok _ s | .error _ s => s
          Run.emit (Tool.unrecords stop s.done.reverse)
          s.complaints.reverse.forM fun (second', n, line) =>
            Tool.complain name ((if second' then second else first) ++ ":" ++ Numeral.decimal n ++
              ": is not sorted: " ++ String.ofList line)
          if s.complaints.isEmpty then return 0
          if p.watch != .always then Tool.complain name "input is not in sorted order"
          return 1
where
  /-- Reads a file, or complains. -/
  read (name path : Octets) : Run (Option (List Char)) := do
    match ← Tool.input path with
    | .ok octets => return some octets
    | .error .isDirectory =>
      Tool.fault name "read error" .isDirectory
      return none
    | .error fault =>
      Tool.fault name (Quoting.ifNeeded path) fault
      return none

end Joining
end Shell
end LineShell
