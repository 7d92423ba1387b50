import LineShell.Shell.Utility.Inputs

/-!
# The program that counts lines, words and bytes

This is `wc`.  The counts of all operands are shown in columns of one width, which depends on how
large the files are.
-/

namespace LineShell
namespace Shell
namespace Tallying

/-- What is counted of a file. -/
structure Tally where
  lines : Nat := 0
  words : Nat := 0
  bytes : Nat := 0
  width : Nat := 0

def wordCount (octets : List Char) : Nat :=
  (octets.foldl (fun (n, inside) c =>
    let blank := c = ' ' || 9 ≤ c.toNat && c.toNat ≤ 13
    if blank then (n, false)
    else if inside then (n, true)
    else if 32 < c.toNat && c.toNat < 127 then (n + 1, true) else (n, false)) (0, false)).1

def widest (octets : List Char) : Nat :=
  (octets.foldl (fun (most, column) c =>
    let column :=
      if c = '\n' || c = '\r' || c = '\x0c' then 0
      else if c = '\t' then (column / 8 + 1) * 8
      else if 32 ≤ c.toNat && c.toNat < 127 then column + 1 else column
    (max most column, column)) (0, 0)).1

def Tally.of (octets : List Char) : Tally :=
  { lines := octets.count '\n', words := wordCount octets, bytes := octets.length
    width := widest octets }

def Tally.plus (a b : Tally) : Tally :=
  { lines := a.lines + b.lines, words := a.words + b.words, bytes := a.bytes + b.bytes
    width := max a.width b.width }

def letters : List Char := ['l', 'w', 'm', 'c', 'L']

def Tally.chosen (given : Given) (t : Tally) : List Nat :=
  if letters.all fun c => !given.has c then [t.lines, t.words, t.bytes]
  else
    let shown := [('l', t.lines), ('w', t.words), ('m', t.bytes), ('c', t.bytes), ('L', t.width)]
    (shown.filter fun count => given.has count.1).map (·.2)

/-- The size of a regular file; nothing for anything else. -/
def sizeOf (path : Octets) : Run (Option (Option Nat)) := do
  if path = "-" then
    match ← Run.channel? 0 with
    | some (_, .file location ..) => return some (some (← Run.contentAt location).length)
    | some _ => return some none
    | none => return none
  else
    match ← Run.nodeAt true path with
    | .ok (.file file) => return some (some file.content.length)
    | .ok _ => return some none
    | .error _ => return none

def countWidth (given : Given) (paths : List Octets) : Run Nat := do
  let chosen := (Tally.chosen given {}).length
  let single := given.operands.isEmpty && !given.has '\x10' && chosen = 1
  if single || paths.length ≤ 1 && chosen = 1 then return 1
  let sizes ← paths.mapM sizeOf
  let found := sizes.filterMap id
  let total : Nat := found.foldl (fun sum size => sum + size.getD 0) 0
  let digits := (Numeral.decimal total).length
  return if found.all Option.isSome then digits else max 7 digits

def namedFiles (name : Octets) (given : Given) :
    Run (Except Nat (List Octets × Option Octets)) := do
  match given.value? '\x10', given.operands with
  | none, _ => return .ok (Tool.inputs given, none)
  | some _, extra :: _ =>
    Tool.complain name ("extra operand " ++ Quoting.always extra)
    Run.complain "file operands cannot be combined with --files0-from"
    Tool.pointToHelp name
    return .error 1
  | some list, [] =>
    match ← Tool.input list with
    | .error fault =>
      Tool.fault name ("cannot open " ++ Quoting.always list ++ " for reading") fault
      return .error 1
    | .ok octets => return .ok ((Tool.records '\x00' octets).map String.ofList, some list)

def countOne (name : Octets) (given : Given) (width : Nat) (list : Option Octets) (place : Nat)
    (path : Octets) : Run (Option Tally) := do
  let front := match list with
    | some list => Quoting.ifNeeded list ++ ":" ++ Numeral.decimal place ++ ": "
    | none => ""
  if path.isEmpty then
    Tool.complain name (front ++ "invalid zero-length file name")
    return none
  if list = some "-" && path = "-" then
    Tool.complain name "when reading file names from stdin, no file name of '-' allowed"
    return none
  let label := if given.operands.isEmpty && list.isNone then "" else path
  match ← Tool.input path with
  | .ok octets =>
    let t := Tally.of octets
    show_ given width t label
    return some t
  | .error problem =>
    Tool.fault name (Quoting.ifNeeded path) problem
    if problem = .isDirectory then show_ given width {} label
    return none
where
  /-- Shows counts and what they are of. -/
  show_ (given : Given) (width : Nat) (t : Tally) (label : Octets) : Run Unit := do
    let numbers := (t.chosen given).map fun (n : Nat) => Tool.padLeft width (Numeral.decimal n)
    Run.emitLine (" ".intercalate numbers ++ (if label.isEmpty then "" else " " ++ label))

def wc : Tool := fun _ name words =>
  Tool.withOptions [⟨'l', "lines", .no⟩, ⟨'w', "words", .no⟩, ⟨'c', "bytes", .no⟩,
      ⟨'m', "chars", .no⟩, ⟨'L', "max-line-length", .no⟩, ⟨'\x10', "files0-from", .yes⟩] 1 name
      words fun given => do
    match ← namedFiles name given with
    | .error status => return status
    | .ok (paths, list) =>
      let width ← countWidth given paths
      let results ← paths.zipIdx.mapM fun (path, i) =>
        countOne name given width list (i + 1) path
      if 1 < paths.length then
        countOne.show_ given width ((results.filterMap id).foldl Tally.plus {}) "total"
      return if results.all Option.isSome then 0 else 1

end Tallying
end Shell
end LineShell
