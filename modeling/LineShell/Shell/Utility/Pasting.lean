import LineShell.Shell.Utility.Inputs

/-!
# The program that puts lines side by side

This is `paste`.  The lines of several files with the same number make one line, or all lines of a
file do.  Between them stand separators that are used in turn.
-/

namespace LineShell
namespace Shell
namespace Pasting

/-- The separators that letters behind a backslash stand for; zero is none at all. -/
def escapes : List (Char × List Char) :=
  [('0', []), ('b', ['\x08']), ('f', ['\x0c']), ('n', ['\n']), ('r', ['\r']), ('t', ['\t']),
   ('v', ['\x0b']), ('\\', ['\\'])]

/-- The separators that a text writes; none if a backslash is its last byte. -/
def separators? : List Char → Option (List (List Char))
  | [] => some []
  | ['\\'] => none
  | '\\' :: c :: rest => (separators? rest).map (((escapes.lookup c).getD [c]) :: ·)
  | c :: rest => (separators? rest).map ([c] :: ·)

def weave (separators : Array (List Char)) (fields : List (List Char)) : List Char :=
  (fields.zipIdx.flatMap fun (field, i) =>
    if i = 0 then field
    else separators.getD ((i - 1) % separators.size) [] ++ field)

/-- The lines of columns, of which some are shorter than others. -/
def rows (columns : List (List (List Char))) : List (List (List Char)) :=
  let height := (columns.map List.length).foldl max 0
  let columns := columns.map List.toArray
  (List.range height).map fun i => columns.map fun column => column.getD i []

/-- Shares the lines of the input among the operands that stand for it. -/
def share (lines : List (List Char)) (count k : Nat) : List (List Char) :=
  (lines.zipIdx.filter fun (_, i) => i % count = k).map (·.1)

def serial (name : Octets) (separators : Array (List Char)) (stop : Char)
    (paths : List Octets) : Run Nat :=
  Tool.each paths fun path => do
    let found ← Tool.input path
    match found with
    | .ok octets =>
      Run.emit (Tool.unrecords stop [weave separators (Tool.records stop octets)])
      return true
    | .error fault =>
      Tool.fault name (Quoting.ifNeeded path) fault
      if fault = .isDirectory then Run.emit (Tool.unrecords stop [[]])
      return false

/-- Reads all columns; one that cannot be opened ends everything. -/
def columns (name : Octets) (stop : Char) (stdin : List (List Char)) (hyphens : Nat) :
    Nat → List Octets → Run (Option (List (List (List Char)) × Bool))
  | _, [] => return some ([], true)
  | k, path :: others => do
    if path = "-" then
      let rest ← columns name stop stdin hyphens (k + 1) others
      return rest.map fun (rest, fine) => (share stdin hyphens k :: rest, fine)
    match ← Tool.input path with
    | .ok octets =>
      let rest ← columns name stop stdin hyphens k others
      return rest.map fun (rest, fine) => (Tool.records stop octets :: rest, fine)
    | .error fault =>
      Tool.fault name (Quoting.ifNeeded path) fault
      if fault = .isDirectory then
        let rest ← columns name stop stdin hyphens k others
        return rest.map fun (rest, _) => ([] :: rest, false)
      else return none

def parallel (name : Octets) (separators : Array (List Char)) (stop : Char)
    (paths : List Octets) : Run Nat := do
  let hyphens := paths.count "-"
  let stdin ← if 0 < hyphens then Tool.input "-" else pure (.ok [])
  match ← columns name stop (Tool.records stop (stdin.toOption.getD [])) hyphens 0 paths with
  | none => return 1
  | some (columns, fine) =>
    Run.emit (Tool.unrecords stop ((rows columns).map (weave separators)))
    return if fine then 0 else 1

def paste : Tool := fun _ name words =>
  Tool.withOptions [⟨'d', "delimiters", .yes⟩, ⟨'s', "serial", .no⟩,
      ⟨'z', "zero-terminated", .no⟩] 1 name words fun given => do
    let text := (given.value? 'd').getD "\t"
    match separators? text.toList with
    | none =>
      Tool.complain name ("delimiter list ends with an unescaped backslash: " ++
        Quoting.doubleIfNeeded text)
      return 1
    | some separators =>
      let separators := if separators.isEmpty then #[[]] else separators.toArray
      let stop := Tool.stopOf (given.has 'z')
      let paths := Tool.inputs given
      if given.has 's' then serial name separators stop paths
      else parallel name separators stop paths

end Pasting
end Shell
end LineShell
