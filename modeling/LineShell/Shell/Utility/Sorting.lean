import LineShell.Shell.Utility.Quantity
import LineShell.Shell.Utility.Collation
import LineShell.Shell.Utility.Inputs

/-!
# The program that puts lines in order

This is `sort`.  It sorts what it reads, merges what is in order already, or only checks that
lines are in order.  Lines that are equal by their keys are told apart by their bytes, unless they
may stay as they are.
-/

namespace LineShell
namespace Shell
namespace Sorting

open Collation

structure Plan where
  separator : Option Char := none
  keys : List Key := []
  reverse : Bool := false
  stable : Bool := false
  unique : Bool := false
  stop : Char := '\n'

namespace Plan

/-- The order of lines, where those that are equal by their keys may be told apart by their bytes.
-/
def order (p : Plan) (a b : Line) : Ordering :=
  let byBytes := fun _ : Unit =>
    let order := compareBytes a b
    if p.reverse then order.swap else order
  if p.keys.isEmpty then byBytes ()
  else
    match compareKeys p.separator p.keys a b with
    | .eq => if p.stable || p.unique then .eq else byBytes ()
    | order => order

/-- Keeps the first of lines that are equal and stand side by side. -/
def firstOfRuns (same : Line → Line → Bool) (lines : List Line) : List Line :=
  (lines.foldl (fun (kept : List Line) line =>
    match kept with
    | last :: _ => if same last line then kept else line :: kept
    | [] => [line]) []).reverse

/-- Keeps one line of several that are equal, if that is asked for. -/
def thin (p : Plan) (lines : List Line) : List Line :=
  if p.unique then firstOfRuns (fun a b => p.order a b = .eq) lines else lines

def sort (p : Plan) (lines : List Line) : List Line :=
  p.thin (lines.mergeSort fun a b => p.order a b != .gt)

/-- Takes the smallest of the first lines of some lists, of equal ones the first. -/
def takeLeast (p : Plan) : List (List Line) → Option (Line × List (List Line))
  | [] => none
  | [] :: others => (p.takeLeast others).map fun (line, others) => (line, [] :: others)
  | (line :: rest) :: others =>
    match p.takeLeast others with
    | none => some (line, rest :: others)
    | some (least, left) =>
      if p.order line least = .gt then some (least, (line :: rest) :: left)
      else some (line, rest :: others)

def merge (p : Plan) : Nat → List (List Line) → List Line → List Line
  | 0, _, done => done.reverse
  | fuel + 1, lists, done =>
    match p.takeLeast lists with
    | none => done.reverse
    | some (line, lists) => p.merge fuel lists (line :: done)

def disorder? (p : Plan) : Nat → List Line → Option (Nat × Line)
  | n, a :: b :: rest =>
    let order := p.order a b
    if order = .gt || p.unique && order = .eq then some (n, b) else p.disorder? (n + 1) (b :: rest)
  | _, _ => none

end Plan

def shapes : OptionShapes :=
  [⟨'b', "ignore-leading-blanks", .no⟩, ⟨'c', "", .no⟩, ⟨'c', "check", .maybe⟩, ⟨'C', "", .no⟩,
   ⟨'\x10', "compress-program", .yes⟩, ⟨'\x11', "debug", .no⟩, ⟨'d', "dictionary-order", .no⟩,
   ⟨'f', "ignore-case", .no⟩, ⟨'\x12', "files0-from", .yes⟩, ⟨'g', "general-numeric-sort", .no⟩,
   ⟨'h', "human-numeric-sort", .no⟩, ⟨'i', "ignore-nonprinting", .no⟩, ⟨'k', "key", .yes⟩,
   ⟨'m', "merge", .no⟩, ⟨'M', "month-sort", .no⟩, ⟨'n', "numeric-sort", .no⟩,
   ⟨'V', "version-sort", .no⟩, ⟨'\x13', "random-source", .yes⟩, ⟨'R', "random-sort", .no⟩,
   ⟨'\x14', "sort", .yes⟩, ⟨'o', "output", .yes⟩, ⟨'r', "reverse", .no⟩, ⟨'s', "stable", .no⟩,
   ⟨'\x15', "batch-size", .yes⟩, ⟨'S', "buffer-size", .yes⟩, ⟨'t', "field-separator", .yes⟩,
   ⟨'T', "temporary-directory", .yes⟩, ⟨'u', "unique", .no⟩, ⟨'z', "zero-terminated", .no⟩,
   ⟨'\x16', "parallel", .yes⟩, ⟨'y', "", .maybe⟩]

def sortNames : List (List String × Char) :=
  [(["general-numeric"], 'g'), (["human-numeric"], 'h'), (["month"], 'M'), (["numeric"], 'n'),
   (["random"], 'R'), (["version"], 'V')]

def checkNames : List (List String × Char) :=
  [(["quiet", "silent"], 'C'), (["diagnose-first"], 'c')]

/-- What was asked for, as far as it was read. -/
structure Request where
  overall : Comparison := {}
  keys : List Key := []
  separator : Option Char := none
  check : Option Char := none
  output : Option Octets := none

def refuse {α : Type} (name text : Octets) (status : Nat) : Run (Except Nat α) := do
  Tool.complain name text
  return .error status

def incompatible {α : Type} (name : Octets) (letters : List Char) : Run (Except Nat α) :=
  refuse name ("options '-" ++ String.ofList letters ++ "' are incompatible") 2

def withCheck (name : Octets) (r : Request) (letter : Char) : Run (Except Nat Request) := do
  if r.check.any (· != letter) then incompatible name ['c', 'C']
  else return .ok { r with check := some letter }

def readOption (name : Octets) (r : Request) (option : GivenOption) :
    Run (Except Nat Request) := do
  let value := option.2.getD ""
  match option.1 with
  | 'c' =>
    match option.2 with
    | none => withCheck name r 'c'
    | some word =>
      match ← Tool.choose name "--check" word checkNames with
      | some letter => withCheck name r letter
      | none => return .error 1
  | 'C' => withCheck name r 'C'
  | '\x14' =>
    match ← Tool.choose name "--sort" value sortNames with
    | some letter =>
      return .ok { r with overall := (r.overall.withLetter true true letter).getD r.overall }
    | none => return .error 1
  | 'k' =>
    match readKey value with
    | .ok key => return .ok { r with keys := r.keys ++ [key] }
    | .error fault => refuse name (fault.message Quoting.plain value) 2
  | 't' =>
    let separator? := match value.toList with
      | [c] => some c
      | ['\\', '0'] => some '\x00'
      | _ => none
    match separator? with
    | none =>
      if value.isEmpty then refuse name "empty tab" 2
      else refuse name ("multi-character tab " ++ Quoting.plain value) 2
    | some c =>
      if r.separator.any (· != c) then refuse name "incompatible tabs" 2
      else return .ok { r with separator := some c }
  | 'o' =>
    if r.output.any (· != value) then refuse name "multiple output files specified" 2
    else return .ok { r with output := some value }
  | 'S' =>
    match Quantity.read "bEgGkKmMPtTYZ%" value with
    | .fine _ => return .ok r
    | .tooLarge => refuse name ("-S argument " ++ Quoting.plain value ++ " too large") 2
    | .malformed =>
      if value.endsWith "%" && (value.dropEnd 1).toString.isNat then return .ok r
      else refuse name ("invalid -S argument " ++ Quoting.plain value) 2
  | '\x16' =>
    match value.toNat? with
    | some 0 => refuse name "number in parallel must be nonzero" 2
    | some _ => return .ok r
    | none => refuse name ("invalid --parallel argument " ++ Quoting.plain value) 2
  | letter =>
    return .ok { r with overall := (r.overall.withLetter true true letter).getD r.overall }

def readOptions (name : Octets) : Request → List GivenOption → Run (Except Nat Request)
  | r, [] => return .ok r
  | r, option :: others => do
    match ← readOption name r option with
    | .ok r => readOptions name r others
    | .error status => return .error status

/-- The keys by which lines are ordered: what was asked for overall holds for keys that ask for
nothing, and for whole lines if there are no keys. -/
def Request.allKeys (r : Request) : List Key :=
  if r.keys.isEmpty then
    if r.overall.isUsual then [] else [{ comparison := r.overall }]
  else r.keys.map fun key =>
    if key.comparison = {} then { key with comparison := r.overall } else key

def readAll (name : Octets) (stop : Char) (paths : List Octets) : Run (Option (List (List Line))) :=
  paths.foldlM (fun found path => do
    match found with
    | none => return none
    | some lists =>
      match ← Tool.input path with
      | .ok octets => return some (lists ++ [Tool.records stop octets])
      | .error problem =>
        let what := if problem = .isDirectory then "read failed: " else "cannot read: "
        Tool.fault name (what ++ Quoting.ifNeeded path) problem
        return none) (some [])

/-- Complains about the first path that cannot be read. -/
def checkInputs (name : Octets) (paths : List Octets) : Run Bool := do
  let faults ← paths.mapM fun path => do
    if path = "-" then return none
    match ← Run.nodeAt true path with
    | .error fault => return some (path, fault)
    | .ok node => return if node.grants .read then none else some (path, .noAccess)
  match (faults.filterMap id).head? with
  | none => return true
  | some (path, fault) =>
    Tool.fault name ("cannot read: " ++ Quoting.ifNeeded path) fault
    return false

def check (name : Octets) (p : Plan) (tells : Bool) (path : Octets) : Run Nat := do
  match ← Tool.input path with
  | .error problem =>
    let what := if problem = .isDirectory then "read failed: " else "open failed: "
    Tool.fault name (what ++ Quoting.ifNeeded path) problem
    return 2
  | .ok octets =>
    match p.disorder? 2 (Tool.records p.stop octets) with
    | none => return 0
    | some (n, line) =>
      if tells then
        Tool.complain name (path ++ ":" ++ Numeral.decimal n ++ ": disorder: " ++
          String.ofList line)
      return 1

/-- Opens the output, which is emptied only when it is written. -/
def openOutput (name path : Octets) : Run Bool := do
  match ← Run.openPath { writes := true, creates := true } path with
  | .ok _ => return true
  | .error fault =>
    Tool.fault name ("open failed: " ++ Quoting.ifNeeded path) fault
    return false

def arrange (name : Octets) (p : Plan) (merges : Bool) (output : Option Octets)
    (paths : List Octets) : Run Nat := do
  if !(← checkInputs name paths) then return 2
  if let some path := output then
    if !(← openOutput name path) then return 2
  match ← readAll name p.stop paths with
  | none => return 2
  | some lists =>
    let count := lists.foldl (fun sum lines => sum + lines.length) 0
    let lines := if merges then p.thin (p.merge (count + 1) lists []) else p.sort lists.flatten
    let text := Tool.unrecords p.stop lines
    match output with
    | none =>
      Run.emit text
      return 0
    | some path =>
      match ← Run.writePath path text with
      | none => return 0
      | some fault =>
        Tool.fault name ("open failed: " ++ Quoting.ifNeeded path) fault
        return 2

def withOldKeys (words : List Octets) : List Octets := go (words.length + 1) words
where
  go : Nat → List Octets → List Octets
    | 0, words => words
    | _, [] => []
    | fuel + 1, word :: rest =>
      match word.toList with
      | ['-', '-'] => word :: rest
      | '+' :: c :: more =>
        if !c.isDigit then word :: go fuel rest
        else
          let (start, letters) := shifted (c :: more)
          match rest with
          | next :: others =>
            match next.toList with
            | '-' :: d :: last =>
              if d.isDigit then
                let (stop, lastLetters) := ended (d :: last)
                ("-k" ++ start ++ letters ++ "," ++ stop ++ lastLetters) :: go fuel others
              else ("-k" ++ start ++ letters) :: go fuel rest
            | _ => ("-k" ++ start ++ letters) :: go fuel rest
          | [] => ["-k" ++ start ++ letters]
      | _ => word :: go fuel rest
  /-- Cuts a place into its numbers and its letters. -/
  cut (text : List Char) : Nat × Nat × String :=
    let field := text.takeWhile Char.isDigit
    match text.drop field.length with
    | '.' :: more =>
      let byte := more.takeWhile Char.isDigit
      (Numeral.value field, Numeral.value byte, String.ofList (more.drop byte.length))
    | more => (Numeral.value field, 0, String.ofList more)
  /-- A place that is counted from zero, as one that is counted from one. -/
  shifted (text : List Char) : String × String :=
    let (field, byte, letters) := cut text
    (Numeral.decimal (field + 1 : Nat) ++ "." ++ Numeral.decimal (byte + 1 : Nat), letters)
  /-- A place before which a key ends. -/
  ended (text : List Char) : String × String :=
    let (field, byte, letters) := cut text
    if byte = 0 then (Numeral.decimal field, letters)
    else (Numeral.decimal (field + 1 : Nat) ++ "." ++ Numeral.decimal byte, letters)

def sort : Tool := fun _ name words =>
  Tool.withOptions shapes 2 name (withOldKeys words) fun given => do
    match ← readOptions name {} given.options with
    | .error status => return status
    | .ok r =>
      let keys := r.allKeys
      match (keys.map (·.comparison)).find? (·.conflicts) with
      | some c =>
        let shown := { c with skipsBlanks := false, skipsEndBlanks := false, reverse := false }
        Tool.complain name ("options '-" ++ String.ofList shown.letters ++ "' are incompatible")
        return 2
      | none =>
        let p : Plan :=
          { separator := r.separator, keys, reverse := r.overall.reverse
            stable := given.has 's', unique := given.has 'u'
            stop := Tool.stopOf (given.has 'z') }
        match ← namedFiles name given with
        | .error status => return status
        | .ok paths =>
          match r.check with
          | none => arrange name p (given.has 'm') r.output paths
          | some letter =>
            match paths with
            | _ :: extra :: _ =>
              Tool.complain name ("extra operand " ++ Quoting.always extra ++
                " not allowed with -" ++ String.singleton letter)
              return 2
            | paths =>
              if r.output.isSome then
                Tool.complain name
                  ("options '-" ++ String.ofList [letter, 'o'] ++ "' are incompatible")
                return 2
              else check name p (letter = 'c') (paths.headD "-")
where
  /-- The operands, or the files that a file names. -/
  namedFiles (name : Octets) (given : Given) : Run (Except Nat (List Octets)) := do
    match given.value? '\x12', given.operands with
    | none, _ => return .ok (Tool.inputs given)
    | some _, extra :: _ =>
      Tool.complain name ("extra operand " ++ Quoting.always extra)
      Run.complain "file operands cannot be combined with --files0-from"
      Tool.pointToHelp name
      return .error 2
    | some list, [] =>
      match ← Tool.input list with
      | .error fault =>
        Tool.fault name ("open failed: " ++ Quoting.ifNeeded list) fault
        return .error 2
      | .ok octets =>
        let names := (Tool.records '\x00' octets).map String.ofList
        if names.isEmpty then
          refuse name ("no input from " ++ Quoting.always list) 2
        else if names.contains "" then
          let n := (names.takeWhile (· != "")).length + 1
          refuse name (Quoting.ifNeeded list ++ ":" ++ Numeral.decimal n ++
            ": invalid zero-length file name") 2
        else return .ok names

end Sorting
end Shell
end LineShell
