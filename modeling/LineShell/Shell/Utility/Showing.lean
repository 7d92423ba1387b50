import LineShell.Shell.Utility.Inputs

/-!
# Programs that show what files hold

These are `cat`, `tac`, `rev` and `tee`.
-/

namespace LineShell
namespace Shell

namespace Showing

/-! ## Whole files -/

structure Display where
  numbers : Bool
  numbersFilled : Bool
  ends : Bool
  tabs : Bool
  hidden : Bool
  squeezes : Bool

/-- A byte that does not print, in letters. -/
def visible (tabs : Bool) (c : Char) : List Char :=
  let n := c.toNat
  let low := fun n : Nat =>
    if n < 32 then ['^', Char.ofNat (n + 64)]
    else if n = 127 then ['^', '?'] else [Char.ofNat n]
  if n = 9 && !tabs then ['\t']
  else if n < 128 then low n
  else 'M' :: '-' :: low (n - 128)

/-- What is known between two lines: the number of the last one, and how many empty ones there were
in a row. -/
structure Count where
  number : Nat := 0
  empty : Nat := 0
  /-- Whether a line has begun and not ended. -/
  inside : Bool := false

def showLine (d : Display) (count : Count) (line : List Char) (ended : Bool) :
    List Char × Count :=
  let blank := line.isEmpty && ended && !count.inside
  let empty := if blank then count.empty + 1 else 0
  if d.squeezes && 1 < empty then ([], { count with empty })
  else
    let numbered := !count.inside && (d.numbersFilled && !blank || d.numbers && !d.numbersFilled)
    let number := if numbered then count.number + 1 else count.number
    let front := if numbered then (Tool.padLeft 6 (Numeral.decimal number)).toList ++ ['\t']
      else []
    let body := if d.hidden then line.flatMap (visible d.tabs)
      else if d.tabs then line.flatMap fun c => if c = '\t' then ['^', 'I'] else [c]
      else line
    let tail := if ended then (if d.ends then ['$', '\n'] else ['\n']) else []
    (front ++ body ++ tail, { number, empty, inside := !ended })

def showBytes (d : Display) (count : Count) (octets : List Char) : Octets × Count :=
  let ended := octets.getLast? = some '\n'
  let lines := Tool.lines octets
  let (shown, count, _) := lines.foldl (fun (shown, count, left) line =>
    let (text, count) := showLine d count line (ended || 1 < left)
    (shown ++ String.ofList text, count, left - 1)) ("", count, lines.length)
  (shown, count)

/-- Whether an operand is the file that the output goes to, where that could go on forever. -/
def feedsItself (path : Octets) : Run Bool := do
  match ← Run.channel? 1, ← Run.spotAt true path with
  | some (_, .file location offset _ _ appends), .ok (.leaf found _) =>
    let size := (← Run.contentAt location).length
    return location = found && 0 < (if appends then size else offset)
  | _, _ => return false

def catAll (name : Octets) (d : Option Display) : Count → List Octets → Run Bool
  | _, [] => return true
  | count, path :: rest => do
    if path != "-" && (← feedsItself path) then
      Tool.complain name (Quoting.ifNeeded path ++ ": input file is output file")
      let _ ← catAll name d count rest
      return false
    match ← Tool.inputOrComplain name path with
    | none =>
      let _ ← catAll name d count rest
      return false
    | some octets =>
      match d with
      | none =>
        Run.emit (String.ofList octets)
        catAll name d count rest
      | some display =>
        let (shown, count) := showBytes display count octets
        Run.emit shown
        catAll name d count rest

def cat : Tool := fun _ name words =>
  Tool.withOptions [⟨'n', "number", .no⟩, ⟨'b', "number-nonblank", .no⟩, ⟨'A', "show-all", .no⟩,
      ⟨'e', "", .no⟩, ⟨'E', "show-ends", .no⟩, ⟨'s', "squeeze-blank", .no⟩, ⟨'t', "", .no⟩,
      ⟨'T', "show-tabs", .no⟩, ⟨'u', "", .no⟩, ⟨'v', "show-nonprinting", .no⟩] 1 name words
      fun given => do
    if (← Run.channel? 1).isNone then
      Tool.fault name "standard output" .badDescriptor
      return 1
    let any := fun letters : List Char => letters.any given.has
    let d : Display :=
      { numbers := given.has 'n', numbersFilled := given.has 'b'
        ends := any ['A', 'e', 'E'], tabs := any ['A', 't', 'T']
        hidden := any ['A', 'e', 't', 'v'], squeezes := given.has 's' }
    let plain := given.options.all fun option => option.1 = 'u'
    let fine ← catAll name (if plain then none else some d) {} (Tool.inputs given)
    if (← Run.channel? 0).isNone && (Tool.inputs given).contains "-" then
      Tool.fault name "closing standard input" .badDescriptor
    return if fine then 0 else 1

/-! ## Turned and copied lines -/

def filter (shapes : OptionShapes) (change : Given → List (List Char) → List (List Char)) : Tool :=
  fun _ name words => Tool.withOptions shapes 1 name words fun given => do
    let parts ← (Tool.inputs given).mapM (Tool.inputOrComplain name)
    let lines := (parts.filterMap id).flatMap Tool.lines
    Run.emit (Tool.unlines (change given lines))
    return if parts.all Option.isSome then 0 else 1

def rev : Tool := filter [] fun _ lines => lines.map List.reverse

def tac : Tool := fun _ name words =>
  Tool.withOptions [] 1 name words fun given => do
    Tool.each (Tool.inputs given) fun path => do
      match ← Tool.input path with
      | .error problem =>
        let what := if problem = .isDirectory then Quoting.ifNeeded path ++ ": read error"
          else "failed to open " ++ Quoting.always path ++ " for reading"
        Tool.fault name what problem
        return false
      | .ok octets =>
        let ended := octets.getLast? = some '\n'
        let lines := (Tool.lines octets).reverse
        let text := match lines with
          | last :: rest => if ended then Tool.unlines lines
              else String.ofList last ++ Tool.unlines rest
          | [] => ""
        Run.emit text
        return true

def tee : Tool := fun _ name words =>
  Tool.withOptions [⟨'a', "append", .no⟩, ⟨'i', "ignore-interrupts", .no⟩, ⟨'p', "", .no⟩] 1 name
      words fun given => do
    let append := given.has 'a'
    let how : Run.Opening :=
      { writes := true, creates := true, appends := append, truncates := !append }
    let opened ← given.operands.mapM fun path => do
      match ← Run.openPath how path with
      | .ok index => return some index
      | .error problem =>
        Tool.fault name (Quoting.ifNeeded path) problem
        return none
    let octets := ((← Run.readAll 0).toOption).getD []
    Run.emit (String.ofList octets)
    let before := (← get).descriptors
    (opened.filterMap id).forM fun index => do
      Run.setDescriptor 1000 (some index)
      let _ ← Run.write 1000 (String.ofList octets)
    modify fun s => { s with descriptors := before }
    return if opened.all Option.isSome then 0 else 1

end Showing
end Shell
end LineShell
