import LineShell.Shell.Search
import LineShell.Shell.Utility.Showing

/-!
# Programs that start programs

`env` changes what a program sees of variables, `xargs` gives a program its input as operands, and
`sleep` lets the scripts beside it go on.
-/

namespace LineShell
namespace Shell
namespace Starting

/-- The status for a program that could not be started. -/
def faultStatus (fault : Fault) : Nat := if Search.isAbsence fault then 127 else 126

/-- Lets a program take the place of this one, or complains. -/
def become (calls : Calls) (name : Octets) (words : List Octets) : Run Nat := do
  match ← calls.become words with
  | .ok status => return status
  | .error fault =>
    Tool.fault name (Quoting.plain (words.headD "")) fault
    return faultStatus fault

/-! ## Variables -/

def cutAssignments : List Octets → List (Octets × Octets) × List Octets
  | [] => ([], [])
  | word :: words =>
    let chars := word.toList
    let name := chars.takeWhile (· != '=')
    if name.length < chars.length then
      let (others, words) := cutAssignments words
      ((String.ofList name, String.ofList (chars.drop (name.length + 1))) :: others, words)
    else ([], word :: words)

def showVariables (lineEnd : Octets) : Run Unit := do
  (← Run.exported).forM fun (name, value) => Run.emit (name ++ "=" ++ value ++ lineEnd)

/-- Goes to a directory; the answer is why that failed. -/
def goTo (path : Octets) : Run (Option Fault) := do
  match ← Run.spotAt true path with
  | .error fault => return some fault
  | .ok (.directory place) =>
    modify fun s => { s with here := place }
    return none
  | .ok (.vacant ..) => return some .notFound
  | .ok (.leaf ..) => return some .notDirectory

def envShapes : OptionShapes :=
  [⟨'i', "ignore-environment", .no⟩, ⟨'0', "null", .no⟩, ⟨'u', "unset", .yes⟩,
   ⟨'C', "chdir", .yes⟩, ⟨'S', "split-string", .yes⟩, ⟨'v', "debug", .no⟩]

/-- Takes the variables away that options name; the answer is one that cannot be taken away. -/
def unset (given : Given) : Run (Option Octets) := do
  let names := given.options.filterMap fun (letter, value) => if letter = 'u' then value else none
  names.forM fun name => Run.putVariable name none
  return names.find? fun name => name.isEmpty || name.toList.contains '='

def env : Tool := fun calls name words =>
  Tool.withOptionsIn false envShapes 125 name words fun given => do
    let lone := given.operands.head? = some "-"
    let operands := if lone then given.operands.tail else given.operands
    let pieces := ((given.value? 'S').getD "").splitOn " "
    let operands := pieces.filter (· != "") ++ operands
    if given.has 'i' || lone then modify fun s => { s with vars := [] }
    match ← unset given with
    | some bad =>
      Tool.fault name ("cannot unset " ++ Quoting.plain bad) .invalid
      return 125
    | none =>
      let (assignments, command) := cutAssignments operands
      assignments.forM fun (name, value) =>
        Run.putVariable name (some { value := some value, exported := true })
      let lost ← match given.value? 'C' with
        | some path => (·.map fun fault => (path, fault)) <$> goTo path
        | none => pure none
      match lost with
      | some (path, fault) =>
        Tool.fault name ("cannot change directory to " ++ Quoting.plain path) fault
        return 125
      | none =>
        if !command.isEmpty then
          if given.has '0' then
            Tool.misuse name "cannot specify --null (-0) with command" 125
          else become calls name command
        else
          showVariables (if given.has '0' then "\x00" else "\n")
          return 0

def printenv : Tool := fun _ name words =>
  Tool.withOptions [⟨'0', "null", .no⟩] 2 name words fun given => do
    let lineEnd := if given.has '0' then "\x00" else "\n"
    if given.operands.isEmpty then
      showVariables lineEnd
      return 0
    else
      let exported ← Run.exported
      Tool.each given.operands fun name => do
        match exported.lookup name with
        | some value =>
          Run.emit (value ++ lineEnd)
          return true
        | none => return false

/-! ## Input as operands -/

/-- How the input of `xargs` is cut. -/
inductive Cutting where
  /-- At blanks and line feeds, except in quotes. -/
  | words
  /-- At line feeds, except in quotes. -/
  | lines
  | byte (c : Char)
  deriving DecidableEq, Repr

def cutAt (delimiter : Char) : Nat → List Char → List Octets
  | 0, _ | _, [] => []
  | fuel + 1, chars =>
    let word := chars.takeWhile (· != delimiter)
    String.ofList word :: cutAt delimiter fuel (chars.drop (word.length + 1))

/-- A word of the input, and whether the line ended behind it. -/
abbrev Item := Octets × Bool

def endWord (current : Option (List Char)) (ends : Bool) (done : List Item) : List Item :=
  match current, done with
  | some chars, _ => (String.ofList chars.reverse, ends) :: done
  | none, (word, ended) :: others => (word, ended || ends) :: others
  | none, [] => []

/-- What is said of a quote without its partner. -/
def unmatchedText (quote : Char) : Octets :=
  let kind := if quote = '"' then "double" else "single"
  "unmatched " ++ kind ++
    " quote; by default quotes are special to xargs unless you use the -0 option"

/-- Cuts bytes into words.  The quote that is open and the word so far, in reverse, are given. -/
def cutWords (wholeLines : Bool) :
    Option Char → Option (List Char) → List Item → List Char → Except Octets (List Item)
  | some quote, _, _, [] => .error (unmatchedText quote)
  | none, current, done, [] => .ok (endWord current true done).reverse
  | some quote, current, done, c :: rest =>
    if c = quote then cutWords wholeLines none (some (current.getD [])) done rest
    else if c = '\n' then .error (unmatchedText quote)
    else cutWords wholeLines (some quote) (some (c :: current.getD [])) done rest
  | none, current, done, '\\' :: c :: rest =>
    cutWords wholeLines none (some (c :: current.getD [])) done rest
  | none, current, done, c :: rest =>
    if c = '\'' || c = '"' then cutWords wholeLines (some c) current done rest
    else if c = '\n' then cutWords wholeLines none none (endWord current true done) rest
    else if c != ' ' && c != '\t' then
      cutWords wholeLines none (some (c :: current.getD [])) done rest
    else if wholeLines then cutWords wholeLines none (current.map (c :: ·)) done rest
    else cutWords wholeLines none none (endWord current false done) rest

def groupLines (most : Nat) : List Item → Nat → List Octets → List (List Octets)
  | [], _, group => if group.isEmpty then [] else [group.reverse]
  | (word, ends) :: items, lines, group =>
    let lines := if ends then lines + 1 else lines
    if most ≤ lines then (word :: group).reverse :: groupLines most items 0 []
    else groupLines most items lines (word :: group)

def groupWords (most : Nat) : Nat → List Octets → List (List Octets)
  | 0, _ | _, [] => []
  | fuel + 1, words => words.take most :: groupWords most fuel (words.drop most)

/-- Puts a text in place of each occurrence of another one. -/
def replaceAll (old new text : Octets) : Octets :=
  if old.isEmpty then text else new.intercalate (text.splitOn old)

def withoutInput {α : Type} (body : Run α) : Run α := do
  let before := (← get).descriptors
  let index ← Run.newChannel (.device .null)
  Run.setDescriptor 0 (some index)
  let answer ← body
  modify fun s => { s with descriptors := before }
  return answer

/-- Runs commands one after the other.  The status tells how any of them failed. -/
def runAll (calls : Calls) (name : Octets) (traces : Bool) :
    Nat → List (List Octets) → Run Nat
  | status, [] => return status
  | status, words :: others => do
    let program := words.headD ""
    if traces then Run.complain (" ".intercalate (words.map Quoting.ifNeeded))
    let refuse := fun (text : Octets) (status : Nat) => do
      Tool.complain name (program ++ ": " ++ text)
      return status
    match ← withoutInput (calls.spawn words) with
    | .error fault => refuse fault.description (faultStatus fault)
    | .ok (.signal n) => refuse ("terminated by signal " ++ Numeral.decimal n) 125
    | .ok (.status n) =>
      if n % 256 = 255 then refuse "exited with status 255; aborting" 124
      else runAll calls name traces (if n % 256 = 0 then status else 123) others

def xargsShapes : OptionShapes :=
  [⟨'0', "null", .no⟩, ⟨'a', "arg-file", .yes⟩, ⟨'d', "delimiter", .yes⟩, ⟨'E', "", .yes⟩,
   ⟨'e', "eof", .maybe⟩, ⟨'I', "", .yes⟩, ⟨'i', "replace", .maybe⟩, ⟨'L', "", .yes⟩,
   ⟨'l', "max-lines", .maybe⟩, ⟨'n', "max-args", .yes⟩, ⟨'P', "max-procs", .yes⟩,
   ⟨'r', "no-run-if-empty", .no⟩, ⟨'s', "max-chars", .yes⟩, ⟨'t', "verbose", .no⟩,
   ⟨'x', "exit", .no⟩, ⟨'o', "open-tty", .no⟩]

/-- Reads the number of an option, which must be at least one; the error is the complaint. -/
def number? (given : Given) (letter : Char) : Except Octets (Option Nat) :=
  match given.value? letter with
  | none => .ok none
  | some text =>
    let option := " for -" ++ String.singleton letter ++ " option"
    match Numeral.signed? text.toList with
    | none => .error ("invalid number \"" ++ text ++ "\"" ++ option)
    | some n =>
      if n < 1 then .error ("value " ++ text ++ option ++ " should be >= 1") else .ok (some n.toNat)

def commands (given : Given) (most lines : Option Nat) (command : List Octets)
    (items : List Item) : List (List Octets) :=
  let words := items.map (·.1)
  let counted := given.has 'n' && most != some 1
  let letters := if counted then ['I', 'i', 'L', 'l', 'n'] else ['I', 'i', 'L', 'l']
  match given.last? letters <|> given.last? ['n'], most with
  | some 'I', _ => words.map (instead ((given.value? 'I').getD ""))
  | some 'i', _ => words.map (instead ((given.value? 'i').getD "\x7b\x7d"))
  | some 'n', some most => (groupWords most (words.length + 1) words).map (command ++ ·)
  | some _, _ => (groupLines (lines.getD 1) items 0 []).map (command ++ ·)
  | none, _ => if words.isEmpty then [] else [command ++ words]
where
  instead (old word : Octets) : List Octets :=
    match command with
    | program :: operands => program :: operands.map (replaceAll old word)
    | [] => []

def cut (given : Given) (octets : List Char) : Except Octets (List Item) :=
  let wholeLines := given.has 'I' || given.has 'i'
  let bytes := fun c : Char => .ok ((cutAt c (octets.length + 1) octets).map (·, true))
  match given.last? ['0', 'd'] with
  | some '0' => bytes '\x00'
  | some _ =>
    match ((given.value? 'd').getD "").toList with
    | ['\\', 'n'] => bytes '\n'
    | ['\\', 't'] => bytes '\t'
    | ['\\', '0'] => bytes '\x00'
    | c :: _ => bytes c
    | [] => bytes '\n'
  | none => cutWords wholeLines none none [] octets

def xargs : Tool := fun calls name words =>
  Tool.withOptionsIn false xargsShapes 1 name words fun given => do
    let path := (given.value? 'a').getD "-"
    match number? given 'n', number? given 'L' with
    | .error text, _ | _, .error text => Tool.misuse name text 1
    | .ok most, .ok lines =>
      match ← Tool.input path with
      | .error fault =>
        if path = "-" then return 0
        Tool.fault name ("Cannot open input file " ++ Quoting.plain path) fault
        return 1
      | .ok octets =>
        match cut given octets with
        | .error text =>
          Tool.complain name text
          return 1
        | .ok items =>
          let command := if given.operands.isEmpty then ["echo"] else given.operands
          let replaces := given.has 'I' || given.has 'i'
          let all := commands given most lines command items
          let all := if all.isEmpty && !given.has 'r' && !replaces then [command] else all
          runAll calls name (given.has 't') 0 all

/-! ## Sleeping -/

def isSpan (text : Octets) : Bool :=
  let chars := text.toList
  let chars := match chars.getLast? with
    | some c => if "smhd".toList.contains c then chars.dropLast else chars
    | none => chars
  let front := chars.takeWhile Char.isDigit
  let rest := chars.drop front.length
  match rest with
  | [] => !front.isEmpty
  | '.' :: fraction => fraction.all Char.isDigit && !(front.isEmpty && fraction.isEmpty)
  | _ => String.ofList chars = "infinity" || String.ofList chars = "inf"

def sleep : Tool := fun calls name words =>
  Tool.withOptions [] 1 name words fun given => do
    if given.operands.isEmpty then Tool.misuse name "missing operand" 1
    else
      match given.operands.filter fun text => !isSpan text with
      | [] =>
        calls.catchUp
        return 0
      | wrong =>
        wrong.forM fun text =>
          Tool.complain name ("invalid time interval " ++ Quoting.plain text)
        Tool.pointToHelp name
        return 1

end Starting
end Shell
end LineShell
