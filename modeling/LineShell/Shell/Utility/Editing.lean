import LineShell.Shell.Utility.Edits
import LineShell.Shell.Utility.Placing
import LineShell.Shell.Utility.Showing

/-!
# The stream editor

`sed` takes its input line by line into the pattern space and runs its script on each of them; at
the end of the script the pattern space is shown.  A line that lacked its end is shown without
one, which is made up for if anything follows.
-/

namespace LineShell
namespace Shell
namespace Editing

/-! ## The state of an editor -/

/-- A text that is worked on, and whether its last line had its end. -/
structure Space where
  text : List Char := []
  ended : Bool := true

/-- What is put out behind the pattern space. -/
inductive Appendix where
  | text (octets : Octets)
  | file (name : Octets)

inductive Outlet where
  /-- The output, or the file that is edited in place. -/
  | regular
  | descriptor (n : Nat)
  deriving DecidableEq, Repr

/-- How far the lines of an instruction reach that have begun. -/
inductive Reach where
  | idle
  /-- Up to a line of a number. -/
  | upTo (n : Nat)
  /-- Up to a line that the second address fits. -/
  | searching
  deriving DecidableEq, Repr, Inhabited

structure Task where
  script : EditScript
  quiet : Bool
  separate : Bool
  /-- The suffix of the old file, if files are edited in place. -/
  inPlace : Option Octets
  delimiter : Char
  /-- The width of lines that are shown visibly. -/
  width : Nat
  /-- Where files that are written lead to. -/
  outlets : List (Octets × Outlet)

structure Editor where
  task : Task
  space : Space := {}
  held : Space := {}
  number : Nat := 0
  /-- Whether a text was replaced since the last line was read. -/
  replaced : Bool := false
  /-- What is put out behind the pattern space, the last one first. -/
  appendices : List Appendix := []
  reaches : Array Reach
  /-- The expression that was used last. -/
  lastUsed : Option (Regex × Bool) := none
  /-- The file that is read, and what is left of it. -/
  current : Octets := "-"
  unread : List Char := []
  /-- A file that was looked into before its time. -/
  upcoming : Option (Octets × List Char) := none
  files : List Octets
  /-- What was written in place of the file that is read, the last text first. -/
  written : Option (List Octets) := none
  /-- The outlets whose last line lacks its end. -/
  unended : List Outlet := []
  /-- What is left of files that are read line by line. -/
  rows : List (Octets × List Char) := []
  status : Nat := 0

/-- A step of an editor, which may end it with a status. -/
abbrev Step := ExceptT Nat (StateT Editor Run)

def abort {α : Type} (status : Nat) (text : Octets) : Step α := do
  Run.complain ("sed: " ++ text)
  throw status

def complainOf (status : Nat) (text : Octets) : Step Unit := do
  Run.complain ("sed: " ++ text)
  modify fun e => { e with status }

/-! ## Output -/

def pour (outlet : Outlet) (text : Octets) : Step Unit := do
  match outlet with
  | .regular =>
    match (← get).written with
    | some chunks => modify fun e => { e with written := some (text :: chunks) }
    | none => Run.emit text
  | .descriptor n => let _ ← (Run.write n text : Run (Option Fault))

/-- Ends the last line of an outlet if it lacks its end. -/
def complete (outlet : Outlet) : Step Unit := do
  let e ← get
  if e.unended.contains outlet then
    pour outlet (String.singleton e.task.delimiter)
    modify fun e => { e with unended := e.unended.filter (· != outlet) }

def put (text : Octets) : Step Unit := do
  complete .regular
  pour .regular text

/-- Writes a line, which ends as it did where it came from. -/
def putLine (outlet : Outlet) (text : List Char) (ended : Bool) : Step Unit := do
  complete outlet
  pour outlet (String.ofList text)
  if ended then pour outlet (String.singleton (← get).task.delimiter)
  else modify fun e => { e with unended := outlet :: e.unended }

def putSpace (outlet : Outlet) : Step Unit := do
  let space := (← get).space
  putLine outlet space.text space.ended

def showSpace : Step Unit := do
  if !(← get).task.quiet then putSpace .regular

def putAppendices : Step Unit := do
  for appendix in (← get).appendices.reverse do
    complete .regular
    match appendix with
    | .text octets => pour .regular octets
    | .file name =>
      if let .ok octets ← (Run.readPath name : Run _) then pour .regular (String.ofList octets)
  modify fun e => { e with appendices := [] }

/-! ## Input -/

/-- The name that the old content of a file is kept under. -/
def backupName (path suffix : Octets) : Octets :=
  let base := Placing.baseName path
  let name := if suffix.toList.contains '*' then
      String.ofList (suffix.toList.flatMap fun c => if c = '*' then base.toList else [c])
    else base ++ suffix
  let front := String.ofList (path.toList.reverse.dropWhile (· != '/')).reverse
  if name.toList.contains '/' then name else front ++ name

/-- Puts a text in place of a file, whose old content is kept if there is a suffix for it. -/
def replaceFile (path suffix text : Octets) : Run Unit := do
  match ← Run.spotAt false path, ← Run.nodeAt true path with
  | .ok (.leaf location _), .ok (.file file) =>
    if !suffix.isEmpty then
      let _ ← Run.writePath (backupName path suffix) file.content
    modify fun s =>
      let tree := s.files.tree.replace location (.file { file with content := text, twin := 0 })
      { s with files := { s.files with tree }, stamps := s.stamps.renew location.tail }
  | _, _ => return

/-- Puts what was written in place of the file that was read. -/
def closeFile : Step Unit := do
  let e ← get
  match e.written, e.task.inPlace with
  | some chunks, some suffix =>
    replaceFile e.current suffix (String.join chunks.reverse)
    set { e with written := none, unended := e.unended.filter (· != Outlet.regular) }
  | _, _ => return

def isEditable (path : Octets) : Step Bool := do
  match ← (Run.nodeAt true path : Run _) with
  | .ok (.file _) => return true
  | .ok _ => abort 4 ("couldn't edit " ++ path ++ ": not a regular file")
  | .error fault =>
    complainOf 2 ("can't read " ++ path ++ ": " ++ fault.description)
    return false

def lookAhead : List Octets → Step Unit
  | [] => modify fun e => { e with files := [], upcoming := none }
  | path :: files => do
    let inPlace := (← get).task.inPlace
    let usable ← if inPlace.isSome then isEditable path else pure true
    if !usable then lookAhead files
    else
      match ← (Tool.input path : Run _) with
      | .error .isDirectory => abort 4 ("read error on " ++ path ++ ": Is a directory")
      | .error fault =>
        complainOf 2 ("can't read " ++ path ++ ": " ++ fault.description)
        lookAhead files
      | .ok octets =>
        if octets.isEmpty then
          inPlace.forM fun suffix => (replaceFile path suffix "" : Run Unit)
          lookAhead files
        else modify fun e => { e with files, upcoming := some (path, octets) }

/-- Whether no line follows the one that was read last. -/
def isLast : Step Bool := do
  let e ← get
  if !e.unread.isEmpty then return false
  else if e.task.separate then return true
  else
    if e.upcoming.isNone then lookAhead e.files
    return (← get).upcoming.isNone

/-- The ranges that begin with the first line of a file are searched from the start. -/
def initialReaches (script : EditScript) : Array Reach :=
  script.instructions.map fun i =>
    match i.first with
    | some (.line 0) => .searching
    | _ => .idle

/-- Goes to the next file; the answer is whether there is one. -/
def openNext : Step Bool := do
  closeFile
  if (← get).upcoming.isNone then lookAhead (← get).files
  let e ← get
  match e.upcoming with
  | none => return false
  | some (current, unread) =>
    set { e with
      current, unread, upcoming := none
      written := if e.task.inPlace.isSome then some [] else none }
    if e.task.separate then
      modify fun e => { e with
        number := 0, held := { e.held with text := [] }, reaches := initialReaches e.task.script }
    return true

def takeLine : Step Space := modifyGet fun e =>
  let text := e.unread.takeWhile (· != e.task.delimiter)
  let rest := e.unread.drop text.length
  ({ text, ended := !rest.isEmpty }, { e with unread := rest.drop 1 })

/-- Reads a line into the pattern space, or behind it; the answer is whether there was one. -/
def readSpace (appends : Bool) : Step Bool := do
  putAppendices
  modify fun e => { e with replaced := false }
  let ready ← if (← get).unread.isEmpty then openNext else pure true
  if ready then
    let line ← takeLine
    modify fun e =>
      let text := if appends then e.space.text ++ e.task.delimiter :: line.text else line.text
      { e with space := { line with text }, number := e.number + 1 }
  return ready

/-! ## Addresses -/

/-- The first match of an expression in a text, from a place on.  No expression stands for the one
that was used last. -/
def search (re : Option Regex) (folds : Bool) (text : Array Char) (start : Nat) :
    Step (Option (Nat × Regex.Position)) := do
  match re.map (·, folds) <|> (← get).lastUsed with
  | none => abort 1 "-e expression #1, char 0: no previous regular expression"
  | some (re, folds) =>
    modify fun e => { e with lastUsed := some (re, folds) }
    return Regex.find? folds re text start

/-- Whether an address fits the line that was read last. -/
def fits : Address → Step Bool
  | .line n => return (← get).number = n
  | .step first step => do
    let number := (← get).number
    return if step = 0 then number = first else first ≤ number && (number - first) % step = 0
  | .last => isLast
  | .matching re folds => do
    return (← search re folds (← get).space.text.toArray 0).isSome
  | .further _ | .multiple _ => return false

def setReach (place : Nat) (reach : Reach) : Step Unit := modify fun e =>
  { e with reaches := e.reaches.setIfInBounds place reach }

/-- Begins lines up to one of a number; if that one has come, there is one line only. -/
def beginUpTo (place n : Nat) : Step Unit := do
  if (← get).number < n then setReach place (.upTo n)

def isBetween (place : Nat) (first second : Address) : Step Bool := do
  let number := (← get).number
  match (← get).reaches[place]?.getD .idle with
  | .upTo n =>
    if n ≤ number then setReach place .idle
    return number ≤ n
  | .searching =>
    if ← fits second then setReach place .idle
    return true
  | .idle =>
    if !(← fits first) then return false
    match second with
    | .line n => beginUpTo place n
    | .further n => beginUpTo place (number + n)
    | .multiple n => if n != 0 then beginUpTo place ((number / n + 1) * n)
    | _ => setReach place .searching
    return true

/-- Whether an instruction is for the line that was read last. -/
def concerns (place : Nat) (i : Instruction) : Step Bool := do
  let wanted ← match i.first, i.second with
    | none, _ => pure true
    | some address, none => fits address
    | some first, some second => isBetween place first second
  return wanted != i.negated

/-! ## Substitution -/

structure Cases where
  /-- For all letters. -/
  all : Casing := .stop
  /-- For the next one. -/
  one : Casing := .stop

def Cases.put (cases : Cases) (c : Char) : Char :=
  match cases.one, cases.all with
  | .upperOne, _ => c.toUpper
  | .lowerOne, _ => c.toLower
  | _, .upper => c.toUpper
  | _, .lower => c.toLower
  | _, _ => c

/-- Writes the parts of a replacement behind a text that is given in reverse. -/
def replace (group : Nat → List Char) : Cases → List Replacing → List Char → List Char
  | _, [], done => done
  | cases, .casing how :: rest, done =>
    let cases := match how with
      | .upperOne | .lowerOne => { cases with one := how }
      | .upper | .lower => { cases with all := how }
      | .stop => {}
    replace group cases rest done
  | cases, .text c :: rest, done =>
    replace group { cases with one := .stop } rest (cases.put c :: done)
  | cases, .group n :: rest, done =>
    let (cases, done) := (group n).foldl (fun ((cases, done) : Cases × List Char) c =>
      ({ cases with one := .stop }, cases.put c :: done)) (cases, done)
    replace group cases rest done

/-- Replaces matches from a place on.  How many there were so far, where the last one ended and the
text so far in reverse are given; the answer is the new text, if it is one. -/
def replaceFrom (s : Substitution) (text : Array Char) :
    Nat → Nat → Nat → Option Nat → Bool → List Char → Step (Option (List Char))
  | 0, _, _, _, _, _ => return none
  | fuel + 1, start, count, lastEnd, replaced, done => do
    let upTo := fun (a b : Nat) (done : List Char) => (text.extract a b).toList.reverse ++ done
    let all := fun (place : Nat) (replaced : Bool) (done : List Char) =>
      if replaced then some (upTo place text.size done).reverse else none
    let found ← if start ≤ text.size then search s.re s.folds text start else pure none
    match found with
    | none => return all start replaced done
    | some (b, p) =>
      let e := p.place
      let done := upTo start b done
      if b = e && lastEnd = some b then
        replaceFrom s text fuel (b + 1) count none replaced (upTo b (b + 1) done)
      else
        let count := count + 1
        let chosen := s.first ≤ count
        let group := fun n : Nat =>
          if n = 0 then (text.extract b e).toList else (Regex.groupText text p n).getD []
        let done := if chosen then replace group {} s.replacement done else upTo b e done
        if chosen && !s.all then return all e true done
        else if b = e then
          replaceFrom s text fuel (b + 1) count none (replaced || chosen) (upTo b (b + 1) done)
        else replaceFrom s text fuel e count (some e) (replaced || chosen) done

def outletOf (name : Octets) : Step Outlet := do
  return ((← get).task.outlets.lookup name).getD .regular

def substitute (s : Substitution) : Step Unit := do
  let text := (← get).space.text.toArray
  -- An expression that is not there is looked up once, so that it stays the same.
  let last := (← get).lastUsed
  let s := { s with
    re := s.re <|> last.map (·.1)
    folds := if s.re.isSome then s.folds else (last.map (·.2)).getD s.folds }
  match ← replaceFrom s text (text.size + 2) 0 0 none false [] with
  | none => return
  | some text =>
    modify fun e => { e with space := { e.space with text }, replaced := true }
    if s.prints then putSpace .regular
    match s.file with
    | some name => putSpace (← outletOf name)
    | none => return

/-! ## Showing visibly -/

def visible (c : Char) : List Char :=
  if c = '\\' then ['\\', '\\']
  else if Quoting.prints c then [c]
  else Quoting.escape c

/-- The text of visible bytes in lines of a width; one of zero or one does not limit them. -/
def wrapped (width : Nat) (text : List Char) : List Char :=
  let (done, _) := text.foldl (fun ((done, column) : List Char × Nat) c =>
    let shown := visible c
    if 1 < width && width - 1 < column + shown.length then
      (shown.reverse ++ '\n' :: '\\' :: done, shown.length)
    else (shown.reverse ++ done, column + shown.length)) ([], 0)
  done.reverse ++ ['$', '\n']

/-! ## Running -/

/-- What is done after an instruction. -/
inductive Next where
  | onwards
  | goTo (place : Nat)
  /-- The script begins again, with the next line if one is to be read. -/
  | cycle (reads : Bool)

/-- Ends the editor with the pattern space as the last thing that is shown. -/
def stop {α : Type} (status : Option Nat) (prints : Bool) : Step α := do
  if prints then showSpace
  putAppendices
  closeFile
  throw (status.getD (← get).status)

def branch (label : Octets) : Step Next := do
  let script := (← get).task.script
  return .goTo <| if label.isEmpty then script.instructions.size
    else (script.labels.lookup label).getD script.instructions.size

def appendBehind (appendix : Appendix) : Step Unit := modify fun e =>
  { e with appendices := appendix :: e.appendices }

def nextRow (name : Octets) : Step (Option Octets) := do
  let octets ← match (← get).rows.lookup name with
    | some octets => pure octets
    | none =>
      let answer : Except Fault (List Char) ← (Run.readPath name : Run _)
      pure (answer.toOption.getD [])
  let line := octets.takeWhile (· != '\n')
  let line := octets.take (line.length + 1)
  modify fun e => { e with
    rows := (name, octets.drop line.length) :: e.rows.filter fun row => row.1 != name }
  return if line.isEmpty then none else some (String.ofList line)

def changeText (change : List Char → List Char) : Step Unit := modify fun e =>
  { e with space := { e.space with text := change e.space.text } }

def perform (place : Nat) (i : Instruction) : Step Next := do
  let e ← get
  let delimiter := e.task.delimiter
  let firstLine := e.space.text.takeWhile (· != delimiter)
  let firstEnded := e.space.ended || firstLine.length != e.space.text.length
  match i.action with
  | .open_ _ | .close | .label => return .onwards
  | .append text =>
    appendBehind (.text text)
    return .onwards
  | .insert text =>
    put text
    return .onwards
  | .change text =>
    if e.reaches[place]?.getD .idle = .idle then put text
    return .cycle true
  | .branch label => branch label
  | .branchIfReplaced label =>
    modify fun e => { e with replaced := false }
    if e.replaced then branch label else return .onwards
  | .branchUnlessReplaced label =>
    modify fun e => { e with replaced := false }
    if e.replaced then return .onwards else branch label
  | .delete => return .cycle true
  | .deleteFirst =>
    let whole := firstLine.length = e.space.text.length
    if !whole then changeText (·.drop (firstLine.length + 1))
    return .cycle whole
  | .showFile =>
    put (e.current ++ "\n")
    return .onwards
  | .get appends =>
    let text := if appends then e.space.text ++ delimiter :: e.held.text else e.held.text
    set { e with space := { e.held with text } }
    return .onwards
  | .hold appends =>
    let text := if appends then e.held.text ++ delimiter :: e.space.text else e.space.text
    set { e with held := { e.space with text } }
    return .onwards
  | .exchange =>
    set { e with space := e.held, held := e.space }
    return .onwards
  | .showVisibly width =>
    put (String.ofList (wrapped (width.getD e.task.width) e.space.text))
    return .onwards
  | .next =>
    if ← isLast then stop none true
    showSpace
    if ← readSpace false then return .onwards else stop none false
  | .appendNext =>
    if ← isLast then stop none true
    if ← readSpace true then return .onwards else stop none false
  | .print =>
    putSpace .regular
    return .onwards
  | .printFirst =>
    putLine .regular firstLine firstEnded
    return .onwards
  | .quit status prints => stop (some status) prints
  | .readFile name =>
    appendBehind (.file name)
    return .onwards
  | .readLine name =>
    if let some row ← nextRow name then appendBehind (.text row)
    return .onwards
  | .substitute s =>
    substitute s
    return .onwards
  | .writeFile name =>
    putSpace (← outletOf name)
    return .onwards
  | .writeFirst name =>
    putLine (← outletOf name) firstLine firstEnded
    return .onwards
  | .map pairs =>
    changeText (·.map fun c => (pairs.lookup c).getD c)
    return .onwards
  | .showNumber =>
    put (Numeral.decimal e.number ++ "\n")
    return .onwards
  | .empty =>
    changeText fun _ => []
    return .onwards

/-- Runs the script from an instruction on, and then again for the lines that follow. -/
def run : Nat → Nat → Step Unit
  | 0, _ => return
  | fuel + 1, place => do
    match (← get).task.script.instructions[place]? with
    | none =>
      showSpace
      nextCycle fuel true
    | some i =>
      if ← concerns place i then
        match ← perform place i with
        | .onwards => run fuel (place + 1)
        | .goTo place => run fuel place
        | .cycle reads => nextCycle fuel reads
      else
        match i.action with
        | .open_ finish => run fuel (finish + 1)
        | _ => run fuel (place + 1)
where
  nextCycle (fuel : Nat) (reads : Bool) : Step Unit := do
    if reads then
      if ← readSpace false then run fuel 0 else stop none false
    else run fuel 0

/-! ## The program -/

def shapes : OptionShapes :=
  [⟨'n', "quiet", .no⟩, ⟨'n', "silent", .no⟩, ⟨'e', "expression", .yes⟩, ⟨'f', "file", .yes⟩,
   ⟨'E', "regexp-extended", .no⟩, ⟨'r', "regexp-extended", .no⟩, ⟨'i', "in-place", .maybe⟩,
   ⟨'l', "line-length", .yes⟩, ⟨'s', "separate", .no⟩, ⟨'u', "unbuffered", .no⟩,
   ⟨'z', "null-data", .no⟩, ⟨'b', "binary", .no⟩, ⟨'\x01', "posix", .no⟩,
   ⟨'\x01', "follow-symlinks", .no⟩, ⟨'\x01', "sandbox", .no⟩, OptionShapes.help,
   OptionShapes.version]

/-- A part of a script: its text, and how complaints call places in it. -/
structure Part where
  text : List Char
  named : Nat → Octets

def partOfOption (number : Nat) (text : Octets) : Part :=
  let named := fun place : Nat =>
    "-e expression #" ++ Numeral.decimal number ++ ", char " ++ Numeral.decimal place ++ ": "
  { text := text.toList, named }

/-- Reads the parts of the script; none after a complaint. -/
def readParts : Nat → List GivenOption → Run (Option (List Part))
  | _, [] => return some []
  | number, ('e', value) :: rest => do
    let part := partOfOption number (value.getD "")
    let others ← readParts (number + 1) rest
    -- A text that is to go on does so in the next part.
    let open_ := (part.text.reverse.takeWhile (· = '\\')).length % 2 = 1
    return others.map fun others =>
      match others with
      | next :: after =>
        if open_ then { part with text := part.text ++ '\n' :: next.text } :: after
        else part :: others
      | [] => [part]
  | number, ('f', value) :: rest => do
    let name := value.getD ""
    match ← Tool.input name with
    | .error fault =>
      Run.complain ("sed: couldn't open file " ++ name ++ ": " ++ fault.description)
      return none
    | .ok octets =>
      let named := fun place : Nat =>
        let line := (octets.take (place - 1)).count '\n' + 1
        "file " ++ name ++ " line " ++ Numeral.decimal line ++ ": "
      let text := if octets.getLast? = some '\n' then octets.dropLast else octets
      let others ← readParts number rest
      return others.map ({ text, named } :: ·)
  | number, _ :: rest => readParts number rest

def readScript (extended : Bool) : EditScript → List Part → Except Octets EditScript
  | script, [] =>
    if script.blocks.isEmpty then .ok script
    else .error "-e expression #1, char 0: unmatched \x60\x7b'"
  | script, part :: rest =>
    match script.read extended part.text with
    | .ok script => readScript extended script rest
    | .error (text, place) => .error (part.named place ++ text)

/-- A label that is gone to and is not there. -/
def missingLabel? (script : EditScript) : Option Octets :=
  script.instructions.toList.findSome? fun i =>
    let missing := fun label : Octets =>
      if label.isEmpty || (script.labels.lookup label).isSome then none else some label
    match i.action with
    | .branch label | .branchIfReplaced label | .branchUnlessReplaced label => missing label
    | _ => none

def writtenFiles (script : EditScript) : List Octets :=
  (script.instructions.toList.filterMap fun i =>
    match i.action with
    | .writeFile name | .writeFirst name => some name
    | .substitute s => s.file
    | _ => none).eraseDups

/-- Opens the files that a script writes, which get descriptors of their own. -/
def openOutlets (inPlace : Bool) : Nat → List Octets → Run (Option (List (Octets × Outlet)))
  | _, [] => return some []
  | n, name :: rest => do
    let outlet? ← match name with
      | "/dev/stdout" => pure (some (if inPlace then .descriptor 1 else .regular))
      | "/dev/stderr" => pure (some (.descriptor 2))
      | _ =>
        match ← Run.openPath { writes := true, creates := true, truncates := true } name with
        | .ok index =>
          Run.setDescriptor n (some index)
          pure (some (Outlet.descriptor n))
        | .error fault =>
          Run.complain ("sed: couldn't open file " ++ name ++ ": " ++ fault.description)
          pure none
    match outlet? with
    | none => return none
    | some outlet =>
      let others ← openOutlets inPlace (n + 1) rest
      return others.map ((name, outlet) :: ·)

/-- The descriptor of the first file that is written. -/
def firstOutlet : Nat := 1000

def usage : Run Nat := do
  Run.complain
    "Usage: sed [OPTION]... \x7bscript-only-if-no-other-script\x7d [input-file]..."
  return 1

def stepLimit : Nat := 1000000000000

/-- Gives back to the input what was not needed of it. -/
def giveBack (e : Editor) : Run Unit := do
  if e.current = "-" then Tool.giveBack e.unread []

def edit (given : Given) (parts : List Part) (files : List Octets) : Run Nat := do
  let extended := given.has 'E' || given.has 'r'
  let quietStart := match parts with
    | part :: _ => part.text = ['#', 'n'] || ['#', 'n', '\n'].isPrefixOf part.text
    | [] => false
  let refuse := fun (status : Nat) (text : Octets) => do
    Run.complain ("sed: " ++ text)
    return status
  match readScript extended {} parts with
  | .error text => refuse 1 text
  | .ok script =>
    match missingLabel? script with
    | some label => refuse 4 ("can't find label for jump to \x60" ++ label ++ "'")
    | none =>
      let inPlace := if given.has 'i' then some ((given.value? 'i').getD "") else none
      match ← openOutlets inPlace.isSome firstOutlet (writtenFiles script) with
      | none => return 4
      | some outlets =>
        let width := (given.value? 'l').bind fun text => Numeral.natural? text.toList
        let task : Task :=
          { script, quiet := given.has 'n' || quietStart
            separate := given.has 's' || inPlace.isSome
            inPlace, outlets, width := width.getD 70
            delimiter := if given.has 'z' then '\x00' else '\n' }
        let files := if files.isEmpty then ["-"] else files
        let (answer, e) ← (run.nextCycle stepLimit true).run.run
          { task, files, reaches := initialReaches script }
        giveBack e
        return match answer with
          | .ok _ => e.status
          | .error status => status

def sed : Tool := fun _ name words => do
  match shapes.read true (words.length + 1) words with
  | .error text =>
    Tool.complain name text
    usage
  | .ok given =>
    if given.has OptionShapes.help.letter then
      Tool.showUsage name
      return 0
    else if given.has OptionShapes.version.letter then
      Tool.showRelease name
      return 0
    else if given.has 'e' || given.has 'f' then
      match ← readParts 1 given.options with
      | none => return 4
      | some parts => edit given parts given.operands
    else
      match given.operands with
      | [] => usage
      | script :: files => edit given [partOfOption 1 script] files

end Editing
end Shell
end LineShell
