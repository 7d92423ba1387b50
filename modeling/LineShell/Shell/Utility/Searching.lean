import LineShell.Shell.Paths
import LineShell.Shell.Utility.Options
import LineShell.Shell.Utility.Regex
import LineShell.Shell.Utility.Showing

/-!
# The program that searches for lines

`grep` shows the lines of its operands, or of its input, that one of its patterns matches.  It can
show the lines around them, the matches alone, how many there are, or only in which files they
are.
-/

namespace LineShell
namespace Shell
namespace Searching

/-- What is shown of a file. -/
inductive Report where
  | lines
  | matches
  | count
  /-- The name of a file with a line that is wanted, or of one without. -/
  | names (found : Bool)
  | nothing
  deriving DecidableEq, Repr

structure Wish where
  patterns : List Regex
  folds : Bool
  wholeWords : Bool
  wholeLines : Bool
  inverted : Bool
  report : Report
  named : Bool
  numbered : Bool
  offsets : Bool
  most : Option Nat
  before : Nat
  after : Nat
  /-- Whether there are lines around those that are wanted. -/
  context : Bool
  asText : Bool
  /-- Whether a file that is no text counts as one without matches. -/
  textOnly : Bool
  silent : Bool
  /-- The byte that lines end with. -/
  stop : Char
  /-- Whether a zero byte follows the name of a file, in the place of any other sign. -/
  cutNames : Bool

/-! ## Matches -/

/-- The end of a pattern's match that begins at a place, as far as words and lines allow. -/
def endAt (w : Wish) (text : Array Char) (place : Nat) (re : Regex) : Option Nat :=
  let ends := (Regex.ends w.folds text re { place }).map (·.place)
  let ends := if w.wholeLines then ends.filter fun e => place = 0 && e = text.size
    else if w.wholeWords then
      ends.filter fun e => !Regex.wordBefore text place && !Regex.wordAt text e
    else ends
  ends.foldl (fun best e => some (max (best.getD 0) e)) none

/-- The first of the longest matches from a place on: where it begins and ends. -/
def firstMatch (w : Wish) (text : Array Char) (start : Nat) : Option (Nat × Nat) :=
  ((List.range (text.size + 1)).drop start).findSome? fun place =>
    let ends := w.patterns.filterMap (endAt w text place)
    (ends.foldl (fun best e => some (max (best.getD 0) e)) none).map fun e => (place, e)

/-- All matches from a place on that are not empty. -/
def allMatches (w : Wish) (text : Array Char) : Nat → Nat → List (Nat × Nat)
  | 0, _ => []
  | fuel + 1, start =>
    match firstMatch w text start with
    | none => []
    | some (b, e) =>
      if b = e then (if e < text.size then allMatches w text fuel (e + 1) else [])
      else (b, e) :: allMatches w text fuel e

def isWanted (w : Wish) (line : List Char) : Bool :=
  (firstMatch w line.toArray 0).isSome != w.inverted

/-! ## Files -/

/-- A line with its number and the place where it begins. -/
structure NumberedLine where
  number : Nat
  offset : Nat
  text : List Char

def numberLines (lines : List (List Char)) : List NumberedLine :=
  let (numbered, _, _) := lines.foldl (fun (done, number, offset) text =>
    ({ number, offset, text } :: done, number + 1, offset + text.length + 1)) ([], 1, 0)
  numbered.reverse

def front (w : Wish) (name : Octets) (sign : String) (number offset : Nat) : Octets :=
  (if w.named then name ++ (if w.cutNames then "\x00" else sign) else "") ++
    (if w.numbered then Numeral.decimal number ++ sign else "") ++
    (if w.offsets then Numeral.decimal offset ++ sign else "")

/-- What is known between two lines of a file. -/
structure Progress where
  /-- How many lines were wanted. -/
  found : Nat := 0
  /-- The lines before, which may still be shown, the last one first. -/
  held : List NumberedLine := []
  /-- How many lines after are still to be shown. -/
  owed : Nat := 0
  /-- The number of the last line that was shown. -/
  shown : Nat := 0
  /-- Whether any line of any file was shown. -/
  any : Bool := false

def emitLine (w : Wish) (text : Octets) : Run Unit := Run.emit (text.push w.stop)

def showLine (w : Wish) (name : Octets) (sign : String) (line : NumberedLine) : Run Unit :=
  emitLine w (front w name sign line.number line.offset ++ String.ofList line.text)

def showWanted (w : Wish) (name : Octets) (p : Progress) (line : NumberedLine) : Run Progress := do
  match w.report with
  | .lines =>
    let held := p.held.reverse
    let first := (held.head?.map (·.number)).getD line.number
    if w.context && p.any && p.shown + 1 != first then Run.emitLine "--"
    held.forM (showLine w name "-")
    showLine w name ":" line
  | .matches =>
    if !w.inverted then
      let text := line.text.toArray
      for (b, e) in allMatches w text (text.size + 1) 0 do
        let found := String.ofList (text.extract b e).toList
        emitLine w (front w name ":" line.number (line.offset + b) ++ found)
  | _ => pure ()
  return { p with
    found := p.found + 1, held := [], owed := w.after, shown := line.number, any := true }

/-- Whether a class of bytes stands in an expression without brackets around it. -/
def hasBareClass : Nat → List Char → Bool
  | 0, _ | _, [] => false
  | fuel + 1, '\\' :: rest => hasBareClass fuel (rest.drop 1)
  | fuel + 1, '[' :: rest =>
    let inside := rest.takeWhile (· != ']')
    if inside.head? = some ':' && 1 < inside.length && inside.getLast? = some ':' then true
    else
      match Regex.set rest with
      | .ok (_, rest) => hasBareClass fuel rest
      | .error _ => false
  | fuel + 1, _ :: rest => hasBareClass fuel rest

def searchLines (w : Wish) (name : Octets) : Progress → List NumberedLine → Run Progress
  | p, [] => return p
  | p, line :: rest => do
    let full := w.most.any (· ≤ p.found)
    if full && p.owed = 0 then return p
    else if !full && isWanted w line.text then
      let p ← showWanted w name p line
      if w.report = .nothing || w.report = .names true then return p
      searchLines w name p rest
    else if 0 < p.owed && w.report = .lines then
      showLine w name "-" line
      searchLines w name { p with owed := p.owed - 1, shown := line.number } rest
    else searchLines w name { p with held := (line :: p.held).take w.before, owed := 0 } rest

/-- Searches the bytes of a file; the answer is whether a line was wanted, and whether one was
shown. -/
def searchBytes (w : Wish) (any : Bool) (name : Octets) (octets : List Char) :
    Run (Bool × Bool) := do
  let lines := numberLines (Tool.records w.stop octets)
  let binary := !w.asText && octets.contains '\x00'
  let w :=
    if binary && (w.report = .lines || w.report = .matches) then { w with report := .nothing }
    else w
  let p ← if w.most = some 0 || binary && w.textOnly then pure ({ any } : Progress)
    else searchLines w name { any } lines
  let found := 0 < p.found
  match w.report with
  | .count =>
    let sign := if w.cutNames then "\x00" else ":"
    Run.emitLine ((if w.named then name ++ sign else "") ++ Numeral.decimal p.found)
  | .names wanted => if found = wanted then Run.emit (name ++ if w.cutNames then "\x00" else "\n")
  | _ => pure ()
  return (found, p.any)

def complain (w : Wish) (name : Octets) (fault : Fault) : Run Unit := do
  if !w.silent then Run.complain ("grep: " ++ name ++ ": " ++ fault.description)

/-- Whether bytes are no text, so that a match in them is only told. -/
def isBinary (w : Wish) (octets : List Char) : Bool :=
  !w.asText && (w.report = .lines || w.report = .matches) && octets.contains '\x00'

/-- Searches files one after the other: whether a line was wanted, and whether there was a fault. -/
def searchAll (w : Wish) : Bool → List Octets → Run (Bool × Bool)
  | _, [] => return (false, false)
  | any, path :: others => do
    let name := if path = "-" then "(standard input)" else path
    match ← Tool.input path with
    | .error fault =>
      complain w path fault
      let (found, _) ← searchAll w any others
      return (found, true)
    | .ok octets =>
      let (found, any) ← searchBytes w any name octets
      if found && w.report = .nothing then return (true, false)
      if found && isBinary w octets then
        Run.complain ("grep: " ++ name ++ ": binary file matches")
      let (more, failed) ← searchAll w any others
      return (found || more, failed)

/-! ## Directories -/

def filesBelow (wanted descends : Octets → Bool) : Nat → Octets → Run (List Octets)
  | 0, _ => return []
  | fuel + 1, path => do
    let isDirectory := (← Run.nodeAt true path).toOption.any Node.isDirectory
    if !isDirectory then return [path]
    match ← Run.namesIn path with
    | .error _ => return [path]
    | .ok names =>
      let inside ← names.mapM fun name => do
        let whole := if path = "." then name else if path.endsWith "/" then path ++ name
          else path ++ "/" ++ name
        match ← Run.nodeAt false whole with
        | .ok (.directory _) =>
          if descends name then filesBelow wanted descends fuel whole else return []
        | .ok (.file _) => return if wanted name then [whole] else []
        | _ => return []
      return inside.flatten

/-! ## Options -/

def shapes : OptionShapes :=
  [⟨'E', "extended-regexp", .no⟩, ⟨'F', "fixed-strings", .no⟩, ⟨'G', "basic-regexp", .no⟩,
   ⟨'P', "perl-regexp", .no⟩, ⟨'e', "regexp", .yes⟩, ⟨'f', "file", .yes⟩, ⟨'i', "ignore-case", .no⟩,
   ⟨'y', "", .no⟩, ⟨'v', "invert-match", .no⟩, ⟨'w', "word-regexp", .no⟩,
   ⟨'x', "line-regexp", .no⟩, ⟨'c', "count", .no⟩, ⟨'l', "files-with-matches", .no⟩,
   ⟨'L', "files-without-match", .no⟩, ⟨'m', "max-count", .yes⟩, ⟨'o', "only-matching", .no⟩,
   ⟨'q', "quiet", .no⟩, ⟨'q', "silent", .no⟩, ⟨'s', "no-messages", .no⟩,
   ⟨'b', "byte-offset", .no⟩, ⟨'n', "line-number", .no⟩, ⟨'H', "with-filename", .no⟩,
   ⟨'h', "no-filename", .no⟩, ⟨'A', "after-context", .yes⟩, ⟨'B', "before-context", .yes⟩,
   ⟨'C', "context", .yes⟩, ⟨'r', "recursive", .no⟩, ⟨'R', "dereference-recursive", .no⟩,
   ⟨'a', "text", .no⟩, ⟨'I', "", .no⟩, ⟨'T', "initial-tab", .no⟩, ⟨'d', "directories", .yes⟩,
   ⟨'Z', "null", .no⟩, ⟨'\x01', "color", .maybe⟩, ⟨'\x01', "colour", .maybe⟩,
   ⟨'\x02', "include", .yes⟩, ⟨'\x03', "exclude", .yes⟩, ⟨'\x04', "exclude-dir", .yes⟩,
   ⟨'U', "binary", .no⟩, ⟨'\x05', "line-buffered", .no⟩, ⟨'z', "null-data", .no⟩,
   ⟨'V', "version", .no⟩, OptionShapes.help]

def usage : Run Nat := do
  Run.complain "Usage: grep [OPTION]... PATTERNS [FILE]..."
  Run.complain "Try 'grep --help' for more information."
  return 2

/-- Reads a number that an option was given; none after a complaint. -/
def number (given : Given) (letter : Char) (complaint : Octets → Octets) :
    Run (Option (Option Nat)) := do
  match given.value? letter with
  | none => return some none
  | some text =>
    match Numeral.natural? text.toList with
    | some n => return some (some n)
    | none =>
      Run.complain ("grep: " ++ complaint text)
      return none

/-- The texts of the patterns, of which each line is one; none after a complaint. -/
def patternTexts (given : Given) : Run (Option (List (List Char) × List Octets)) := do
  let explicit := given.has 'e' || given.has 'f'
  let texts := given.options.filterMap fun (letter, value) => if letter = 'e' then value else none
  let fromFiles ← (given.options.filter fun option => option.1 = 'f').mapM fun option => do
    let path := option.2.getD ""
    match ← Tool.input path with
    | .ok octets => return some (Tool.lines octets)
    | .error fault =>
      Run.complain ("grep: " ++ path ++ ": " ++ fault.description)
      return none
  match fromFiles.mapM id with
  | none => return none
  | some fromFiles =>
    let split := fun text : Octets => (text.splitOn "\n").map (·.toList)
    if explicit then return some (texts.flatMap split ++ fromFiles.flatten, given.operands)
    else
      match given.operands with
      | [] => return some ([], [])
      | first :: rest => return some (split first, rest)

/-- Turns the old way to ask for lines around a line into the new one. -/
def withOldContext (words : List Octets) : List Octets :=
  words.map fun word =>
    match word.toList with
    | '-' :: digits =>
      if (Numeral.natural? digits).isSome then "-C" ++ String.ofList digits else word
    | _ => word

def reportOf (given : Given) : Report :=
  if given.has 'q' then .nothing
  else
    match given.last? ['l', 'L'] with
    | some 'l' => .names true
    | some _ => .names false
    | none => if given.has 'c' then .count else if given.has 'o' then .matches else .lines

def search (given : Given) (patterns : List Regex) (operands : List Octets)
    (most before after : Option Nat) (context : Option Nat) : Run Nat := do
  let deep := given.has 'r' || given.has 'R' || given.value? 'd' = some "recurse"
  let operands := if !operands.isEmpty then operands else if deep then ["."] else ["-"]
  let matchesAny := fun (letter : Char) (name : Octets) =>
    (given.options.filter fun option => option.1 = letter).any fun option =>
      Pattern.accepts (Pattern.ofText (option.2.getD "")) name.toList
  let wanted := fun name => (!given.has '\x02' || matchesAny '\x02' name) && !matchesAny '\x03' name
  let paths ← if deep then
      List.flatten <$> operands.mapM (filesBelow wanted (fun name => !matchesAny '\x04' name) 1000)
    else if given.value? 'd' = some "skip" then
      operands.filterM fun path => do
        return !(← Run.nodeAt true path).toOption.any Node.isDirectory
    else pure operands
  let first ← Run.nodeAt true (operands.headD "")
  let several := 1 < operands.length || deep && first.toOption.any Node.isDirectory
  let named := match given.last? ['H', 'h'] with
    | some 'H' => true
    | some _ => false
    | none => several
  let w : Wish :=
    { patterns
      folds := given.has 'i' || given.has 'y'
      wholeWords := given.has 'w'
      wholeLines := given.has 'x'
      inverted := given.has 'v'
      report := reportOf given
      named
      numbered := given.has 'n'
      offsets := given.has 'b'
      most
      before := (before <|> context).getD 0
      after := (after <|> context).getD 0
      context := (before <|> after <|> context).isSome
      asText := given.has 'a' || given.has 'z'
      textOnly := given.has 'I'
      silent := given.has 's'
      stop := Tool.stopOf (given.has 'z')
      cutNames := given.has 'Z' }
  let (found, failed) ← searchAll w false paths
  return if failed then 2 else if found then 0 else 1

def prepare (extended : Bool) (given : Given) : Run Nat := do
  let badContext := fun text : Octets => text ++ ": invalid context length argument"
  let some most ← number given 'm' fun _ => "invalid max count" | return 2
  let some after ← number given 'A' badContext | return 2
  let some before ← number given 'B' badContext | return 2
  let some context ← number given 'C' badContext | return 2
  let some (texts, operands) ← patternTexts given | return 2
  if texts.isEmpty && !given.has 'f' then usage
  else
    let kind := (given.last? ['E', 'F', 'G', 'P']).getD (if extended then 'E' else 'G')
    let isExtended := kind = 'E' || kind = 'P'
    let read := texts.mapM fun text =>
      if kind = 'F' then .ok (Regex.literal text) else Regex.ofText isExtended true text
    if isExtended && texts.any fun text => text.head? = some '*' then
      Run.complain "grep: warning: * at start of expression"
    if kind != 'F' && texts.any fun text => hasBareClass (text.length + 1) text then
      Run.complain "grep: character class syntax is [[:space:]], not [:space:]"
      return 2
    match read with
    | .error problem =>
      Run.complain ("grep: " ++ problem.message)
      return 2
    | .ok patterns => search given patterns operands most before after context

def grepWith (extended : Bool) (front : List Octets) : Tool := fun _ name words => do
  let words := front ++ withOldContext words
  match shapes.read true (words.length + 1) words with
  | .ok given =>
    if given.has OptionShapes.help.letter then
      Tool.showUsage name
      return 0
    else if given.has 'V' then
      Tool.showRelease name
      return 0
    else prepare extended given
  | .error text =>
    Run.complain ("grep: " ++ text)
    usage

def grep : Tool := grepWith false []

def egrep : Tool := grepWith true []

def fgrep : Tool := grepWith false ["-F"]

end Searching
end Shell
end LineShell
