import LineShell.Shell.Streams
import LineShell.Shell.Utility.Regex

/-!
# Scripts of the stream editor

A script is a row of instructions, each with the lines that it is for.  Blocks are instructions that
know where they end, so that a script needs no nesting.
-/

namespace LineShell
namespace Shell
namespace Editing

/-- Where an instruction begins or ends to be done. -/
inductive Address where
  | line (n : Nat)
  /-- A line, and each one so many lines after it. -/
  | step (first step : Nat)
  | last
  /-- A line that an expression matches; none stands for the expression that was used last. -/
  | matching (re : Option Regex) (folds : Bool)
  /-- So many lines after the first one. -/
  | further (n : Nat)
  /-- Up to a line whose number is a multiple. -/
  | multiple (n : Nat)
  deriving Inhabited

/-- How letters that follow are changed. -/
inductive Casing where
  | upper
  | lower
  | upperOne
  | lowerOne
  | stop
  deriving DecidableEq, Repr

/-- A part of what is put in place of a match. -/
inductive Replacing where
  | text (c : Char)
  | group (n : Nat)
  | casing (how : Casing)

structure Substitution where
  re : Option Regex
  folds : Bool := false
  replacement : List Replacing
  all : Bool := false
  prints : Bool := false
  /-- The number of the first match that is replaced. -/
  first : Nat := 1
  file : Option Octets := none

inductive Action where
  /-- Begins a block, which ends at an instruction. -/
  | open_ (finish : Nat)
  | close
  | label
  | append (text : Octets)
  | insert (text : Octets)
  | change (text : Octets)
  | branch (label : Octets)
  | branchIfReplaced (label : Octets)
  | branchUnlessReplaced (label : Octets)
  | delete
  | deleteFirst
  | showFile
  | get (appends : Bool)
  | hold (appends : Bool)
  | exchange
  /-- Shows bytes that do not print in letters, in lines of a width if it is given. -/
  | showVisibly (width : Option Nat)
  | next
  | appendNext
  | print
  | printFirst
  | quit (status : Nat) (prints : Bool)
  | readFile (name : Octets)
  | readLine (name : Octets)
  | substitute (s : Substitution)
  | writeFile (name : Octets)
  | writeFirst (name : Octets)
  /-- Puts other characters in place of some. -/
  | map (pairs : List (Char × Char))
  | showNumber
  | empty
  deriving Inhabited

structure Instruction where
  first : Option Address := none
  second : Option Address := none
  negated : Bool := false
  action : Action
  deriving Inhabited

structure EditScript where
  instructions : Array Instruction := #[]
  /-- The instructions that labels stand before. -/
  labels : List (Octets × Nat) := []
  /-- The blocks that are open, the innermost one first. -/
  blocks : List Nat := []

/-! ## Reading -/

/-- What is left of a text, and how much was read. -/
structure Source where
  rest : List Char
  read : Nat := 0
  script : EditScript := {}
  extended : Bool

/-- A step of reading, which may fail with a complaint and the place of its cause. -/
abbrev Reading := StateT Source (Except (String × Nat))

def refuse {α : Type} (text : String) : Reading α := do throw (text, (← get).read)

def peek : Reading (Option Char) := return (← get).rest.head?

/-- Takes the next character.  The end of the text counts as nothing that was read. -/
def take : Reading (Option Char) := modifyGet fun s =>
  match s.rest with
  | [] => (none, s)
  | c :: rest => (some c, { s with rest, read := s.read + 1 })

def skip (n : Nat) : Reading Unit := modify fun s =>
  { s with rest := s.rest.drop n, read := s.read + min n s.rest.length }

def takeWhile (belongs : Char → Bool) : Reading (List Char) := do
  let found := (← get).rest.takeWhile belongs
  skip found.length
  return found

def isBlank (c : Char) : Bool := c = ' ' || c = '\t'

def isSpace (c : Char) : Bool := isBlank c || c = '\n' || c = '\r' || c = '\x0b' || c = '\x0c'

def skipBlanks : Reading Unit := do let _ ← takeWhile isBlank

def number : Reading Nat := do return Numeral.value (← takeWhile Char.isDigit)

/-- Takes the text up to a delimiter, where a backslash keeps the delimiter from ending it.  In an
expression brackets do so too. -/
def delimited (delimiter : Char) (expression : Bool) :
    Nat → List Char → Reading (Option (List Char))
  | 0, _ => return none
  | fuel + 1, done => do
    match ← take with
    | none => return none
    | some c =>
      if c = delimiter then return some done.reverse
      else if c = '\\' then
        match ← take with
        | none => return none
        | some d =>
          if d = delimiter then delimited delimiter expression fuel (d :: done)
          else delimited delimiter expression fuel (d :: c :: done)
      else if c = '\n' && expression then return none
      else if c = '[' && expression then
        let inside ← bracket
        delimited delimiter expression fuel (inside.reverse ++ c :: done)
      else delimited delimiter expression fuel (c :: done)
where
  /-- Takes what is in brackets, with the closing one. -/
  bracket : Reading (List Char) := do
    let rest := (← get).rest
    let front := rest.takeWhile (· = '^')
    let front := front.take 1
    let after := rest.drop front.length
    let front := if after.head? = some ']' then front ++ [']'] else front
    let more := inner (rest.length + 1) (rest.drop front.length)
    match more with
    | some more =>
      skip (front.length + more.length)
      return front ++ more
    | none =>
      skip rest.length
      return rest
  inner : Nat → List Char → Option (List Char)
    | 0, _ => none
    | _, [] => none
    | _, ']' :: _ => some [']']
    | fuel + 1, '[' :: c :: rest =>
      if c = ':' || c = '.' || c = '=' then
        let name := rest.takeWhile (· != c)
        match rest.drop name.length with
        | _ :: ']' :: after =>
          (inner fuel after).map fun more => '[' :: c :: name ++ c :: ']' :: more
        | _ => (inner fuel (c :: rest)).map ('[' :: ·)
      else (inner fuel (c :: rest)).map ('[' :: ·)
    | fuel + 1, c :: rest => (inner fuel rest).map (c :: ·)

def bound : Nat := 1000000000

/-- Reads a byte that is given by its number, behind a backslash. -/
def byteEscape? : List Char → Option (Char × List Char)
  | 'x' :: rest => ofDigits 16 2 (fun c => c.isDigit || "abcdefABCDEF".toList.contains c) rest
  | 'o' :: rest => ofDigits 8 3 (fun c => '0' ≤ c && c ≤ '7') rest
  | 'd' :: rest => ofDigits 10 3 Char.isDigit rest
  | 'c' :: c :: rest => some (Char.ofNat (c.toUpper.toNat ^^^ 0x40), rest)
  | _ => none
where
  ofDigits (base most : Nat) (isDigit : Char → Bool) (text : List Char) :
      Option (Char × List Char) :=
    let digits := (text.take most).takeWhile isDigit
    if digits.isEmpty then none
    else
      let value := digits.foldl (fun n c => base * n + digitValue c) 0
      some (Char.ofNat (value % 256), text.drop digits.length)
  digitValue (c : Char) : Nat :=
    if c.isDigit then c.toNat - '0'.toNat else c.toLower.toNat - 'a'.toNat + 10

/-- Puts bytes in place of their numbers.  Those that have a meaning keep the backslash. -/
def withBytes : Nat → List Char → List Char
  | 0, text => text
  | _, [] => []
  | fuel + 1, '\\' :: c :: rest =>
    match byteEscape? (c :: rest) with
    | some (byte, after) =>
      let special := "*.[]^$\\/+?|()\x7b\x7d".toList.contains byte
      (if special then ['\\', byte] else [byte]) ++ withBytes fuel after
    | none => '\\' :: c :: withBytes fuel rest
  | fuel + 1, c :: rest => c :: withBytes fuel rest

/-- Reads an expression; an empty one stands for the one that was used last. -/
def expression (text : List Char) : Reading (Option Regex) := do
  if text.isEmpty then return none
  match Regex.ofText (← get).extended false (withBytes text.length text) with
  | .ok re => return some re
  | .error problem => refuse problem.message

def address : Reading (Option Address) := do
  match ← peek with
  | some '$' =>
    skip 1
    return some .last
  | some '/' =>
    skip 1
    matching '/'
  | some '\\' =>
    skip 1
    match ← take with
    | some delimiter => matching delimiter
    | none => refuse "unterminated address regex"
  | some c =>
    if !c.isDigit then return none
    let n ← number
    skipBlanks
    if (← peek) = some '~' then
      skip 1
      return some (.step n (← number))
    else return some (.line n)
  | none => return none
where
  matching (delimiter : Char) : Reading (Option Address) := do
    match ← delimited delimiter true bound [] with
    | none => refuse "unterminated address regex"
    | some text =>
      let flags ← takeWhile fun c => c = 'I' || c = 'M'
      return some (.matching (← expression text) (flags.contains 'I'))

def secondAddress : Reading Address := do
  let _ ← takeWhile isSpace
  match ← peek with
  | some '+' =>
    skip 1
    return .further (← number)
  | some '~' =>
    skip 1
    return .multiple (← number)
  | _ =>
    match ← address with
    | some address => return address
    | none =>
      skip 1
      refuse "unexpected \x60,'"

/-- Reads what may follow an instruction: a line feed, a semicolon, the end of a block or a
comment. -/
def finish : Reading Unit := do
  skipBlanks
  match ← peek with
  | none | some '\x7d' | some '#' => return
  | some c =>
    skip 1
    if c != ';' && c != '\n' && c != '\r' then refuse "extra characters after command"

def fileName : Reading Octets := do
  skipBlanks
  let name ← takeWhile (· != '\n')
  if name.isEmpty then refuse "missing filename in r/R/w/W commands"
  return String.ofList name

/-- Reads a label, which ends at a blank or a semicolon. -/
def label : Reading Octets := do
  skipBlanks
  let name ← takeWhile fun c => !isSpace c && c != ';'
  return String.ofList name

/-- Reads lines of text up to one that does not end in a backslash. -/
def textLines : Nat → List Char → Reading (List Char)
  | 0, done => return done.reverse
  | fuel + 1, done => do
    match ← take with
    | none | some '\n' => return ('\n' :: done).reverse
    | some '\\' =>
      match ← take with
      | none => return ('\n' :: done).reverse
      | some c => textLines fuel (c :: done)
    | some c => textLines fuel (c :: done)

def text : Reading Octets := do
  skipBlanks
  match ← peek with
  | none => refuse "expected \\ after \x60a', \x60c' or \x60i'"
  | some '\\' =>
    skip 1
    let blanks ← takeWhile isBlank
    match ← peek with
    | none => return ""
    | some '\n' =>
      skip 1
      return String.ofList (← textLines bound [])
    | some _ => return String.ofList (← textLines bound blanks.reverse)
  | some _ => return String.ofList (← textLines bound [])

def replacing : Nat → List Char → List Replacing
  | 0, _ | _, [] => []
  | fuel + 1, '\\' :: c :: rest =>
    if let some (byte, after) := byteEscape? (c :: rest) then
      .text byte :: replacing fuel after
    else
    let part : Replacing :=
      if c.isDigit then .group (c.toNat - '0'.toNat)
      else match c with
        | 'n' => .text '\n'
        | 't' => .text '\t'
        | 'a' => .text '\x07'
        | 'f' => .text '\x0c'
        | 'v' => .text '\x0b'
        | 'r' => .text '\r'
        | 'U' => .casing .upper
        | 'L' => .casing .lower
        | 'u' => .casing .upperOne
        | 'l' => .casing .lowerOne
        | 'E' => .casing .stop
        | _ => .text c
    part :: replacing fuel rest
  | fuel + 1, '&' :: rest => .group 0 :: replacing fuel rest
  | fuel + 1, c :: rest => .text c :: replacing fuel rest

def flags : Nat → Substitution → Bool → Reading Substitution
  | 0, s, _ => return s
  | fuel + 1, s, counted => do
    match ← peek with
    | none | some '\x7d' | some '#' => return s
    | some c =>
      if c.isDigit then
        if counted then
          skip 1
          refuse "multiple number options to \x60s' command"
        let n ← number
        if n = 0 then refuse "number option to \x60s' command may not be zero"
        flags fuel { s with first := n } true
      else
        skip 1
        match c with
        | 'g' =>
          if s.all then refuse "multiple \x60g' options to \x60s' command"
          flags fuel { s with all := true } counted
        | 'p' =>
          if s.prints then refuse "multiple \x60p' options to \x60s' command"
          flags fuel { s with prints := true } counted
        | 'i' | 'I' => flags fuel { s with folds := true } counted
        | 'm' | 'M' | 'e' => flags fuel s counted
        | 'w' => return { s with file := some (← fileName) }
        | ';' | '\n' | '\r' => return s
        | _ =>
          if isBlank c then flags fuel s counted else refuse "unknown option to \x60s'"

def substitution : Reading Action := do
  let unended {α : Type} : Reading α := refuse "unterminated \x60s' command"
  match ← take with
  | none => unended
  | some delimiter =>
    match ← delimited delimiter true bound [] with
    | none => unended
    | some pattern =>
      match ← delimitedText delimiter bound [] with
      | none => unended
      | some replacement =>
        let parts := replacing (replacement.length + 1) replacement
        let s ← flags bound { re := none, replacement := parts } false
        let re ← expression pattern
        let groups := (re.map groupCount).getD 9
        for part in parts do
          if let .group n := part then
            if groups < n then
              refuse ("invalid reference \\" ++ Numeral.decimal n ++ " on \x60s' command's RHS")
        return .substitute { s with re }
where
  /-- How many groups an expression has. -/
  groupCount : Regex → Nat
    | .group n body => max n (groupCount body)
    | .seq a b | .either a b => max (groupCount a) (groupCount b)
    | .many body _ _ => groupCount body
    | _ => 0
  /-- The text up to a delimiter, in which backslashes stay. -/
  delimitedText (delimiter : Char) : Nat → List Char → Reading (Option (List Char))
    | 0, _ => return none
    | fuel + 1, done => do
      match ← take with
      | none => return none
      | some '\\' =>
        match ← take with
        | none => return none
        | some d =>
          if d = delimiter && d != '&' then delimitedText delimiter fuel (d :: done)
          else delimitedText delimiter fuel (d :: '\\' :: done)
      | some c =>
        if c = delimiter then return some done.reverse else delimitedText delimiter fuel (c :: done)

def unescaped : List Char → List Char
  | '\\' :: 'n' :: rest => '\n' :: unescaped rest
  | '\\' :: 't' :: rest => '\t' :: unescaped rest
  | '\\' :: '\\' :: rest => '\\' :: unescaped rest
  | c :: rest => c :: unescaped rest
  | [] => []

def mapping : Reading Action := do
  let unended {α : Type} : Reading α := refuse "unterminated \x60y' command"
  match ← take with
  | none => unended
  | some delimiter =>
    match ← delimited delimiter false bound [] with
    | none => unended
    | some old =>
      match ← delimited delimiter false bound [] with
      | none => unended
      | some new =>
        let old := unescaped old
        let new := unescaped new
        if old.length != new.length then
          refuse "strings for \x60y' command are different lengths"
        finish
        return .map (old.zip new)

def status : Reading Nat := do
  skipBlanks
  number

def letters : List (Char × Action) :=
  [('d', .delete), ('D', .deleteFirst), ('F', .showFile), ('g', .get false), ('G', .get true),
   ('h', .hold false), ('H', .hold true), ('x', .exchange), ('n', .next),
   ('N', .appendNext), ('p', .print), ('P', .printFirst), ('=', .showNumber), ('z', .empty)]

def action (letter : Char) : Reading Action := do
  match letters.lookup letter with
  | some action =>
    finish
    return action
  | none =>
    match letter with
    | 'a' => return .append (← text)
    | 'i' => return .insert (← text)
    | 'c' => return .change (← text)
    | 'b' => branching .branch
    | 'l' =>
      skipBlanks
      let given := (← peek).any Char.isDigit
      let width ← number
      let width := if given then some width else none
      finish
      return .showVisibly width
    | 't' => branching .branchIfReplaced
    | 'T' => branching .branchUnlessReplaced
    | 'q' => ending true
    | 'Q' => ending false
    | 'r' => return .readFile (← fileName)
    | 'R' => return .readLine (← fileName)
    | 'w' => return .writeFile (← fileName)
    | 'W' => return .writeFirst (← fileName)
    | 's' => substitution
    | 'y' => mapping
    | _ => refuse ("unknown command: \x60" ++ String.singleton letter ++ "'")
where
  branching (make : Octets → Action) : Reading Action := do
    let name ← label
    finish
    return make name
  ending (prints : Bool) : Reading Action := do
    let n ← status
    finish
    return .quit n prints

def add (instruction : Instruction) : Reading Unit := modify fun s =>
  { s with script := { s.script with instructions := s.script.instructions.push instruction } }

def openBlock (instruction : Instruction) : Reading Unit := do
  let place := (← get).script.instructions.size
  add instruction
  modify fun s => { s with script := { s.script with blocks := place :: s.script.blocks } }

def closeBlock : Reading Unit := do
  let s ← get
  match s.script.blocks with
  | [] => refuse "unexpected \x60\x7d'"
  | place :: blocks =>
    let finish := s.script.instructions.size
    let instructions := s.script.instructions.modify place fun i =>
      { i with action := .open_ finish }
    set { s with script := { s.script with instructions, blocks } }
    add { action := .close }

def instruction (first second : Option Address) (negated : Bool) : Reading Unit := do
  match ← take with
  | none => if first.isSome || negated then refuse "missing command" else return
  | some '\x7b' => openBlock { first, second, negated, action := .open_ 0 }
  | some '\x7d' =>
    if first.isSome then refuse "unexpected \x60\x7d'"
    closeBlock
    finish
  | some ':' =>
    if first.isSome then refuse ": doesn't want any addresses"
    let name ← label
    if name.isEmpty then refuse "\":\" lacks a label"
    finish
    modify fun s =>
      let entry := (name, s.script.instructions.size)
      { s with script := { s.script with labels := s.script.labels ++ [entry] } }
  | some '#' => if first.isSome then refuse "comments don't accept any addresses" else comment
  | some letter => add { first, second, negated, action := ← action letter }
where
  comment : Reading Unit := do let _ ← takeWhile (· != '\n')

def readInstructions : Nat → Reading Unit
  | 0 => return
  | fuel + 1 => do
    let _ ← takeWhile fun c => isSpace c || c = ';'
    if (← get).rest.isEmpty then return
    let first ← address
    skipBlanks
    let second ← if first.isSome && (← get).rest.head? = some ',' then do
        skip 1
        some <$> secondAddress
      else pure none
    skipBlanks
    let signs ← takeWhile fun c => c = '!' || isBlank c
    match first, second with
    | some (.line 0), some (.matching ..) => pure ()
    | some (.line 0), _ =>
      skip 1
      refuse "invalid usage of line address 0"
    | _, _ => pure ()
    instruction first second (signs.contains '!')
    readInstructions fuel

def EditScript.read (script : EditScript) (extended : Bool) (text : List Char) :
    Except (String × Nat) EditScript := do
  let (_, s) ← (readInstructions (text.length + 1)).run { rest := text, script, extended }
  return s.script

end Editing
end Shell
end LineShell
