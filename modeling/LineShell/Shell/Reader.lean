import LineShell.Shell.Script

/-!
# Reading scripts

A reader goes through the bytes of a script from left to right.  It knows the line it is on, the
names that stand for other text, and the documents whose text follows the line being read.  A
backslash right before a line feed joins two lines, except where everything is quoted.
-/

namespace LineShell
namespace Shell

/-- Why a script cannot be read, and the line on which that shows. -/
structure SyntaxFault where
  line : Nat
  text : String
  deriving DecidableEq, Repr

inductive Lexeme where
  | ending
  | lineFeed
  /-- A semicolon, an ampersand, a bar, a bracket, or two of them. -/
  | operator (text : String)
  /-- The word that has a meaning of its own where a command begins. -/
  | keyword (text : String)
  | word (word : Word) (quoted : Bool)
  /-- A redirection without its target.  None stands for a document, whose tabs may not count. -/
  | redirection (descriptor : Nat) (mode : Option Mode) (dropsTabs : Bool)
  deriving Inhabited

/-- A document that is still to be read. -/
structure AwaitedDocument where
  number : Nat
  delimiter : List Char
  /-- Whether its text is taken as it is. -/
  verbatim : Bool
  dropsTabs : Bool

structure Reader where
  rest : List Char
  line : Nat := 1
  dialect : Dialect := .plain
  /-- Names that stand for other text at the start of a command. -/
  aliases : List (String × List Char) := []
  /-- The names whose text is being read, each with how much is left after it. -/
  standingIn : List (String × Nat) := []
  awaited : List AwaitedDocument := []
  /-- The documents that were read, by number. -/
  documents : List (Nat × Word) := []
  nextDocument : Nat := 0
  /-- The last lexeme that was read. -/
  last : Lexeme := .ending
  /-- Whether it was given back. -/
  returned : Bool := false

abbrev Parse := StateT Reader (Except SyntaxFault)

namespace Reader

def refuse {α : Type} (text : String) : Parse α := do
  throw { line := (← get).line, text := "Syntax error: " ++ text }

def dropJoins : List Char → Nat → List Char × Nat
  | '\\' :: '\n' :: rest, line => dropJoins rest (line + 1)
  | rest, line => (rest, line)

/-- The next character, none at the end. -/
def peek : Parse (Option Char) := modifyGet fun r =>
  let (rest, line) := dropJoins r.rest r.line
  (rest.head?, { r with rest, line })

def advance : Parse Unit := modify fun r =>
  match r.rest with
  | [] => r
  | c :: rest => { r with rest, line := if c = '\n' then r.line + 1 else r.line }

def next : Parse (Option Char) := do
  let c ← peek
  advance
  return c

def nextRaw : Parse (Option Char) := do
  let c := (← get).rest.head?
  advance
  return c

/-- Takes the next character if it is the given one. -/
def skip? (c : Char) : Parse Bool := do
  if (← peek) = some c then
    advance
    return true
  else return false

/-- Takes the next character if a table has it, and gives its entry. -/
def choose {α : Type} (table : List (Char × α)) (otherwise : α) : Parse α := do
  match (← peek).bind fun c => table.lookup c with
  | some entry =>
    advance
    return entry
  | none => return otherwise

/-- Takes characters as long as they belong to a class. -/
def takeWhile (belongs : Char → Bool) : Nat → Parse (List Char)
  | 0 => return []
  | fuel + 1 => do
    match ← peek with
    | some c =>
      if belongs c then
        advance
        return c :: (← takeWhile belongs fuel)
      else return []
    | none => return []

def size : Parse Nat := return 1000000000

end Reader

end Shell
end LineShell
