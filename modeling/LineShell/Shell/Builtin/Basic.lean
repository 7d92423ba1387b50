import LineShell.Shell.Engine

/-!
# Commands of the shell itself

A command of the shell works on the shell's own process.  Some belong to the language: a failure of
theirs ends a script, and variables that are set on their line stay.
-/

namespace LineShell
namespace Shell

structure Builtin where
  /-- Whether it belongs to the language. -/
  special : Bool := false
  /-- Whether only the extended language has it. -/
  extended : Bool := false
  /-- Whether its operands may set variables, so that they are not cut into fields. -/
  assigns : Bool := false
  /-- What it does, given its name and the words after it. -/
  run : Engine → Standpoint → Octets → List Octets → Run Nat

abbrev Builtins := List (String × Builtin)

namespace Builtin

def plain (run : Octets → List Octets → Run Nat) : Builtin := { run := fun _ _ => run }

def ofLanguage (run : Octets → List Octets → Run Nat) : Builtin :=
  { special := true, run := fun _ _ => run }

abbrev Options := List (Char × Octets)

namespace Options

def has (options : Options) (c : Char) : Bool := options.any fun option => option.1 = c

end Options

/-- Reads the letters of one word; each comes with whether it takes a value, which is the rest of
the word or the next one. -/
def readLetters (known : List (Char × Bool)) :
    List Char → List Octets → Run (Options × List Octets)
  | [], words => return ([], words)
  | c :: rest, words => do
    match known.lookup c with
    | none => Run.fail ("Illegal option -" ++ String.singleton c)
    | some false =>
      let (others, words) ← readLetters known rest words
      return ((c, "") :: others, words)
    | some true =>
      if !rest.isEmpty then return ([(c, String.ofList rest)], words)
      match words with
      | value :: words => return ([(c, value)], words)
      | [] => Run.fail ("No arg for -" ++ String.singleton c ++ " option")

def readOptions (known : List (Char × Bool)) : Nat → List Octets → Run (Options × List Octets)
  | 0, words => return ([], words)
  | _, [] => return ([], [])
  | fuel + 1, word :: words => do
    match word.toList with
    | ['-', '-'] => return ([], words)
    | '-' :: c :: rest =>
      let (first, words) ← readLetters known (c :: rest) words
      let (others, words) ← readOptions known fuel words
      return (first ++ others, words)
    | _ => return ([], word :: words)

/-- Reads the options, given as letters of which none takes a value. -/
def options (letters : String) (words : List Octets) : Run (Options × List Octets) :=
  readOptions (letters.toList.map fun c => (c, false)) (words.length + 1) words

/-- The operands of a command without options. -/
def operands (words : List Octets) : Run (List Octets) := do
  return (← options "" words).2

/-- A text in quotes that a script reads back.  Single quotes stand in double quotes. -/
def quoted (text : Octets) : Octets := String.ofList (go (text.length + 1) text.toList)
where
  go : Nat → List Char → List Char
    | 0, _ => []
    | fuel + 1, chars =>
      let before := chars.takeWhile (· != '\'')
      let rest := chars.drop before.length
      let quotes := rest.takeWhile (· = '\'')
      let after := rest.drop quotes.length
      let front := '\'' :: before ++ ['\'']
      if quotes.isEmpty then front
      else front ++ '"' :: quotes ++ '"' :: (if after.isEmpty then [] else go fuel after)

/-- Cuts a word at its first equals sign. -/
def cutAssignment (word : Octets) : Octets × Option Octets :=
  let chars := word.toList
  let name := chars.takeWhile (· != '=')
  let rest := chars.drop name.length
  (String.ofList name, if rest.isEmpty then none else some (String.ofList (rest.drop 1)))

def demandName (name : Octets) : Run Unit := do
  if !isName name.toList then Run.fail (name ++ ": bad variable name")

def assign (name : Octets) (value : Option Octets) (exported : Bool) : Run Unit := do
  demandName name
  Run.setVariable name value exported

/-- Puts entries in the order in which a table of so many groups keeps them. -/
def inGroups {α : Type} (entries : List (String × α)) : List (String × α) :=
  entries.mergeSort fun a b => Run.groupOf a.1 ≤ Run.groupOf b.1

end Builtin
end Shell
end LineShell
