import LineShell.Shell.Streams
import LineShell.Shell.Utility.Manual
import LineShell.Shell.Utility.Quoting

/-!
# Options of programs

Options of one letter may stand together, and the last of them may take the rest of the word or the
next word as its value.  Long options may be shortened as long as no other one starts so.  Options
and operands may be mixed, up to two hyphens on their own.
-/

namespace LineShell
namespace Shell

inductive Valued where
  | no
  | yes
  /-- Only right behind its name. -/
  | maybe
  deriving DecidableEq, Repr

/-- An option: its letter, its long name, and whether it takes a value.  Options without a letter
have a character of their own that cannot be typed as one. -/
structure OptionShape where
  letter : Char
  long : String := ""
  valued : Valued := .no

abbrev OptionShapes := List OptionShape

abbrev GivenOption := Char × Option Octets

structure Given where
  options : List GivenOption
  operands : List Octets

namespace Given

def has (g : Given) (letter : Char) : Bool := g.options.any fun option => option.1 = letter

def value? (g : Given) (letter : Char) : Option Octets :=
  (g.options.reverse.find? fun option => option.1 = letter).bind (·.2)

def last? (g : Given) (letters : List Char) : Option Char :=
  (g.options.reverse.find? fun option => letters.contains option.1).map (·.1)

end Given

namespace OptionShapes

def readLetters (shapes : OptionShapes) :
    List Char → List Octets → Except String (List GivenOption × List Octets)
  | [], words => .ok ([], words)
  | c :: rest, words =>
    match shapes.find? fun shape => shape.letter = c with
    | none => .error ("invalid option -- '" ++ String.singleton c ++ "'")
    | some { valued := .no, .. } => do
      let (others, words) ← readLetters shapes rest words
      return ((c, none) :: others, words)
    | some { valued := .maybe, .. } =>
      .ok ([(c, if rest.isEmpty then none else some (String.ofList rest))], words)
    | some { valued := .yes, .. } =>
      if !rest.isEmpty then .ok ([(c, some (String.ofList rest))], words)
      else
        match words with
        | value :: words => .ok ([(c, some value)], words)
        | [] => .error ("option requires an argument -- '" ++ String.singleton c ++ "'")

/-- Reads a long option, whose name and value are given, with the words after it. -/
def readLong (shapes : OptionShapes) (typed name : String) (value : Option Octets)
    (words : List Octets) : Except String (GivenOption × List Octets) := do
  let candidates := shapes.filter fun shape => shape.long != "" && shape.long.startsWith name
  let exact := candidates.find? fun shape => shape.long = name
  match exact, candidates with
  | none, [] => .error ("unrecognized option '--" ++ typed ++ "'")
  | none, first :: second :: others =>
    if (second :: others).all fun shape => shape.letter = first.letter then
      take first
    else
      let names := candidates.map fun shape => " '--" ++ shape.long ++ "'"
      .error ("option '--" ++ typed ++ "' is ambiguous; possibilities:" ++ String.join names)
  | some shape, _ => take shape
  | none, [shape] => take shape
where
  take (shape : OptionShape) : Except String (GivenOption × List Octets) :=
    match shape.valued, value, words with
    | .no, some _, _ => .error ("option '--" ++ shape.long ++ "' doesn't allow an argument")
    | .yes, none, value :: words => .ok ((shape.letter, some value), words)
    | .yes, none, [] => .error ("option '--" ++ shape.long ++ "' requires an argument")
    | _, _, _ => .ok ((shape.letter, value), words)

def help : OptionShape := ⟨'\x1e', "help", .no⟩

def version : OptionShape := ⟨'\x1f', "version", .no⟩

/-- Whether an option ends the reading, as it makes the program do something else. -/
def isFinal (option : GivenOption) : Bool :=
  option.1 = help.letter || option.1 = version.letter

/-- Reads the words of a program.  Whether options may follow operands is given. -/
def read (shapes : OptionShapes) (mixed : Bool) : Nat → List Octets → Except String Given
  | 0, words => .ok { options := [], operands := words }
  | _, [] => .ok { options := [], operands := [] }
  | fuel + 1, word :: words =>
    match word.toList with
    | ['-', '-'] => .ok { options := [], operands := words }
    | '-' :: '-' :: rest => do
      let name := rest.takeWhile (· != '=')
      let value := if name.length < rest.length then
          some (String.ofList (rest.drop (name.length + 1)))
        else none
      let typed := String.ofList rest
      let (option, words) ← readLong shapes typed (String.ofList name) value words
      if isFinal option then return { options := [option], operands := words }
      let given ← read shapes mixed fuel words
      return { given with options := option :: given.options }
    | '-' :: c :: rest => do
      let (options, words) ← readLetters shapes (c :: rest) words
      let given ← read shapes mixed fuel words
      return { given with options := options ++ given.options }
    | _ =>
      if mixed then do
        let given ← read shapes mixed fuel words
        return { given with operands := word :: given.operands }
      else .ok { options := [], operands := word :: words }

end OptionShapes

/-- A program: it is given what it may ask for, its name, and its words. -/
abbrev Tool := Calls → Octets → List Octets → Run Nat

namespace Tool

def complain (name text : Octets) : Run Unit := Run.complain (name ++ ": " ++ text)

def fault (name about : Octets) (fault : Fault) : Run Unit :=
  complain name (about ++ ": " ++ fault.description)

def pointToHelp (name : Octets) : Run Unit :=
  Run.complain ("Try '" ++ name ++ " --help' for more information.")

def misuse (name text : Octets) (status : Nat) : Run Nat := do
  complain name text
  pointToHelp name
  return status

def showUsage (name : Octets) : Run Unit := do
  let program := Manual.baseName name
  let _ ← (Manual.usage program).mapM fun line => Run.emitLine (line.replace program name)

def showRelease (name : Octets) : Run Unit :=
  Run.emitLine (Manual.release (Manual.baseName name))

/-- Reads the words of a program and goes on, or complains.  Whether options may follow operands is
given. -/
def withOptionsIn (mixed : Bool) (shapes : OptionShapes) (status : Nat) (name : Octets)
    (words : List Octets) (body : Given → Run Nat) : Run Nat := do
  let shapes := shapes ++ [OptionShapes.help, OptionShapes.version]
  match shapes.read mixed (words.length + 1) words with
  | .error text => misuse name text status
  | .ok given =>
    if given.has OptionShapes.help.letter then
      showUsage name
      return 0
    else if given.has OptionShapes.version.letter then
      showRelease name
      return 0
    else body given

/-- Reads the words of a program, whose options may follow its operands. -/
def withOptions : OptionShapes → Nat → Octets → List Octets → (Given → Run Nat) → Run Nat :=
  withOptionsIn true

/-- Complains about a word that is no choice, or stands for several.  Each choice comes with its
names. -/
def badChoice {α : Type} (name option word : Octets) (several : Bool)
    (choices : List (List String × α)) : Run (Option α) := do
  let blame := if several then "ambiguous" else "invalid"
  complain name (blame ++ " argument " ++ Quoting.plain word ++ " for " ++ Quoting.plain option)
  Run.complain "Valid arguments are:"
  let _ ← choices.mapM fun choice =>
    Run.complain ("  - " ++ ", ".intercalate (choice.1.map Quoting.plain))
  pointToHelp name
  return none

/-- The choice that a word is the name of; or a complaint, and none. -/
def chooseExactly {α : Type} (name option word : Octets) (choices : List (List String × α)) :
    Run (Option α) := do
  match choices.find? fun choice => choice.1.contains word with
  | some choice => return some choice.2
  | none => badChoice name option word false choices

/-- The choice that a word stands for, which may be shortened; or a complaint, and none. -/
def choose {α : Type} (name option word : Octets) (choices : List (List String × α)) :
    Run (Option α) := do
  let exact := choices.find? fun choice => choice.1.contains word
  let candidates := choices.filter fun choice => choice.1.any (·.startsWith word)
  match exact, candidates with
  | some choice, _ | none, [choice] => return some choice.2
  | none, _ => badChoice name option word (!candidates.isEmpty) choices

/-- Does something for each of some operands, and fails if any of them fails. -/
def each (operands : List Octets) (act : Octets → Run Bool) : Run Nat := do
  let results ← operands.mapM act
  return if results.all id then 0 else 1

def padLeft (width : Nat) (text : String) : String :=
  String.ofList (List.replicate (width - text.length) ' ') ++ text

def padRight (width : Nat) (text : String) : String :=
  text ++ String.ofList (List.replicate (width - text.length) ' ')

end Tool
end Shell
end LineShell
