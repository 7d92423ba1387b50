import LineShell.Shell.Startup
import LineShell.Shell.Utility.Table

/-!
# Running programs

A program is a file.  Its first bytes say what it is: machine code, which stands for one of the
host's programs, or a script with the name of the program that reads it.  Any other file that may
be run is taken for a script of a shell, but by shells and programs only.
-/

namespace LineShell
namespace Shell
namespace Program

inductive Image where
  | tool (tool : Tool)
  | shell (dialect : Dialect)

def shells : List (String × Dialect) :=
  [("sh", .plain), ("dash", .plain), ("bash", .extended)]

/-- The program whose machine code has a name. -/
def image? (name : String) : Option Image :=
  (Utility.table.lookup name).map .tool <|> (shells.lookup name).map .shell

/-- The program that reads a script and an operand for it, as the script's first line gives them. -/
def reader? (line : List Char) : Option (Octets × Option Octets) :=
  let blank := fun c : Char => c = ' ' || c = '\t'
  let text := ((line.dropWhile blank).reverse.dropWhile blank).reverse
  let path := text.takeWhile fun c => !blank c
  let operand := (text.drop path.length).dropWhile blank
  if path.isEmpty then none
  else some (String.ofList path, if operand.isEmpty then none else some (String.ofList operand))

def readerLimit : Nat := 5

/-- Finds out what runs for a path, and the words that it is given. -/
def load : Nat → Octets → List Octets → Run (Except Fault (Image × List Octets))
  | 0, _, _ => return .error .tooManyLinks
  | fuel + 1, path, words => do
    if let some fault := ← Search.hindrance? path then return .error fault
    match ← Run.nodeAt true path with
    | .error fault => return .error fault
    | .ok node =>
      let octets := match node with
        | .file file => file.content.toList
        | _ => []
      match octets with
      | '#' :: '!' :: rest =>
        match reader? (rest.takeWhile (· != '\n')) with
        | none => return .error .badFormat
        | some (reader, operand) =>
          load fuel reader (reader :: operand.toList ++ path :: words.tail)
      | _ =>
        let found := if octets.take 4 = Files.machineCode.toList then
            image? (String.ofList (octets.drop 4))
          else none
        match found with
        | some image => return .ok (image, words)
        | none => return .error .badFormat

/-- Like `load`, but a file of no known format is a script of a shell. -/
def loadAny (path : Octets) (words : List Octets) : Run (Except Fault (Image × List Octets)) := do
  match ← load readerLimit path words with
  | .error .badFormat => load readerLimit "/bin/sh" ("/bin/sh" :: path :: words.tail)
  | answer => return answer

/-- The first path that something runs for, or the last reason why there is none. -/
def loadFirst (loading : Octets → List Octets → Run (Except Fault (Image × List Octets)))
    (words : List Octets) (reason : Fault) : List Octets → Run (Except Fault (Image × List Octets))
  | [] => return .error reason
  | path :: others => do
    match ← loading path words with
    | .ok answer => return .ok answer
    | .error fault =>
      loadFirst loading words (if Search.isAbsence fault then reason else fault) others

/-- Finds out what runs for a name that is looked for on a search path. -/
def locate (searchPath : Octets) (words : List Octets) :
    Run (Except Fault (Image × List Octets)) :=
  loadFirst loadAny words .notFound (Search.candidates searchPath (words.headD ""))

def searchPath : Run Octets := return (← Run.value? "PATH").getD "/bin:/usr/bin"

/-- Like `locate` on the search path of the process, where nothing has the empty name. -/
def locateNamed (words : List Octets) : Run (Except Fault (Image × List Octets)) := do
  if (words.headD "").isEmpty then return .error .notFound
  else locate (← searchPath) words

def image (own : Own) : Own :=
  { process := own.process
    parent := own.parent
    shell := own.process
    here := own.here
    mask := own.mask
    limits := own.limits
    descriptors := own.descriptors
    vars := own.vars.filterMap fun (name, v) =>
      if v.exported && v.value.isSome then some (name, { v with fixed := false }) else none
    ignored := own.ignored ++ (own.traps.filter fun entry => entry.2 = "").map (·.1) }

/-- Complains if a program could not write all of its output. -/
def checkOutput (name : Octets) (status : Nat) : Run Nat := do
  match (← get).writeFault with
  | some fault =>
    Tool.complain name ("write error: " ++ fault.description)
    return if status = 0 then 1 else status
  | none => return status

/-- How many programs may take the place of one another before a shell does. -/
def placeLimit : Nat := 1000

def calls (e : Engine) (again : Image → List Octets → Run Nat) : Calls :=
  { become := fun words => do
      match ← locateNamed words with
      | .error fault => return .error fault
      | .ok (image, words) => .ok <$> again image words
    spawn := fun words => do
      match ← locateNamed words with
      | .error fault => return .error fault
      | .ok (image, words) =>
        let number ← Process.newNumber
        let own := Process.Own.fresh (← get).toOwn number
        let ended ← Process.within own (again image words)
        Signal.collect
        return .ok ended
    catchUp := e.catchUp none }

def startWithin (e : Engine) : Nat → Image → List Octets → Run Nat
  | 0, _, _ => return 126
  | fuel + 1, image, words => do
    let name := words.headD ""
    modify fun s => { s with toOwn := Program.image s.toOwn }
    match image with
    | .shell dialect => Startup.run e dialect name words.tail
    | .tool tool =>
      let status ← tool (calls e (startWithin e fuel)) name words.tail
      checkOutput name status

def start (e : Engine) : Image → List Octets → Run Nat := startWithin e placeLimit

end Program
end Shell
end LineShell
