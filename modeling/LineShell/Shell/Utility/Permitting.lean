import LineShell.Shell.Paths
import LineShell.Shell.Utility.FileMode
import LineShell.Shell.Utility.Options

/-!
# The program that changes modes

This is `chmod`.  A word that takes rights away looks like options; letters of rights among the
options are such words.
-/

namespace LineShell
namespace Shell
namespace Permitting

inductive Telling where
  | nothing
  | changes
  | everything
  deriving DecidableEq, Repr

structure Manner where
  name : Octets
  change : FileMode.Change
  mask : Nat
  telling : Telling
  quiet : Bool
  inside : Bool
  /-- Whether a change that the mask cut down is worth a complaint. -/
  doubts : Bool

def setMode (location : Location) (mode : Nat) : Run Unit := modify fun s =>
  let tree := s.files.tree.alterFile location fun file => { file with mode }
  let tree := tree.refit location fun folder => { folder with mode }
  { s with files := { s.files with tree } }

/-- Complains unless that is not wanted. -/
def object (m : Manner) (text : Octets) : Run Bool := do
  if !m.quiet then Tool.complain m.name text
  return false

def describe (m : Manner) (path : Octets) (old new : Nat) : Run Unit := do
  let about := "mode of " ++ Quoting.always path
  if old = new then
    if m.telling = .everything then
      Run.emitLine (about ++ " retained as " ++ FileMode.both old)
  else if m.telling != .nothing then
    Run.emitLine (about ++ " changed from " ++ FileMode.both old ++ " to " ++ FileMode.both new)

def changeAt (m : Manner) (path : Octets) (location : Location) (node : Node) : Run Bool := do
  let directory := node.isDirectory
  let new := FileMode.adjust m.change m.mask directory node.mode
  setMode location new
  describe m path node.mode new
  let expected := FileMode.adjust m.change 0 directory node.mode
  if m.doubts && new &&& (FileMode.all ^^^ expected) != 0 then
    Tool.complain m.name (Quoting.ifNeeded path ++ ": new permissions are " ++
      FileMode.letters new ++ ", not " ++ FileMode.letters expected)
    return false
  else return true

/-- Tells that nothing could be found out, if everything is told. -/
def missed (m : Manner) (path : Octets) (text : Octets) : Run Bool := do
  let _ ← object m text
  if m.telling = .everything then
    Run.emitLine (Quoting.always path ++ " could not be accessed")
  return false

/-- Changes the mode of what a path leads to, and of everything below it if asked for. -/
def changeOne (m : Manner) (top : Bool) : Nat → Octets → Run Bool
  | 0, _ => return true
  | depth + 1, path => do
    match ← Run.spotAt top path with
    | .error fault => missed m path ("cannot access " ++ Quoting.always path ++ ": " ++
        fault.description)
    | .ok (.vacant ..) =>
      match ← Run.nodeAt false path with
      | .ok (.link _) =>
        missed m path ("cannot operate on dangling symlink " ++ Quoting.always path)
      | _ => missed m path ("cannot access " ++ Quoting.always path ++ ": " ++
          Fault.notFound.description)
    | .ok (.leaf _ (.link _)) =>
      if m.telling = .everything then
        Run.emitLine ("neither symbolic link " ++ Quoting.always path ++
          " nor referent has been changed")
      return true
    | .ok (.leaf location node) => changeAt m path location node
    | .ok (.directory place) =>
      match (← get).files.tree.find? place.live with
      | none => return true
      | some node =>
        let done ← changeAt m path place.live node
        if !m.inside then return done
        match ← Run.namesIn path with
        | .error fault =>
          object m ("cannot read directory " ++ Quoting.always path ++ ": " ++ fault.description)
        | .ok names =>
          let start := if path.endsWith "/" then path else path ++ "/"
          let results ← names.mapM fun name => changeOne m false depth (start ++ name)
          return done && results.all id

/-- The letters that begin a mode and not an option. -/
def modeLetters : List Char := "rwxXstugoa,+=01234567".toList

def shapes : OptionShapes :=
  [⟨'R', "recursive", .no⟩, ⟨'c', "changes", .no⟩, ⟨'f', "silent", .no⟩, ⟨'f', "quiet", .no⟩,
   ⟨'v', "verbose", .no⟩, ⟨'\x10', "reference", .yes⟩, ⟨'\x11', "no-preserve-root", .no⟩,
   ⟨'\x12', "preserve-root", .no⟩] ++ modeLetters.map fun c => ⟨c, "", .maybe⟩

def modeAmong (given : Given) : Option Octets :=
  let texts := given.options.filterMap fun option =>
    if modeLetters.contains option.1 then
      some ("-" ++ String.singleton option.1 ++ option.2.getD "")
    else none
  if texts.isEmpty then none else some (",".intercalate texts)

def chmod : Tool := fun _ name words =>
  Tool.withOptions shapes 1 name words fun given => do
    let among := modeAmong given
    let reference := given.value? '\x10'
    let telling := match given.last? ['c', 'v'] with
      | some 'c' => Telling.changes
      | some _ => .everything
      | none => .nothing
    let run := fun (change : FileMode.Change) (paths : List Octets) => do
      let m : Manner := {
        name, change, telling
        mask := (← get).mask
        quiet := given.has 'f'
        inside := given.has 'R'
        doubts := among.isSome }
      Tool.each paths (changeOne m true 200)
    match reference, among, given.operands with
    | some _, some _, _ => Tool.misuse name "cannot combine mode and --reference options" 1
    | some _, none, [] => Tool.misuse name "missing operand" 1
    | some reference, none, paths =>
      match ← Run.nodeAt true reference with
      | .ok node => run (FileMode.put node.mode FileMode.all) paths
      | .error fault =>
        Tool.fault name ("failed to get attributes of " ++ Quoting.always reference) fault
        return 1
    | none, some _, [] => Tool.misuse name "missing operand" 1
    | none, some text, paths => withMode name text fun change => run change paths
    | none, none, [] => Tool.misuse name "missing operand" 1
    | none, none, [text] => Tool.misuse name ("missing operand after " ++ Quoting.plain text) 1
    | none, none, text :: paths => withMode name text fun change => run change paths
where
  withMode (name text : Octets) (body : FileMode.Change → Run Nat) : Run Nat :=
    match FileMode.read text with
    | none => Tool.misuse name ("invalid mode: " ++ Quoting.plain text) 1
    | some change => body change

end Permitting
end Shell
end LineShell
