import LineShell.Shell.Utility.Removing

/-!
# New names of files

If the last operand is a directory, the new names are in it; otherwise there are two operands, and
the second is the new name.  What stands under a new name may be kept under a third one, the
backup.
-/

namespace LineShell
namespace Shell
namespace Placing

/-! ## Operands -/

/-- The last name of a path, without slashes. -/
def baseName (path : Octets) : Octets :=
  let trimmed := Removing.withoutSlashes path
  String.ofList (trimmed.toList.reverse.takeWhile (· != '/')).reverse

/-- The path of the directory around the last name of a path. -/
def around (path : Octets) : Octets := ((Making.ancestors path).getLast?).getD
  (if path.startsWith "/" then "/" else ".")

/-- Where the new names are to be. -/
inductive Destination where
  | directory (path : Octets)
  | name (path : Octets)

/-- Sources and where their new names are to be. -/
structure Errand where
  sources : List Octets
  destination : Destination

/-- A source and its new name. -/
abbrev Pairing := Octets × Octets

/-- The new name of a source in a directory, which is the directory itself for two dots. -/
def newName (directory source : Octets) : Octets :=
  let base := baseName source
  Removing.inside directory (if base = ".." then "." else base)

namespace Errand

def pairings (errand : Errand) : List Pairing :=
  match errand.destination with
  | .directory path => errand.sources.map fun source => (source, newName path source)
  | .name path => errand.sources.map fun source => (source, path)

def isMany (errand : Errand) : Bool :=
  match errand.destination with
  | .directory _ => 1 < errand.sources.length
  | .name _ => false

end Errand

/-- Why a path does not lead to a directory, if it does not. -/
def directoryFault? (path : Octets) : Run (Option Fault) := do
  match ← Run.nodeAt true path with
  | .ok (.directory _) => return none
  | .ok _ => return some .notDirectory
  | .error fault => return some fault

/-- Finds the sources and where their new names are to be, or complains.  Given are the complaint
about a directory that is missing, whether one operand may do, and whether a link to a directory
is one. -/
def readOperands (name : Octets) (given : Given) (missing : Octets) (single follows : Bool) :
    Run (Option Errand) := do
  let operands := given.operands
  let refuse := fun (what path : Octets) (fault : Fault) => do
    Tool.fault name (what ++ " " ++ Quoting.always path) fault
    return none
  let misuse := fun (text : Octets) => do
    let _ ← Tool.misuse name text 1
    return none
  match given.value? 't', operands with
  | _, [] => misuse "missing file operand"
  | some target, sources =>
    if given.has 'T' then
      Tool.complain name
        (if single then "cannot combine --target-directory and --no-target-directory"
        else "cannot combine --target-directory (-t) and --no-target-directory (-T)")
      return none
    match ← directoryFault? target with
    | some fault => refuse missing target fault
    | none => return some { sources, destination := .directory target }
  | none, [source] =>
    if single && !given.has 'T' then
      return some { sources := [source], destination := .directory "." }
    misuse ("missing destination file operand after " ++ Quoting.plain source)
  | none, _ =>
    let target := operands.getLast?.getD ""
    let sources := operands.dropLast
    if given.has 'T' then
      if 1 < sources.length then
        return ← misuse ("extra operand " ++ Quoting.plain (operands[2]?.getD ""))
      return some { sources, destination := .name target }
    let blocked := match ← Run.nodeAt false target with
      | .ok (.link _) => !follows
      | _ => false
    match ← directoryFault? target with
    | none =>
      return some { sources, destination := if blocked then .name target else .directory target }
    | some fault =>
      if 1 < sources.length then refuse "target" target fault
      else return some { sources, destination := .name target }

/-! ## What files are -/

/-- What a path leads to, and where that is. -/
structure Found where
  location : Location
  node : Node

/-- What a path leads to, where a last link is followed if asked for.  A descriptor of the process
counts as a device. -/
def find (follow : Bool) (path : Octets) : Run (Except Fault Found) := do
  if let some descriptor := Run.descriptorAt? path then
    if (← Run.channel? descriptor).isSome then
      return .ok { location := [path], node := .device .null }
  let follow := follow || path.endsWith "/"
  match ← Run.nodeAt follow path, ← Run.spotAt follow path with
  | .ok node, .ok (.leaf location _) => return .ok { location, node }
  | .ok node, .ok (.directory place) => return .ok { location := place.live, node }
  | .error fault, _ | _, .error fault => return .error fault
  | _, .ok (.vacant ..) => return .error .notFound

namespace Found

def isSame (a b : Found) : Bool :=
  match a.node, b.node with
  | .file x, .file y => a.location = b.location || x.twin != 0 && x.twin = y.twin
  | _, _ => a.location = b.location

def stamps (found : Found) : Run Stamps := do
  return (← get).stampsOf found.location found.node

def isNewer (a b : Found) : Run Bool := do
  return (← b.stamps).changed < (← a.stamps).changed

def isLink (found : Found) : Bool :=
  match found.node with
  | .link _ => true
  | _ => false

def hasTwins (tree : Tree) (found : Found) : Bool :=
  match found.node with
  | .file file => file.twin != 0 && 1 < (tree.entries.filter fun entry =>
      match entry.2 with
      | .file other => other.twin = file.twin
      | _ => false).length
  | _ => false

end Found

def siteOf (path : Octets) : Run (Option Location) := do
  match ← Run.spotAt false (Removing.withoutSlashes path) with
  | .ok (.leaf location _) => return some location
  | .ok (.directory place) => return some place.live
  | .ok (.vacant place last) => return some (last :: place.live)
  | .error _ => return none

def sameName (a b : Octets) : Run Bool := do
  let a ← siteOf a
  let b ← siteOf b
  return a.isSome && a = b

def both (a middle b : Octets) : Octets := Quoting.always a ++ middle ++ Quoting.always b

def refuseSame (name a b : Octets) : Run Bool := do
  Tool.complain name (both a " and " b ++ " are the same file")
  return false

/-- Asks whether something may be replaced.  Whether it is taken away first is given. -/
def mayReplace (name : Octets) (removes : Bool) (path : Octets) (node : Node) : Run Bool :=
  if node.grants .write then
    Removing.ask name ("overwrite " ++ Quoting.always path)
  else
    let digits := FileMode.digits node.mode
    let letters := FileMode.letters node.mode
    Removing.ask name
      (if removes then
        "replace " ++ Quoting.always path ++ ", overriding mode " ++ digits ++ " (" ++ letters ++
          ")"
      else "unwritable " ++ Quoting.always path ++ " (mode " ++ digits ++ ", " ++ letters ++
        "); try anyway")

/-! ## Changes of the tree -/

/-- Gives what stands at a location another name; the answer is why that failed.  What has the other
name already goes away, if it is of the same kind and holds nothing. -/
def rename (old : Found) (target : Octets) : Run (Option Fault) := do
  let tree := (← get).files.tree
  let move := fun (site : Location) => do
    if !tree.permits old.location.tail .write || !tree.permits site.tail .write then
      return some .noAccess
    if old.node.isDirectory && old.location.isSuffixOf site then return some .invalid
    Run.putTree (tree.erase site)
    Run.relocate old.location site
    return none
  match ← Run.spotAt false target with
  | .error fault => return some fault
  | .ok (.vacant place last) =>
    let path := Path.ofString (Octets.toText target)
    if !place.exists? then return some .notFound
    else if path.slash && !old.node.isDirectory then return some .notDirectory
    else move (last :: place.live)
  | .ok (.directory place) =>
    if !old.node.isDirectory then return some .isDirectory
    else if place.live = old.location then return none
    else if place.live.isSuffixOf old.location || !(tree.names place.live).isEmpty then
      return some .notEmpty
    else move place.live
  | .ok (.leaf location node) =>
    if old.node.isDirectory then return some .notDirectory
    else if old.isSame { location, node } then return none
    else move location

/-- Makes a second name for a file; the answer is why that failed. -/
def makeTwin (source : Location) (target : Octets) : Run (Option Fault) := do
  match ← Run.spotAt false target with
  | .error fault => return some fault
  | .ok (.vacant place last) =>
    if !place.exists? then return some .notFound
    let s ← get
    if !s.files.tree.permits place.live .write then return some .noAccess
    match s.files.tree.find? source with
    | some (.file file) =>
      let twin := if file.twin = 0 then s.nextTwin else file.twin
      let tree := s.files.tree.alterFile source fun file => { file with twin }
      let tree := tree.insert (last :: place.live) (.file { file with twin })
      Run.putTree tree
      modify fun s => { s with nextTwin := s.nextTwin + 1 }
      return none
    | some node =>
      Run.putTree (s.files.tree.insert (last :: place.live) node)
      return none
    | none => return some .notFound
  | .ok _ => return some .exists

/-- Makes a link with a text; the answer is why that failed. -/
def makeLink (text target : Octets) : Run (Option Fault) := do
  if text.isEmpty then return some .notFound
  match ← Run.spotAt false target with
  | .error fault => return some fault
  | .ok (.vacant place last) =>
    if !place.exists? || (Path.ofString (Octets.toText target)).slash then
      return some .notFound
    let tree := (← get).files.tree
    if !tree.permits place.live .write then return some .noAccess
    Run.putTree (tree.insert (last :: place.live) (.link (Octets.toText text)))
    return none
  | .ok _ => return some .exists

/-! ## Backups -/

/-- How the name of a backup is chosen. -/
inductive Numbering where
  | never
  | always
  /-- Where there is a numbered backup already. -/
  | continued
  deriving DecidableEq, Repr

structure Backup where
  numbering : Numbering
  suffix : Octets

def backupNames : List (List String × Option Numbering) :=
  [(["none", "off"], none), (["simple", "never"], some .never),
   (["existing", "nil"], some .continued), (["numbered", "t"], some .always)]

/-- The backups that options ask for, if any; or a complaint. -/
def readBackup (name : Octets) (given : Given) : Run (Option (Option Backup)) := do
  if !given.has 'b' && !given.has 'S' then return some none
  let exported ← Run.exported
  let words := given.options.filterMap fun option => if option.1 = 'b' then option.2 else none
  let choice ← match words.getLast?.filter (· != ""), exported.lookup "VERSION_CONTROL" with
    | some word, _ => Tool.choose name "backup type" word backupNames
    | none, some word =>
      if word.isEmpty then pure (some (some .continued))
      else Tool.choose name "$VERSION_CONTROL" word backupNames
    | none, none => pure (some (some .continued))
  let suffix := ((given.value? 'S').or (exported.lookup "SIMPLE_BACKUP_SUFFIX")).filter fun text =>
    text != "" && !text.contains '/'
  return choice.map fun numbering =>
    numbering.map fun numbering => { numbering, suffix := suffix.getD "~" }

def backupNumber? (base name : Octets) : Option Nat :=
  if name.startsWith (base ++ ".~") && name.endsWith "~" then
    let digits := name.toList.drop (base.length + 2) |>.dropLast
    if digits.all Char.isDigit && digits.head?.any (· != '0') then
      (String.ofList digits).toNat?
    else none
  else none

def backupName (b : Backup) (path : Octets) : Run Octets := do
  let path := Removing.withoutSlashes path
  let simple := path ++ b.suffix
  if b.numbering = .never then return simple
  let names := ((← Run.namesIn (around path)).toOption).getD []
  let numbers := names.filterMap (backupNumber? (baseName path))
  if numbers.isEmpty && b.numbering = .continued then return simple
  let next := numbers.foldl max 0 + 1
  return path ++ ".~" ++ Numeral.decimal next ++ "~"

/-- Keeps what a path leads to as a backup: its name, or why there is none. -/
def keep (b : Backup) (path : Octets) (existing : Found) : Run (Except Fault Octets) := do
  let backup ← backupName b path
  match ← rename existing backup with
  | none => return .ok backup
  | some fault => return .error fault

def isBackup (b : Backup) (source target : Octets) (found : Found) : Run Bool := do
  if b.numbering = .always || baseName target ++ b.suffix != baseName source then return false
  match ← find false (target ++ b.suffix) with
  | .ok other => return found.isSame other
  | .error _ => return false

def mention : Option Octets → Octets
  | none => ""
  | some backup => " (backup: " ++ Quoting.always backup ++ ")"

end Placing
end Shell
end LineShell
