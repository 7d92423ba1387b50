import LineShell.Shell.Utility.Placing

/-!
# Programs that make links

These are `ln` and `link`.  A link is a text that leads elsewhere; a second name of a file is as
good as the first.
-/

namespace LineShell
namespace Shell
namespace Linking

open Placing

structure Manner where
  name : Octets
  symbolic : Bool
  /-- Whether the text of a link leads from its own directory. -/
  relative : Bool
  /-- Whether a second name is one of what a link leads to. -/
  follows : Bool
  forces : Bool
  asks : Bool
  tells : Bool
  backup : Option Backup

/-- The path from one directory to a file, both given by the names from the root. -/
def relativePath : List String → List String → List String
  | a :: directory, b :: file =>
    if a = b then relativePath directory file
    else (a :: directory).map (fun _ => "..") ++ b :: file
  | directory, file => directory.map (fun _ => "..") ++ file

def relativeText (source target : Octets) : Run Octets := do
  let file ← match ← find true source with
    | .ok found => pure (some found.location)
    | .error _ => siteOf source
  match file, ← find true (around target) with
  | some file, .ok directory =>
    let names := relativePath directory.location.reverse file.reverse
    return Octets.ofText ("/".intercalate (if names.isEmpty then ["."] else names))
  | _, _ => return source

/-- Complains; no link was made. -/
def object (m : Manner) (text : Octets) : Run Bool := do
  Tool.complain m.name text
  return false

/-- Makes a link or a second name where nothing is in the way. -/
def finish (m : Manner) (source target : Octets) (backup : Option Octets) : Run Bool := do
  let text ← if m.relative then relativeText source target else pure source
  let answer ← if m.symbolic then makeLink text target
    else do
      match ← find m.follows source with
      | .ok found => makeTwin found.location target
      | .error fault => pure (some fault)
  match answer with
  | none =>
    if m.tells then
      let before := (backup.map fun backup => Quoting.always backup ++ " ~ ").getD ""
      Run.emitLine (before ++ both target (if m.symbolic then " -> " else " => ") text)
    return true
  | some fault =>
    let what := if m.symbolic then "failed to create symbolic link " else
      "failed to create hard link "
    let names := if m.symbolic && !text.isEmpty || fault = .exists then Quoting.always target
      else both target (if m.symbolic then " -> " else " => ") text
    Tool.fault m.name (what ++ names) fault
    return false

/-- Makes a link or a second name after what is in the way was dealt with. -/
def replace (m : Manner) (made : List Location) (source target : Octets) (existing : Found) :
    Run Bool := do
  if existing.node.isDirectory then
    return ← object m (Quoting.ifNeeded target ++ ": cannot overwrite directory")
  if made.contains existing.location then
    return ← object m ("will not overwrite just-created " ++ both target " with " source)
  let tree := (← get).files.tree
  let named ← sameName source target
  let same := match ← find (m.symbolic || m.follows) source with
    | .ok found => found.isSame existing && (named || !Found.hasTwins tree found)
    | .error _ => false
  if same && (m.backup.isNone || !m.symbolic) then
    return ← refuseSame m.name source target
  if m.asks then
    if !(← Removing.ask m.name ("replace " ++ Quoting.always target)) then return true
  match m.backup with
  | some b =>
    match ← keep b target existing with
    | .ok backup => finish m source target (some backup)
    | .error fault =>
      Tool.fault m.name ("cannot backup " ++ Quoting.always target) fault
      return false
  | none =>
    let _ ← Run.edit Tree.removeFile target
    finish m source target none

def linkOne (m : Manner) (made : List Location) (pairing : Pairing) : Run Bool := do
  let (source, target) := pairing
  if !m.symbolic then
    match ← find m.follows source with
    | .error fault =>
      Tool.fault m.name ("failed to access " ++ Quoting.always source) fault
      return false
    | .ok { node := .directory _, .. } =>
      return ← object m (Quoting.ifNeeded source ++ ": hard link not allowed for directory")
    | .ok _ => pure ()
  if m.forces || m.asks || m.backup.isSome then
    match ← find false target with
    | .ok existing => replace m made source target existing
    | .error .notFound => finish m source target none
    | .error fault =>
      Tool.fault m.name ("failed to access " ++ Quoting.always target) fault
      return false
  else finish m source target none

def linkAll (m : Manner) : List Location → List Pairing → Run Bool
  | _, [] => return true
  | made, pairing :: rest => do
    let done ← linkOne m made pairing
    let site ← siteOf pairing.2
    let others ← linkAll m (if done then site.toList ++ made else made) rest
    return done && others

def ln : Tool := fun _ name words =>
  Tool.withOptions [⟨'s', "symbolic", .no⟩, ⟨'f', "force", .no⟩, ⟨'n', "no-dereference", .no⟩,
      ⟨'v', "verbose", .no⟩, ⟨'T', "no-target-directory", .no⟩, ⟨'r', "relative", .no⟩,
      ⟨'t', "target-directory", .yes⟩, ⟨'i', "interactive", .no⟩, ⟨'L', "logical", .no⟩,
      ⟨'P', "physical", .no⟩, ⟨'b', "", .no⟩, ⟨'b', "backup", .maybe⟩, ⟨'S', "suffix", .yes⟩,
      ⟨'d', "directory", .no⟩, ⟨'F', "", .no⟩] 1 name words fun given => do
    if given.has 'r' && !given.has 's' then
      Tool.complain name "cannot do --relative without --symbolic"
      return 1
    match ← readOperands name given "failed to access" true (!given.has 'n') with
    | none => return 1
    | some errand =>
      match ← readBackup name given with
      | none => return 1
      | some backup =>
        let last := given.last? ['f', 'i']
        let m : Manner :=
          { name, symbolic := given.has 's', relative := given.has 'r'
            follows := given.last? ['L', 'P'] = some 'L', forces := last = some 'f'
            asks := last = some 'i', tells := given.has 'v', backup }
        return if ← linkAll m [] errand.pairings then 0 else 1

def link : Tool := fun _ name words =>
  Tool.withOptions [] 1 name words fun given => do
    match given.operands with
    | [] => Tool.misuse name "missing operand" 1
    | [only] => Tool.misuse name ("missing operand after " ++ Quoting.plain only) 1
    | [source, target] =>
      let answer ← match ← find false source with
        | .error fault => pure (some fault)
        | .ok { node := .directory _, .. } => pure (some .notPermitted)
        | .ok found => makeTwin found.location target
      match answer with
      | none => return 0
      | some fault =>
        Tool.complain name ("cannot create link " ++ both target " to " source ++ ": " ++
          fault.description)
        return 1
    | _ :: _ :: extra :: _ => Tool.misuse name ("extra operand " ++ Quoting.plain extra) 1

end Linking
end Shell
end LineShell
