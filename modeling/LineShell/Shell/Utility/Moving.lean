import LineShell.Shell.Utility.Placing

/-!
# The program that gives files other names

This is `mv`.  What stands under the new name goes away, unless it is newer and that counts, or the
answer to a question is no.
-/

namespace LineShell
namespace Shell
namespace Moving

open Placing

structure Manner where
  name : Octets
  asks : Bool
  skips : Bool
  tells : Bool
  /-- Whether only older files are replaced. -/
  updates : Bool
  backup : Option Backup

/-- Complains; the move has failed. -/
def object (m : Manner) (text : Octets) : Run Bool := do
  Tool.complain m.name text
  return false

/-- Complains about a fault; the move has failed. -/
def objectTo (m : Manner) (about : Octets) (fault : Fault) : Run Bool := do
  Tool.fault m.name about fault
  return false

/-- Complains that something could not be given its new name. -/
def cannotMove (m : Manner) (source target : Octets) (fault : Fault) : Run Bool :=
  match fault with
  | .invalid =>
    object m ("cannot move " ++ Quoting.always source ++ " to a subdirectory of itself, " ++
      Quoting.always target)
  | .notEmpty | .exists | .isDirectory =>
    objectTo m ("cannot overwrite " ++ Quoting.always target) fault
  | _ => objectTo m ("cannot move " ++ both source " to " target) fault

/-- Whether moving a source over what has its new name already loses nothing. -/
def isSafe (m : Manner) (source target : Octets) (old new : Found) : Run Bool := do
  let tree := (← get).files.tree
  let same := old.isSame new
  let named ← sameName source target
  if old.isLink && new.isLink then return !named
  else if m.backup.isSome then return !same || !named
  else if new.isLink then return true
  else if old.isLink then
    match ← find true source with
    | .ok referent =>
      return if Found.hasTwins tree new then referent.location != new.location
        else !referent.isSame new
    | .error _ => return true
  else return !same

def finish (m : Manner) (source target : Octets) (old : Found) (backup : Option Octets) :
    Run Bool := do
  let answer ← if Removing.endsInDots source then pure (some .busy) else rename old target
  match answer with
  | some fault => cannotMove m source target fault
  | none =>
    if m.tells then
      Run.emitLine ("renamed " ++ both source " -> " target ++ mention backup)
    return true

/-- Replaces what has the new name of a source already, unless it was made just now. -/
def replace (m : Manner) (made : List Location) (source target : Octets) (old new : Found) :
    Run Bool := do
  if m.skips then return true
  if !(← isSafe m source target old new) then
    return ← refuseSame m.name source target
  if m.updates && !old.node.isDirectory && !(← old.isNewer new) then return true
  if m.asks then
    if !(← mayReplace m.name true target new.node) then return true
  let keeps := m.backup.isSome
  if old.node.isDirectory && !new.node.isDirectory && !keeps then
    return ← object m ("cannot overwrite non-directory " ++ Quoting.always target ++
      " with directory " ++ Quoting.always source)
  if !new.node.isDirectory && made.contains new.location then
    return ← object m ("will not overwrite just-created " ++ both target " with " source)
  if !old.node.isDirectory && new.node.isDirectory && !keeps then
    return ← object m ("cannot overwrite directory " ++ Quoting.always target ++
      " with non-directory")
  match m.backup.filter fun _ => !Removing.endsInDots source with
  | none => finish m source target old none
  | some b =>
    if ← isBackup b source target old then
      return ← object m ("backing up " ++ Quoting.always target ++ " might destroy source;  " ++
        Quoting.always source ++ " not moved")
    match ← keep b target new with
    | .error fault => objectTo m ("cannot backup " ++ Quoting.always target) fault
    | .ok backup => finish m source target old (some backup)

/-- Moves a source to its new name, given what was made just now. -/
def moveOne (m : Manner) (made : List Location) (pairing : Pairing) : Run Bool := do
  let (source, target) := pairing
  match ← find false source with
  | .error fault => objectTo m ("cannot stat " ++ Quoting.always source) fault
  | .ok old =>
    match ← find false target with
    | .ok new => replace m made source target old new
    | .error .notFound => finish m source target old none
    | .error fault => objectTo m ("cannot stat " ++ Quoting.always target) fault

/-- Moves sources one after the other, and notes where their new names are. -/
def moveAll (m : Manner) : List Location → List Pairing → Run Bool
  | _, [] => return true
  | made, pairing :: rest => do
    let done ← moveOne m made pairing
    let site ← siteOf pairing.2
    let others ← moveAll m (if done then site.toList ++ made else made) rest
    return done && others

def mv : Tool := fun _ name words =>
  Tool.withOptions [⟨'f', "force", .no⟩, ⟨'i', "interactive", .no⟩, ⟨'n', "no-clobber", .no⟩,
      ⟨'v', "verbose", .no⟩, ⟨'T', "no-target-directory", .no⟩, ⟨'u', "update", .no⟩,
      ⟨'t', "target-directory", .yes⟩, ⟨'b', "", .no⟩, ⟨'b', "backup", .maybe⟩,
      ⟨'S', "suffix", .yes⟩, ⟨'\x01', "strip-trailing-slashes", .no⟩, ⟨'Z', "context", .no⟩]
      1 name words fun given => do
    match ← readOperands name given "target directory" false true with
    | none => return 1
    | some errand =>
      let last := given.last? ['f', 'i', 'n']
      if last = some 'n' && (given.has 'b' || given.has 'S') then
        return ← Tool.misuse name "options --backup and --no-clobber are mutually exclusive" 1
      match ← readBackup name given with
      | none => return 1
      | some backup =>
        let m : Manner :=
          { name, asks := last = some 'i', skips := last = some 'n', tells := given.has 'v'
            updates := given.has 'u', backup }
        let strip := fun (path : Octets) =>
          if given.has '\x01' then Removing.withoutSlashes path else path
        let pairings := errand.pairings.map fun pairing => (strip pairing.1, pairing.2)
        return if ← moveAll m [] pairings then 0 else 1

end Moving
end Shell
end LineShell
