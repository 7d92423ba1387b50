import LineShell.Shell.Utility.Permitting
import LineShell.Shell.Utility.Placing
import LineShell.Shell.Utility.Stamping

/-!
# Programs that make copies

These are `cp` and `install`.  A directory is copied with what is inside it, if asked for.  A file
that was copied once may get another name instead of another copy, so that names of one file stay
so.
-/

namespace LineShell
namespace Shell
namespace Copying

open Placing

inductive Following where
  | nothing
  | operands
  | everything
  deriving DecidableEq, Repr

/-- What is made of a file. -/
inductive Product where
  | copy
  | twin
  | link
  deriving DecidableEq, Repr

/-- What a copy has from its source beside the bytes. -/
structure Keeping where
  mode : Bool := false
  stamps : Bool := false
  /-- Whether names of one file become names of one copy. -/
  twins : Bool := false

structure Manner where
  name : Octets
  product : Product := .copy
  inside : Bool := false
  follows : Following := .everything
  /-- Whether a device is read as a file. -/
  reads : Bool := true
  asks : Bool := false
  skips : Bool := false
  tells : Bool := false
  /-- Whether only older files are replaced. -/
  updates : Bool := false
  /-- Whether a file is taken away that cannot be opened. -/
  forces : Bool := false
  /-- Whether files are taken away that are in the way. -/
  removes : Bool := false
  backup : Option Backup := none
  fills : Bool := true
  keeps : Keeping := {}
  /-- The mode of each copy, whatever the mask. -/
  mode : Option Nat := none
  /-- Whether copies get the mode of new files. -/
  forgetsMode : Bool := false
  /-- Whether there are several operands for a directory. -/
  many : Bool := false

structure Journal where
  /-- Where the operands stand. -/
  sources : List Location := []
  /-- Where the copies of operands stand. -/
  made : List Location := []
  /-- What was copied, with the path of the copy. -/
  copied : List (Found × Octets) := []
  /-- Whether a directory was made for this operand. -/
  hasDirectory : Bool := false
  /-- Whether a directory was about to be copied into itself. -/
  isCircular : Bool := false

/-- The work of copying, which keeps a journal. -/
abbrev Work := StateT Journal Run

/-- One step of the work: the operand and its new name, whether it is the source itself, the
directories around the source, and the source and its new name. -/
structure Job where
  whole : Pairing
  top : Bool := true
  around : List Location := []
  source : Octets
  target : Octets

/-- How a step goes on when something has the new name already. -/
inductive Verdict where
  | done (success : Bool)
  /-- The copy is made; whether under a free name, and which backup there is. -/
  | go (isNew : Bool) (backup : Option Octets)

/-- Complains; the step has failed. -/
def object (m : Manner) (text : Octets) : Run Bool := do
  Tool.complain m.name text
  return false

/-- Complains about a fault; the step has failed. -/
def objectTo (m : Manner) (about : Octets) (fault : Fault) : Run Bool := do
  Tool.fault m.name about fault
  return false

def Manner.followsAt (m : Manner) (top : Bool) : Bool :=
  m.follows = .everything || top && m.follows = .operands

def isLinkAt (path : Octets) : Run Bool := do
  return match ← find false path with
    | .ok found => found.isLink
    | .error _ => false

/-! ## What is in the way -/

/-- Whether copying over a file loses nothing of the source: none if nothing need be done. -/
def isSafe (m : Manner) (job : Job) (old new : Found) : Run (Option Bool) := do
  let tree := (← get).files.tree
  let same := old.isSame new
  if same && m.product = .twin then return none
  let named ← sameName job.source job.target
  let never := !m.followsAt job.top
  if never && old.isLink && new.isLink then return some (!named)
  if !never && !same then return some true
  match ← find false job.source, ← find false job.target with
  | .ok first, .ok second =>
    let (first, second) := if never then (old, new) else (first, second)
    let sameLink := first.isSame second
    if !never && first.isLink && second.isLink && m.removes then return some true
    if m.backup.isSome then
      if !sameLink then return some (never || !first.isLink || second.isLink)
      else return some (!named)
    if m.removes then
      if second.isLink then return some true
      if sameLink && Found.hasTwins tree second && !named then return some true
    if !first.isLink && !second.isLink && !sameLink then return some true
    if m.product = .link && second.isLink then return some true
    if never then
      match ← find true job.source, ← find true job.target with
      | .ok a, .ok b => return if a.isSame b then some false else some true
      | _, _ => return some true
    return some false
  | _, _ => return some true

/-- Takes away what has the new name; the answer is whether that failed. -/
def clear (m : Manner) (target : Octets) : Run (Option Fault) := do
  match ← Run.edit Tree.removeFile target with
  | some fault => return some fault
  | none =>
    if m.tells then Run.emitLine ("removed " ++ Quoting.always target)
    return none

/-- Makes room for a copy, after it is clear that what is there may go. -/
def makeRoom (m : Manner) (job : Job) (old new : Found) : Run Verdict := do
  match m.backup.filter fun _ => !Removing.endsInDots job.source && !new.node.isDirectory with
  | some b =>
    if ← isBackup b job.source job.target old then
      let _ ← object m ("backing up " ++ Quoting.always job.target ++ " might destroy source;  " ++
        Quoting.always job.source ++ " not copied")
      return .done false
    match ← keep b job.target new with
    | .ok backup => return .go true (some backup)
    | .error fault =>
      let _ ← objectTo m ("cannot backup " ++ Quoting.always job.target) fault
      return .done false
  | none =>
    let regular := match old.node with
      | .file _ => true
      | _ => false
    let tree := (← get).files.tree
    let clears := m.removes || m.fills && (m.keeps.twins && Found.hasTwins tree new ||
      m.follows = .nothing && !regular)
    if new.node.isDirectory || !clears then return .go false none
    match ← clear m job.target with
    | none => return .go true none
    | some fault =>
      let _ ← objectTo m ("cannot remove " ++ Quoting.always job.target) fault
      return .done false

/-- Decides what becomes of something that has the new name already. -/
def judge (m : Manner) (made : List Location) (job : Job) (old new : Found) : Run Verdict := do
  let directory := old.node.isDirectory
  let refuse := fun (text : Octets) => do
    let _ ← object m text
    return Verdict.done false
  let safe ← if m.skips then pure (some true) else isSafe m job old new
  if safe = some false then
    let _ ← refuseSame m.name job.source job.target
    return .done false
  if !directory then
    if m.updates && !(← old.isNewer new) then return .done true
    if m.skips then return .done true
    if m.asks then
      if !(← mayReplace m.name (m.removes || m.forces) job.target new.node) then
        return .done true
  if safe.isNone then return .done true
  if directory && !new.node.isDirectory then
    return ← refuse ("cannot overwrite non-directory " ++ Quoting.always job.target ++
      " with directory " ++ Quoting.always job.source)
  if !new.node.isDirectory && job.top && made.contains new.location then
    return ← refuse ("will not overwrite just-created " ++ both job.target " with " job.source)
  if !directory && new.node.isDirectory then
    return ← refuse ("cannot overwrite directory " ++ Quoting.always job.target ++
      " with non-directory")
  makeRoom m job old new

/-! ## Making the copy -/

def adorn (m : Manner) (sourceMode : Nat) (stamps : Stamps) (path : Octets) (isNew : Bool) :
    Run Unit := do
  match ← find (!(← isLinkAt path)) path with
  | .ok { location, node } =>
    let mask := (← get).mask
    let usual := if node.isDirectory then 0o777 else 0o666
    let mode := match m.mode with
      | some mode => some mode
      | none =>
        if m.keeps.mode then some sourceMode
        else if m.forgetsMode then some (Run.masked usual mask)
        else if isNew then some (Run.masked sourceMode mask)
        else none
    if let some mode := mode then Permitting.setMode location mode
    if m.keeps.stamps then Run.restamp location fun _ => stamps
  | .error _ => pure ()

/-- Writes the bytes of a copy; the answer is why that failed. -/
def fill (m : Manner) (target text : Octets) (isNew : Bool) : Run (Option Fault) :=
  if m.fills then Run.writePath target text
  else if isNew then Run.makeFile target
  else return none

def copyBytes (m : Manner) (job : Job) (source : Found) (isNew : Bool) : Run Bool := do
  let target := job.target
  match ← Run.readPath job.source with
  | .error fault =>
    objectTo m ("cannot open " ++ Quoting.always job.source ++ " for reading") fault
  | .ok octets =>
    let dangling ← isLinkAt target
    if isNew && dangling && !(← Run.leadsSomewhere target) then
      return ← object m ("not writing through dangling symlink " ++ Quoting.always target)
    let text := String.ofList octets
    let first ← fill m target text isNew
    let retries := first.isSome && !isNew && m.forces
    let cleared ← if retries then clear m target else pure none
    if let some fault := cleared then
      return ← objectTo m ("cannot remove " ++ Quoting.always target) fault
    let isNew := isNew || retries
    match ← if retries then fill m target text true else pure first with
    | some fault =>
      let fault := if fault = .isDirectory && target.endsWith "/" then .notDirectory else fault
      objectTo m ("cannot create regular file " ++ Quoting.always target) fault
    | none =>
      adorn m source.node.mode (← source.stamps) target isNew
      return true

/-- Makes a link or a second name in place of a copy, where what is in the way may be replaced. -/
def replaceWith (target : Octets) (replaces : Bool)
    (make : Octets → Run (Option Fault)) : Run (Option Fault) := do
  match ← make target with
  | some .exists =>
    if !replaces then return some .exists
    match ← Run.edit Tree.removeFile target with
    | some fault => return some fault
    | none => make target
  | answer => return answer

def twinOf (m : Manner) (follows replaces : Bool) (source target : Octets) : Run Bool := do
  let answer ← match ← find follows source with
    | .ok found => replaceWith target replaces (makeTwin found.location)
    | .error fault => pure (some fault)
  match answer with
  | none => return true
  | some fault => objectTo m ("cannot create hard link " ++ both target " to " source) fault

def copyLeaf (m : Manner) (job : Job) (source : Found) (isNew : Bool) : Run Bool := do
  let { source := path, target, .. } := job
  match m.product, source.node with
  | .link, _ =>
    let here := (← get).here.live
    let there ← find true (around target)
    if !path.startsWith "/" && there.toOption.any fun found => found.location != here then
      return ← object m (Quoting.ifNeeded target ++
        ": can make relative symbolic links only in current directory")
    match ← replaceWith target m.forces (makeLink path) with
    | some fault => objectTo m ("cannot create symbolic link " ++ both target " to " path) fault
    | none => return true
  | .twin, _ =>
    twinOf m (m.followsAt job.top) (m.forces || m.asks) path target
  | .copy, .link text =>
    match ← replaceWith target m.forces (makeLink (Octets.ofText text)) with
    | some fault => objectTo m ("cannot create symbolic link " ++ Quoting.always target) fault
    | none => return true
  | .copy, .file _ => copyBytes m job source isNew
  | .copy, _ =>
    if m.reads then copyBytes m job source isNew
    else object m ("cannot create special file " ++ Quoting.always target ++
      ": Operation not permitted")

def tell (m : Manner) (job : Job) (backup : Option Octets) : Run Unit := do
  if m.tells then Run.emitLine (both job.source " -> " job.target ++ mention backup)

/-! ## The work -/

/-- Whether a copy of a file is to be remembered, as more names of the file may come. -/
def isRemembered (m : Manner) (tree : Tree) (top : Bool) (source : Found) : Bool :=
  if source.node.isDirectory then m.inside && top
  else
    m.keeps.twins && m.product != .twin &&
      (Found.hasTwins tree source || m.follows = .everything || top && m.follows = .operands)

/-- The path of an earlier copy, if there is one; otherwise this one may be remembered. -/
def earlierCopy (m : Manner) (job : Job) (source : Found) : Work (Option Octets) := do
  let s ← (get : Run Surroundings)
  let remembers := isRemembered m s.files.tree job.top source
  if !remembers && !source.node.isDirectory then return none
  match (← get).copied.find? fun copy => copy.1.isSame source with
  | some copy => return some copy.2
  | none =>
    if remembers then
      modify fun j => { j with copied := (source, job.target) :: j.copied }
    return none

def repeatDirectory (m : Manner) (job : Job) (earlier : Octets) : Work (Option Bool) := do
  let complain := fun (text : Octets) => do
    Tool.complain m.name text
    return some false
  if ← (sameName job.source earlier : Run _) then
    modify fun j => { j with isCircular := true }
    complain ("cannot copy a directory, " ++ both job.whole.1 ", into itself, " job.whole.2)
  else if ← (sameName job.target earlier : Run _) then
    let _ ← complain ("warning: source directory " ++ Quoting.always job.whole.1 ++
      " specified more than once")
    return some true
  else if m.followsAt job.top then return none
  else
    complain ("will not create hard link " ++ both job.target " to directory " earlier)

/-- Makes the directory of a copy, and remembers it if it is the first one. -/
def makeDirectory (m : Manner) (job : Job) (source : Node) : Work Bool := do
  let mode := source.mode ||| 0o700
  match ← (Making.makeDirectory mode job.target : Run _) with
  | some fault => objectTo m ("cannot create directory " ++ Quoting.always job.target) fault
  | none =>
    if !(← get).hasDirectory then
      if let .ok made ← (find false job.target : Run _) then
        modify fun j => { j with copied := (made, job.target) :: j.copied, hasDirectory := true }
    tell m job none
    return true

def restore (m : Manner) (target : Octets) : Option Octets → Run Unit
  | none => return ()
  | some backup => do
    if let .ok found ← find false backup then
      match ← rename found target with
      | some fault => Tool.fault m.name ("cannot un-backup " ++ Quoting.always target) fault
      | none =>
        if m.tells then Run.emitLine (both backup " -> " target ++ " (unbackup)")

/-- Whether a step would write through a link that was made just now. -/
def isTrapped (m : Manner) (made : List Location) (job : Job) : Run Bool := do
  if !job.top || !m.many || m.backup.isSome then return false
  match ← find false job.target with
  | .ok found => return found.isLink && made.contains found.location
  | .error _ => return false

/-- Copies a source to its new name, with what is inside it. -/
def copyOne (m : Manner) : Nat → Job → Work Bool
  | 0, _ => return false
  | depth + 1, job => do
    if job.top then modify fun j => { j with hasDirectory := false, isCircular := false }
    match ← (find (m.followsAt job.top) job.source : Run _) with
    | .error fault => objectTo m ("cannot stat " ++ Quoting.always job.source) fault
    | .ok old =>
      let directory := old.node.isDirectory
      if directory && !m.inside then
        let omission := if m.mode.isSome then "omitting directory " else
          "-r not specified; omitting directory "
        return ← object m (omission ++ Quoting.always job.source)
      if job.top && m.many then
        let site ← (siteOf job.source : Run _)
        let seen := site.any (← get).sources.contains
        if !directory && m.backup.isNone && seen then
          let _ ← (object m ("warning: source file " ++ Quoting.always job.source ++
            " specified more than once") : Run _)
          return true
        modify fun j => { j with sources := site.toList ++ j.sources }
      let regular := match old.node with
        | .file _ => true
        | _ => false
      let itself := !regular && (!m.reads || directory || old.isLink) || m.product != .copy ||
        m.backup.isSome || m.removes
      match ← (find (!itself) job.target : Run _) with
      | .ok new =>
        let made := (← get).made
        match ← (judge m made job old new : Run _) with
        | .done success => return success
        | .go isNew backup => go depth job old isNew backup
      | .error fault =>
        if fault = .notFound then go depth job old true none
        else if fault = .tooManyLinks && m.forces then go depth job old false none
        else objectTo m ("cannot stat " ++ Quoting.always job.target) fault
where
  go (depth : Nat) (job : Job) (old : Found) (isNew : Bool) (backup : Option Octets) :
      Work Bool := do
    let directory := old.node.isDirectory
    if ← (isTrapped m (← get).made job : Run _) then
      return ← object m ("will not copy " ++ both job.source " through just-created symlink "
        job.target)
    if !directory then tell m job backup
    let before := (← get).copied
    let done ← match ← earlierCopy m job old with
      | none => make depth job old isNew
      | some earlier =>
        if directory then
          match ← repeatDirectory m job earlier with
          | some answer => pure answer
          | none => make depth job old isNew
        else twinOf m false true earlier job.target
    if !done then
      if !directory then modify fun j => { j with copied := before }
      restore m job.target backup
    if done && job.top && m.many then
      if let some site ← (siteOf job.target : Run _) then
        modify fun j => { j with made := site :: j.made }
    return done
  make (depth : Nat) (job : Job) (old : Found) (isNew : Bool) : Work Bool := do
    if !old.node.isDirectory then return ← copyLeaf m job old isNew
    if job.around.contains old.location then
      return ← object m ("cannot copy cyclic symbolic link " ++ Quoting.always job.source)
    let stamps ← (old.stamps : Run Stamps)
    if isNew then
      if !(← makeDirectory m job old.node) then return false
    let done ← match ← (Run.namesIn job.source : Run _) with
    | .error fault => objectTo m ("cannot access " ++ Quoting.always job.source) fault
    | .ok names =>
      let results ← names.mapM fun name => do
        if (← get).isCircular then return true
        copyOne m depth
          { whole := job.whole, top := false, around := old.location :: job.around
            source := Removing.inside job.source name
            target := Removing.inside job.target name }
      pure (results.all id)
    adorn m old.node.mode stamps job.target isNew
    return done

def copyAll (m : Manner) (pairings : List Pairing) : Run Bool := do
  let work : Work (List Bool) := pairings.mapM fun pairing =>
    copyOne m 1000 { whole := pairing, source := pairing.1, target := pairing.2 }
  let (results, _) ← work.run {}
  return results.all id

/-! ## Copies with the directories around them -/

/-- Makes a directory like one that is around a source, if it is missing. -/
def makeLike (m : Manner) (source target : Octets) : Run Bool := do
  let there ← Run.nodeAt true target
  let stamps := (← Stamping.stampsAt true source).toOption.getD {}
  match there, ← Run.nodeAt true source with
  | .ok node, _ =>
    if node.isDirectory then return true
    object m (Quoting.always target ++ " exists but is not a directory")
  | .error _, .ok (.directory folder) =>
    match ← Making.makeDirectory (folder.mode ||| 0o700) target with
    | some fault => objectTo m ("cannot make directory " ++ Quoting.always target) fault
    | none =>
      if m.tells then Run.emitLine (source ++ " -> " ++ target)
      adorn m folder.mode stamps target true
      return true
  | .error _, .ok _ =>
    objectTo m ("failed to get attributes of " ++ Quoting.always source) .notDirectory
  | .error _, .error fault =>
    objectTo m ("failed to get attributes of " ++ Quoting.always source) fault

def makeAllLike (m : Manner) (directory : Octets) : List Octets → Run Bool
  | [] => return true
  | path :: rest => do
    if ← makeLike m path (Removing.inside directory path) then makeAllLike m directory rest
    else return false

def copyWithAround (m : Manner) (directory : Octets) (sources : List Octets) : Run Bool := do
  let work : Work (List Bool) := sources.mapM fun source => do
    let path := Removing.withoutSlashes source
    if !(← (makeAllLike m directory (Making.ancestors path) : Run _)) then return false
    let pairing := (source, Removing.inside directory path)
    copyOne m 1000 { whole := pairing, source, target := pairing.2 }
  let (results, _) ← work.run {}
  return results.all id

/-! ## The program that copies -/

/-- What may be kept of a file. -/
inductive Trait where
  | mode
  | stamps
  | twins
  | all
  | other
  deriving DecidableEq, Repr

def traitNames : List (List String × Trait) :=
  [(["mode"], .mode), (["timestamps"], .stamps), (["ownership"], .other), (["links"], .twins),
   (["context"], .other), (["xattr"], .other), (["all"], .all)]

def Keeping.put (keeps : Keeping) (value : Bool) : Trait → Keeping
  | .mode => { keeps with mode := value }
  | .stamps => { keeps with stamps := value }
  | .twins => { keeps with twins := value }
  | .all => { mode := value, stamps := value, twins := value }
  | .other => keeps

def readTraits (name option : Octets) : List Octets → Run (Option (List Trait))
  | [] => return some []
  | word :: rest => do
    match ← Tool.choose name option word traitNames with
    | none => return none
    | some trait => return (← readTraits name option rest).map (trait :: ·)

/-- What options ask to keep, from the first option on; with whether modes are to be forgotten. -/
def readKeeping (name : Octets) : List GivenOption → Keeping × Bool →
    Run (Option (Keeping × Bool))
  | [], result => return some result
  | (letter, value) :: rest, (keeps, forgets) => do
    match letter, value with
    | 'p', _ | '\x01', none =>
      readKeeping name rest ({ keeps with mode := true, stamps := true }, forgets)
    | 'a', _ => readKeeping name rest (keeps.put true .all, forgets)
    | 'd', _ => readKeeping name rest (keeps.put true .twins, forgets)
    | '\x01', some text | '\x04', some text =>
      let positive := letter = '\x01'
      let option := if positive then "--preserve" else "--no-preserve"
      let words := (text.splitOn ",").map fun word => word
      match ← readTraits name option words with
      | none => return none
      | some traits =>
        let keeps := traits.foldl (fun keeps trait => keeps.put positive trait) keeps
        let forgets := if traits.any fun trait => trait = .mode || trait = .all then !positive
          else forgets
        readKeeping name rest (keeps, forgets)
    | _, _ => readKeeping name rest (keeps, forgets)

def copyShapes : OptionShapes :=
  [⟨'r', "recursive", .no⟩, ⟨'R', "", .no⟩, ⟨'a', "archive", .no⟩, ⟨'d', "", .no⟩, ⟨'p', "", .no⟩,
   ⟨'P', "no-dereference", .no⟩, ⟨'L', "dereference", .no⟩, ⟨'H', "", .no⟩, ⟨'f', "force", .no⟩,
   ⟨'i', "interactive", .no⟩, ⟨'n', "no-clobber", .no⟩, ⟨'v', "verbose", .no⟩, ⟨'l', "link", .no⟩,
   ⟨'s', "symbolic-link", .no⟩, ⟨'u', "update", .no⟩, ⟨'T', "no-target-directory", .no⟩,
   ⟨'t', "target-directory", .yes⟩, ⟨'b', "", .no⟩, ⟨'b', "backup", .maybe⟩, ⟨'S', "suffix", .yes⟩,
   ⟨'x', "one-file-system", .no⟩, ⟨'Z', "", .no⟩, ⟨'Z', "context", .maybe⟩,
   ⟨'\x01', "preserve", .maybe⟩, ⟨'\x02', "parents", .no⟩, ⟨'\x03', "remove-destination", .no⟩,
   ⟨'\x04', "no-preserve", .yes⟩, ⟨'\x05', "attributes-only", .no⟩,
   ⟨'\x06', "strip-trailing-slashes", .no⟩, ⟨'\x07', "copy-contents", .no⟩,
   ⟨'\x08', "sparse", .yes⟩, ⟨'\x0b', "reflink", .maybe⟩]

def readManner (name : Octets) (given : Given) (many : Bool) : Run (Option Manner) := do
  let misuse := fun (text : Octets) => do
    let _ ← Tool.misuse name text 1
    return none
  let skips := given.last? ['i', 'n'] = some 'n'
  if given.has 'l' && given.has 's' then
    return ← misuse "cannot make both hard and symbolic links"
  if skips && (given.has 'b' || given.has 'S') then
    return ← misuse "options --backup and --no-clobber are mutually exclusive"
  match ← readKeeping name given.options ({}, false), ← readBackup name given with
  | some (keeps, forgetsMode), some backup =>
    let inside := given.has 'r' || given.has 'R' || given.has 'a'
    let follows := match given.last? ['P', 'L', 'H', 'a', 'd'] with
      | some 'L' => Following.everything
      | some 'H' => .operands
      | some _ => .nothing
      | none => if inside && !given.has 'l' then .nothing else .everything
    let product := if given.has 's' then Product.link else if given.has 'l' then .twin else .copy
    return some
      { name, product, inside, follows, skips, keeps, forgetsMode, many, backup
        reads := !inside || given.has '\x07', asks := given.last? ['i', 'n'] = some 'i'
        tells := given.has 'v', updates := given.has 'u' && !skips, forces := given.has 'f'
        removes := given.has '\x03' || given.has 'f' && product != .copy
        fills := !given.has '\x05' }
  | _, _ => return none

/-- Whether the words of options that choose a way to store bytes are known. -/
def readStorage (name : Octets) (given : Given) : Run Bool := do
  let ways := fun (texts : List String) => texts.map fun text => ([text], ())
  let check := fun (letter : Char) (option : String) (texts : List String) => do
    match given.value? letter with
    | none => return true
    | some word => return (← Tool.choose name option word (ways texts)).isSome
  if ← check '\x08' "--sparse" ["never", "auto", "always"] then
    check '\x0b' "--reflink" ["auto", "always", "never"]
  else return false

def cp : Tool := fun _ name words =>
  Tool.withOptions copyShapes 1 name words fun given => do
    if !(← readStorage name given) then return 1
    if (given.value? 'Z').isSome then
      Tool.complain name "warning: ignoring --context; it requires an SELinux-enabled kernel"
    match ← readManner name given false with
    | none => return 1
    | some manner =>
      match ← readOperands name given "target directory" false true with
      | none => return 1
      | some errand =>
        let m := { manner with many := errand.isMany }
        let strip := fun (path : Octets) =>
          if given.has '\x06' then Removing.withoutSlashes path else path
        let pairings : List Pairing := match errand.destination with
          | .directory _ => errand.pairings.map fun pairing => (strip pairing.1, pairing.2)
          | .name _ => errand.pairings
        let done ← match given.has '\x02', errand.destination, pairings with
          | true, .directory directory, _ => copyWithAround m directory (pairings.map (·.1))
          | true, .name _, _ =>
            let text := "with --parents, the destination must be a directory"
            return ← Tool.misuse name text 1
          | false, .name target, [(source, _)] =>
            match m.backup, ← find false source with
            | some b, .ok { node := .file _, .. } =>
              if m.forces && source = target then
                let backup ← backupName b target
                copyAll { m with backup := none } [(source, backup)]
              else copyAll m pairings
            | _, _ => copyAll m pairings
          | _, _, _ => copyAll m pairings
        return if done then 0 else 1

/-! ## The program that installs -/

def installDirectory (name : Octets) (tells : Bool) (mode : Nat) (path : Octets) : Run Bool := do
  let steps := Making.ancestors path ++ [path]
  let results ← steps.mapM fun step => do
    match ← Run.nodeAt true step with
    | .ok (.directory _) => return true
    | _ =>
      let mode := if step = path then mode else 0o755
      match ← Run.edit (Tree.createDirWith mode) step with
      | none =>
        if tells then Run.emitLine (name ++ ": creating directory " ++ Quoting.always step)
        return true
      | some fault =>
        Tool.fault name ("cannot create directory " ++ Quoting.always step) fault
        return false
  return results.all id

def isInstalled (mode : Nat) (pairing : Pairing) : Run Bool := do
  match ← Run.nodeAt true pairing.1, ← Run.nodeAt false pairing.2 with
  | .ok (.file source), .ok (.file copy) =>
    return source.content = copy.content && copy.mode = mode
  | _, _ => return false

/-- Installs sources under new names, after the directories around these are made if asked for. -/
def installAll (m : Manner) (mode : Nat) (grows compares : Bool) (pairings : List Pairing) :
    Run Bool := do
  let ready ← pairings.mapM fun pairing => do
    let directories := if grows then Making.ancestors pairing.2 else []
    let made ← directories.mapM (installDirectory m.name m.tells 0o755)
    return made.all id
  let wanted ← pairings.filterM fun pairing => do
    if !compares then return true
    return !(← isInstalled mode pairing)
  if ready.all id then copyAll m wanted else return false

def install : Tool := fun _ name words =>
  Tool.withOptions [⟨'d', "directory", .no⟩, ⟨'m', "mode", .yes⟩, ⟨'v', "verbose", .no⟩,
      ⟨'D', "", .no⟩, ⟨'T', "no-target-directory", .no⟩, ⟨'t', "target-directory", .yes⟩,
      ⟨'o', "owner", .yes⟩, ⟨'g', "group", .yes⟩, ⟨'c', "", .no⟩,
      ⟨'p', "preserve-timestamps", .no⟩, ⟨'s', "strip", .no⟩, ⟨'C', "compare", .no⟩,
      ⟨'b', "", .no⟩, ⟨'b', "backup", .maybe⟩, ⟨'S', "suffix", .yes⟩] 1 name words
      fun given => do
    let modeText := (given.value? 'm').getD "755"
    match FileMode.read modeText, ← readBackup name given with
    | none, _ =>
      Tool.complain name ("invalid mode " ++ Quoting.plain modeText)
      return 1
    | _, none => return 1
    | some change, some backup =>
      if given.has 'd' then
        let mode := FileMode.adjust change 0 true 0
        if given.operands.isEmpty then Tool.misuse name "missing file operand" 1
        else Tool.each given.operands (installDirectory name (given.has 'v') mode)
      else
        if let some target := given.value? 't' then
          if given.has 'D' then
            if !(← installDirectory name (given.has 'v') 0o755 target) then return 1
        match ← readOperands name given "failed to access" false true with
        | none => return 1
        | some errand =>
          let mode := FileMode.adjust change 0 false 0
          let m : Manner :=
            { name, tells := given.has 'v', removes := true, mode := some mode, backup
              keeps := { stamps := given.has 'p' }, many := errand.isMany }
          let grows := given.has 'D' && (given.value? 't').isNone
          let done ← installAll m mode grows (given.has 'C') errand.pairings
          return if done then 0 else 1

end Copying
end Shell
end LineShell
