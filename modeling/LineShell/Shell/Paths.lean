import LineShell.Files.Edit
import LineShell.Shell.Streams

/-!
# Paths of a process

A process names files by bytes, which the tree knows as texts.  The paths of a process start where
it is.  A few paths lead to the descriptors of the process itself.
-/

namespace LineShell
namespace Shell

/-- Where a process is, and the files, after directories have moved. -/
def Place.moved (old new : Location) (p : Place) : Place :=
  if old.isSuffixOf p.live then
    { p with live := p.live.take (p.live.length - old.length) ++ new }
  else p

namespace Run

def pathOf (text : Octets) : Except Fault Path :=
  if text.isEmpty then .error .notFound
  else if Path.lengthLimit ≤ text.length then .error .nameTooLong
  else .ok (Path.ofString (Octets.toText text))

def descriptorAt? (text : Octets) : Option Nat :=
  let numbered := fun start : String =>
    if text.startsWith start then (text.drop start.length).toString.toNat? else none
  match text with
  | "/dev/stdin" => some 0
  | "/dev/stdout" => some 1
  | "/dev/stderr" => some 2
  | _ => numbered "/dev/fd/" <|> numbered "/proc/self/fd/"

/-- What a path leads to, where a last link is followed if asked for. -/
def spotAt (follow : Bool) (text : Octets) : Run (Except Fault Tree.Spot) := do
  let s ← get
  return (pathOf text).bind fun path =>
    if follow then s.files.tree.reach s.here path else s.files.tree.spot s.here path

def nodeAt (follow : Bool) (text : Octets) : Run (Except Fault Node) := do
  let s ← get
  let path := Path.ofString (Octets.toText text)
  match ← spotAt (follow || path.slash) text with
  | .ok (.directory place) =>
    if place.exists? then
      return (s.files.tree.find? place.live).elim (.error .notFound) .ok
    else return if s.here.exists? then .error .notFound else .ok (.directory {})
  | .ok (.leaf _ node) => return .ok node
  | .ok (.vacant ..) => return .error .notFound
  | .error fault => return .error fault

def leadsSomewhere (text : Octets) : Run Bool := do
  return (← nodeAt true text).toOption.isSome

def putTree (tree : Tree) : Run Unit := modify fun s =>
  { s with files := { s.files with tree }, stamps := s.stamps.follow s.files.tree tree }

/-- Puts another tree in place of the one there is, in which directories may be gone. -/
def setTree (tree : Tree) : Run Unit := do
  putTree tree
  modify fun s => { s with files := s.files.withTree tree, here := tree.settle s.here }

/-- Makes a change of the tree through a path; the answer is why that failed. -/
def edit (op : Tree → Place → Path → Except Fault Tree) (text : Octets) : Run (Option Fault) := do
  let s ← get
  match (pathOf text).bind (op s.files.tree s.here) with
  | .ok tree =>
    setTree tree
    return none
  | .error fault => return some fault

def namesIn (text : Octets) : Run (Except Fault (List Octets)) := do
  let s ← get
  return ((pathOf text).bind (s.files.tree.listDir s.here)).map (·.map Octets.ofText)

/-- Takes the bits of a mode away that the process does not give. -/
def masked (mode mask : Nat) : Nat := mode &&& (0o7777 ^^^ mask)

def makeFile (text : Octets) : Run (Option Fault) := do
  let before ← nodeAt true text
  match ← edit Tree.createFile text with
  | some fault => return some fault
  | none =>
    if before.toOption.isNone then
      match ← spotAt true text with
      | .ok (.leaf location (.file _)) =>
        modify fun s =>
          let tree := s.files.tree.alterFile location fun file =>
            { file with mode := masked 0o666 s.mask }
          { s with files := { s.files with tree } }
      | _ => pure ()
    return none

def restamp (location : Location) (change : Stamps → Stamps) : Run Unit := modify fun s =>
  if (s.files.tree.find? location).any Node.isDirectory then
    { s with stamps := s.stamps.alter location change }
  else
    let tree := s.files.tree.alterFile location fun file =>
      { file with stamps := change file.stamps }
    { s with files := { s.files with tree } }

structure Opening where
  reads : Bool := false
  writes : Bool := false
  appends : Bool := false
  creates : Bool := false
  truncates : Bool := false

def openPath (how : Opening) (text : Octets) : Run (Except Fault Nat) := do
  match descriptorAt? text with
  | some descriptor =>
    match ← channel? descriptor with
    | some (index, _) => return .ok index
    | none => return .error .notFound
  | none =>
    let isNew := how.creates && !(← leadsSomewhere text)
    let made ← if how.creates then makeFile text else pure none
    match made with
    | some fault => return .error fault
    | none =>
      match ← spotAt true text with
      | .error fault => return .error fault
      | .ok (.vacant ..) => return .error .notFound
      | .ok (.directory place) =>
        if how.writes then return .error .isDirectory
        else if place.exists? && !(← get).files.tree.permits place.live .read then
          return .error .noAccess
        else return .ok (← newChannel (.directory place.live))
      | .ok (.leaf location (.file file)) =>
        let node := Node.file file
        let refused := how.reads && !node.grants .read || how.writes && !node.grants .write
        if refused && !isNew then
          return .error .noAccess
        if how.truncates then changeContent location fun _ => ""
        return .ok (← newChannel (.file location 0 how.reads how.writes how.appends))
      | .ok (.leaf _ (.device device)) => return .ok (← newChannel (.device device))
      | .ok (.leaf ..) => return .error .tooManyLinks

def readPath (text : Octets) : Run (Except Fault (List Char)) := do
  match descriptorAt? text with
  | some descriptor => readAll descriptor
  | none =>
    match ← spotAt true text with
    | .error fault => return .error fault
    | .ok (.vacant ..) => return .error .notFound
    | .ok (.directory _) => return .error .isDirectory
    | .ok (.leaf _ (.file file)) =>
      return if (Node.file file).grants .read then .ok file.content.toList else .error .noAccess
    | .ok (.leaf _ (.device .null)) => return .ok []
    | .ok (.leaf ..) => return .ok (List.replicate pipeLimit '\x00')

/-- Writes a text to a file, which is made or emptied first. -/
def writePath (name text : Octets) : Run (Option Fault) := do
  match ← openPath { writes := true, creates := true, truncates := true } name with
  | .error fault => return some fault
  | .ok index =>
    let before := (← get).descriptors
    setDescriptor 1000 (some index)
    let answer ← write 1000 text
    modify fun s => { s with descriptors := before }
    return answer

/-- Moves what stands at a location to a free one, with all that is below it. -/
def relocate (old new : Location) : Run Unit := modify fun s =>
  let moved := fun location : Location =>
    if old.isSuffixOf location then location.take (location.length - old.length) ++ new
    else location
  let entries := s.files.tree.entries.map fun entry => (moved entry.1, entry.2)
  let stamps : FolderStamps := s.stamps.map fun entry => (moved entry.1, entry.2)
  let channels := s.channels.map fun channel =>
    match channel with
    | .file location offset reads writes appends =>
      .file (if location = old then new else location) offset reads writes appends
    | other => other
  { s with
    files := { tree := { entries }, cwd := Place.moved old new s.files.cwd }
    stamps := (stamps.renew old.tail).renew new.tail
    here := Place.moved old new s.here
    channels
    moves := s.moves ++ [(old, new)] }

end Run
end Shell
end LineShell
