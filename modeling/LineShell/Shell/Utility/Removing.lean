import LineShell.Shell.Utility.Making

/-!
# The program that takes files away

`rm` takes away files, and directories with all that is in them.  It may ask before each step; then
an answer is a line of its input that starts with a `y`.
-/

namespace LineShell
namespace Shell
namespace Removing

structure Manner where
  name : Octets
  inside : Bool
  emptyDirectories : Bool
  asks : Bool
  tells : Bool
  quiet : Bool

def readLine : Nat → Run (List Char)
  | 0 => return []
  | fuel + 1 => do
    match ← Run.read 0 1 with
    | .ok [c] => if c = '\n' then return [] else return c :: (← readLine fuel)
    | _ => return []

/-- Asks a question; the answer counts if it says yes. -/
def ask (name question : Octets) : Run Bool := do
  Run.murmur (name ++ ": " ++ question ++ "? ")
  let answer ← readLine 10000
  return answer.head?.any fun c => c = 'y' || c = 'Y'

def confirm (m : Manner) (question : Octets) : Run Bool :=
  if m.asks then ask m.name question else return true

/-- Tells why something could not be taken away. -/
def cannotRemove (m : Manner) (path : Octets) (fault : Fault) : Run Bool := do
  Tool.fault m.name ("cannot remove " ++ Quoting.always path) fault
  return false

def removeEmpty (m : Manner) (path : Octets) : Run Bool := do
  match ← Run.edit Tree.removeDir path with
  | some fault => cannotRemove m path fault
  | none =>
    if m.tells then Run.emitLine ("removed directory " ++ Quoting.always path)
    return true

def title : Node → String
  | .file file => if file.content.isEmpty then "regular empty file" else "regular file"
  | .link _ => "symbolic link"
  | .directory _ => "directory"
  | .device _ => "character special file"

def removeLeaf (m : Manner) (path : Octets) (node : Node) : Run Bool := do
  if !(← confirm m ("remove " ++ title node ++ " " ++ Quoting.always path)) then return true
  match ← Run.edit Tree.removeFile path with
  | some fault => cannotRemove m path fault
  | none =>
    if m.tells then Run.emitLine ("removed " ++ Quoting.always path)
    return true

def inside (directory name : Octets) : Octets :=
  if directory.endsWith "/" then directory ++ name else directory ++ "/" ++ name

/-- Takes away what a path leads to, and everything in it. -/
def removeTree (m : Manner) : Nat → Octets → Run Bool
  | 0, path => cannotRemove m path .nameTooLong
  | depth + 1, path => do
    match ← Run.nodeAt false path with
    | .error fault => cannotRemove m path fault
    | .ok (.directory _) =>
      let names := ((← Run.namesIn path).toOption).getD []
      if names.isEmpty then
        if !(← confirm m ("remove directory " ++ Quoting.always path)) then return true
        removeEmpty m path
      else
        if !(← confirm m ("descend into directory " ++ Quoting.always path)) then return true
        let results ← names.mapM fun name => removeTree m depth (inside path name)
        if !(← confirm m ("remove directory " ++ Quoting.always path)) then
          return results.all id
        if results.all id then removeEmpty m path else return false
    | .ok node => removeLeaf m path node

/-- Whether the last name of a path is a dot or two. -/
def endsInDots (path : Octets) : Bool :=
  match (Path.ofString (Octets.toText path)).names.getLast? with
  | some name => name = "." || name = ".."
  | none => false

def withoutSlashes (path : Octets) : Octets :=
  let trimmed := (path.toList.reverse.dropWhile (· = '/')).reverse
  if trimmed.isEmpty then path else String.ofList trimmed

def removeOperand (m : Manner) (path : Octets) : Run Bool := do
  if m.inside && endsInDots path then
    Tool.complain m.name
      ("refusing to remove '.' or '..' directory: skipping " ++ Quoting.always path)
    return false
  match ← Run.nodeAt false path with
  | .error fault =>
    if m.quiet && (fault = .notFound || fault = .notDirectory) then return true
    cannotRemove m path fault
  | .ok (.directory _) =>
    let linked ← Making.isLinkWithSlash path
    if m.inside then
      if linked then cannotRemove m path .notDirectory
      else removeTree m 1000 (withoutSlashes path)
    else if m.emptyDirectories then
      let names := ((← Run.namesIn path).toOption).getD []
      if !names.isEmpty then cannotRemove m path .notEmpty
      else
        if !(← confirm m ("remove directory " ++ Quoting.always path)) then return true
        removeEmpty m path
    else cannotRemove m path .isDirectory
  | .ok node => removeLeaf m path node

def rm : Tool := fun _ name words =>
  Tool.withOptions [⟨'r', "recursive", .no⟩, ⟨'R', "", .no⟩, ⟨'f', "force", .no⟩,
      ⟨'i', "", .no⟩, ⟨'I', "", .no⟩, ⟨'d', "dir", .no⟩, ⟨'v', "verbose", .no⟩,
      ⟨'\x01', "interactive", .maybe⟩, ⟨'\x02', "one-file-system", .no⟩,
      ⟨'\x03', "preserve-root", .maybe⟩, ⟨'\x04', "no-preserve-root", .no⟩] 1 name words
      fun given => do
    let last := given.last? ['f', 'i', 'I']
    let operands := given.operands
    if operands.isEmpty then
      if given.has 'f' then return 0 else return ← Tool.misuse name "missing operand" 1
    let m : Manner :=
      { name, inside := given.has 'r' || given.has 'R', emptyDirectories := given.has 'd'
        asks := last = some 'i', tells := given.has 'v', quiet := last = some 'f' }
    if last = some 'I' && (m.inside || 3 < operands.length) then
      let count := Numeral.decimal operands.length
      let things := if operands.length = 1 then " argument" else " arguments"
      let how := if m.inside then " recursively" else ""
      if !(← ask name ("remove " ++ count ++ things ++ how)) then return 0
    Tool.each operands (removeOperand m)

end Removing
end Shell
end LineShell
