import LineShell.Shell.Paths
import LineShell.Shell.Utility.FileMode
import LineShell.Shell.Utility.Options

/-!
# Programs that make and take away directories, and that cut files

These are `mkdir`, `rmdir`, `truncate` and `unlink`.
-/

namespace LineShell
namespace Shell
namespace Making

/-! ## Directories -/

/-- The directories around the last name of a path, from the outermost on. -/
def ancestors (path : Octets) : List Octets :=
  let chars := path.toList
  let trimmed := (chars.reverse.dropWhile (· = '/')).reverse
  (List.range trimmed.length).filterMap fun i =>
    if 0 < i && trimmed[i]? = some '/' && trimmed[i - 1]? != some '/' then
      some (String.ofList (trimmed.take i))
    else none

/-- Complains that a directory could not be made. -/
def cannotMake (name path : Octets) (fault : Fault) : Run Bool := do
  Tool.fault name ("cannot create directory " ++ Quoting.plain path) fault
  return false

def tellMade (name path : Octets) (tells : Bool) : Run Unit := do
  if tells then
    Run.emitLine (name ++ ": created directory " ++ Quoting.plain path)

def makeDirectory (mode : Nat) (path : Octets) : Run (Option Fault) := do
  Run.edit (Tree.createDirWith (Run.masked mode (← get).mask)) path

def makeAround (name : Octets) (tells : Bool) : List Octets → Run Bool
  | [] => return true
  | path :: rest => do
    match ← Run.nodeAt true path with
    | .ok (.directory _) => makeAround name tells rest
    | .ok _ => cannotMake name path .notDirectory
    | .error _ =>
      let mode := Run.masked 0o777 (← get).mask ||| 0o300
      match ← Run.edit (Tree.createDirWith mode) path with
      | some fault => cannotMake name path fault
      | none =>
        tellMade name path tells
        makeAround name tells rest

def makeOne (name : Octets) (around tells : Bool) (mode : Option Nat) (path : Octets) :
    Run Bool := do
  let ready ← if around then makeAround name tells (ancestors path) else pure true
  if !ready then return false
  let mode := mode.getD (Run.masked 0o777 (← get).mask)
  match ← Run.edit (Tree.createDirWith mode) path with
  | none =>
    tellMade name path tells
    return true
  | some fault =>
    let found ← Run.nodeAt true path
    if around && found.toOption.any Node.isDirectory then return true
    else cannotMake name path fault

def mkdir : Tool := fun _ name words =>
  Tool.withOptions [⟨'p', "parents", .no⟩, ⟨'m', "mode", .yes⟩, ⟨'v', "verbose", .no⟩,
      ⟨'Z', "", .no⟩, ⟨'Z', "context", .maybe⟩] 1 name words fun given => do
    if given.operands.isEmpty then Tool.misuse name "missing operand" 1
    else
      let mask := (← get).mask
      let make := fun mode =>
        Tool.each given.operands (makeOne name (given.has 'p') (given.has 'v') mode)
      match given.value? 'm' with
      | none => make none
      | some text =>
        match FileMode.read text with
        | some change => make (some (FileMode.ofNewDirectory change mask))
        | none =>
          Tool.complain name ("invalid mode " ++ Quoting.plain text)
          return 1

/-- Takes a directory away; the answer is why that failed. -/
def removeDirectory (path : Octets) : Run (Option Fault) := Run.edit Tree.removeDir path

/-- Whether a path ends in a slash and leads through a link to a directory. -/
def isLinkWithSlash (path : Octets) : Run Bool := do
  let trimmed := (path.toList.reverse.dropWhile (· = '/')).reverse
  if trimmed.length = path.length then return false
  match ← Run.nodeAt false (String.ofList trimmed), ← Run.nodeAt true path with
  | .ok (.link _), .ok (.directory _) => return true
  | _, _ => return false

def removeAround (name : Octets) (tells : Bool) : List Octets → Run Bool
  | [] => return true
  | path :: rest => do
    if tells then Run.emitLine (name ++ ": removing directory, " ++ Quoting.always path)
    match ← removeDirectory path with
    | none => removeAround name tells rest
    | some fault =>
      Tool.fault name ("failed to remove directory " ++ Quoting.always path) fault
      return false

def rmdir : Tool := fun _ name words =>
  Tool.withOptions [⟨'p', "parents", .no⟩, ⟨'v', "verbose", .no⟩,
      ⟨'\x01', "ignore-fail-on-non-empty", .no⟩] 1 name words fun given => do
    if given.operands.isEmpty then Tool.misuse name "missing operand" 1
    else
      Tool.each given.operands fun path => do
        if given.has 'v' then
          Run.emitLine (name ++ ": removing directory, " ++ Quoting.always path)
        let linked ← isLinkWithSlash path
        match ← removeDirectory path with
        | none =>
          if given.has 'p' then removeAround name (given.has 'v') (ancestors path).reverse
          else return true
        | some fault =>
          if given.has '\x01' && fault = .notEmpty then return true
          let text := if linked && fault = .notDirectory then "Symbolic link not followed"
            else fault.description
          Tool.complain name ("failed to remove " ++ Quoting.always path ++ ": " ++ text)
          return false

/-! ## Files -/

def size? (text : Octets) : Option (Nat → Nat) := do
  let chars := text.toList
  let (sign, rest) ← match chars with
    | c :: rest => if "+-<>/%".toList.contains c then some (some c, rest) else some (none, chars)
    | [] => none
  let digits := rest.takeWhile Char.isDigit
  if digits.isEmpty then none
  let n := digits.foldl (fun n c => 10 * n + (c.toNat - '0'.toNat)) 0
  let units := [("", 1), ("K", 1024), ("k", 1024), ("KiB", 1024), ("M", 1048576),
    ("MiB", 1048576), ("G", 1073741824), ("KB", 1000), ("kB", 1000), ("MB", 1000000)]
  let unit ← units.lookup (String.ofList (rest.drop digits.length))
  let n := n * unit
  match sign with
  | none => some fun _ => n
  | some '+' => some fun old => old + n
  | some '-' => some fun old => old - n
  | some '<' => some fun old => min old n
  | some '>' => some fun old => max old n
  | some '/' => some fun old => if n = 0 then old else old / n * n
  | some _ => some fun old => if n = 0 then old else (old + n - 1) / n * n

def resize (size : Nat) (content : Octets) : Octets :=
  let chars := content.toList.take size
  String.ofList (chars ++ List.replicate (size - chars.length) '\x00')

def truncate : Tool := fun _ name words =>
  Tool.withOptions [⟨'s', "size", .yes⟩, ⟨'c', "no-create", .no⟩, ⟨'o', "io-blocks", .no⟩,
      ⟨'r', "reference", .yes⟩] 1 name words fun given => do
    let change ← match given.value? 's', given.value? 'r' with
      | some text, _ =>
        match size? text with
        | some change => pure (Except.ok change)
        | none => pure (.error ("Invalid number: " ++ Quoting.plain text))
      | none, some reference =>
        match ← Run.readPath reference with
        | .ok octets => pure (.ok fun _ => octets.length)
        | .error fault =>
          pure (.error ("cannot stat " ++ Quoting.always reference ++ ": " ++ fault.description))
      | none, none => pure (.error "")
    match change with
    | .error "" => Tool.misuse name "you must specify either '--size' or '--reference'" 1
    | .error text =>
      Tool.complain name text
      return 1
    | .ok change =>
      if given.operands.isEmpty then Tool.misuse name "missing file operand" 1
      else
        Tool.each given.operands fun path => do
          let creates := !given.has 'c'
          match ← Run.openPath { writes := true, creates } path with
          | .error fault =>
            if !creates && fault = .notFound then return true
            Tool.fault name ("cannot open " ++ Quoting.always path ++ " for writing") fault
            return false
          | .ok index =>
            match (← get).channels[index]? with
            | some (.file location ..) =>
              Run.changeContent location fun content => resize (change content.length) content
              return true
            | _ => return true

def unlink : Tool := fun _ name words =>
  Tool.withOptions [] 1 name words fun given => do
    match given.operands with
    | [] => Tool.misuse name "missing operand" 1
    | [path] =>
      match ← Run.edit Tree.removeFile path with
      | none => return 0
      | some fault =>
        Tool.fault name ("cannot unlink " ++ Quoting.always path) fault
        return 1
    | _ :: extra :: _ => Tool.misuse name ("extra operand " ++ Quoting.plain extra) 1

end Making
end Shell
end LineShell
