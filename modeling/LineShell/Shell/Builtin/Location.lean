import LineShell.Shell.Builtin.Basic

/-!
# Commands on the working directory

A shell remembers by which names it went to where it is.  Two dots in a path take the last of these
names away, whatever it led to, unless links were to be followed as they are met.
-/

namespace LineShell
namespace Shell
namespace Builtin

/-- The text of where the process is, if that still exists. -/
def physicalWay : Run (Option Octets) := do
  let here := (← get).here
  return if here.exists? then some (Octets.ofText (Location.text here.live)) else none

/-- The text of where the process is, or a complaint and nothing. -/
def physicalWayOrWarn : Run Octets := do
  match ← physicalWay with
  | some text => return text
  | none =>
    Run.warn ("getcwd() failed: " ++ Fault.notFound.description)
    return ""

/-- Takes on the names by which the shell came to where it is; none to find them out. -/
def setWay (way : Option Octets) (remembersOld : Bool) : Run Unit := do
  let old := (← get).way.getD ""
  if remembersOld then Run.setVariable "OLDPWD" (some old) true
  let way ← match way with
    | some way => pure way
    | none => physicalWayOrWarn
  modify fun s => { s with way := some way }
  Run.setVariable "PWD" (some way) true

/-- Goes along a path by names alone, the last of which comes first. -/
def alongNames (names : List Octets) (path : List Octets) : List Octets :=
  path.foldl (fun names name =>
    if name = "" || name = "." then names else if name = ".." then names.tail else name :: names)
    names

/-- Goes to where a path leads; the answer is why that failed. -/
def enter (path : Octets) : Run (Option Fault) := do
  match ← Run.spotAt true path with
  | .error fault => return some fault
  | .ok (.directory place) =>
    modify fun s => { s with here := place }
    return none
  | .ok (.vacant ..) => return some .notFound
  | .ok (.leaf ..) => return some .notDirectory

/-- Goes to a path, following links as they are met or by names; whether that worked. -/
def goTo (physical : Bool) (path : Octets) : Run Bool := do
  let way := (← get).way.getD ""
  let absolute := path.toList.head? = some '/'
  if physical || (way.isEmpty && !absolute) then
    if (← enter path).isSome then return false
    setWay none true
    return true
  else
    let start := if absolute then path else way
    let before := if absolute then [] else alongNames [] (way.splitOn "/")
    let names := alongNames before (path.splitOn "/")
    let twice := start.startsWith "//" && !start.startsWith "///"
    let target := (if twice then "//" else "/") ++ "/".intercalate names.reverse
    if (← enter target).isSome then return false
    setWay (some target) true
    return true

/-- Goes to a path below the first of some directories where it is a directory: whether that worked,
and whether to tell. -/
def goBelow (physical : Bool) (path : Octets) : List Octets → Run (Bool × Bool)
  | [] => return (← goTo physical path, false)
  | directory :: others => do
    let whole := if directory.isEmpty then path else directory ++ "/" ++ path
    match ← Run.nodeAt true whole with
    | .ok (.directory _) => return (← goTo physical whole, !directory.isEmpty)
    | _ => goBelow physical path others

/-- Whether a path is not looked for in other directories. -/
def isAnchored (path : Octets) : Bool :=
  match path.toList with
  | '/' :: _ => true
  | ['.'] | ['.', '.'] => true
  | '.' :: '/' :: _ | '.' :: '.' :: '/' :: _ => true
  | _ => false

def cd : Builtin := plain fun _ words => do
  let (options, operands) ← options "LP" words
  let physical := (options.getLast?.map (·.1)) = some 'P'
  let target := operands.head?
  let home ← Run.value? "HOME"
  let old ← Run.value? "OLDPWD"
  let (path, tells) := match target with
    | none => (home.getD "", false)
    | some "-" => (old.getD "", true)
    | some path => (path, false)
  let path := if path.isEmpty then "." else path
  let search := ((← Run.value? "CDPATH").filter fun _ => !isAnchored path).elim [] (·.splitOn ":")
  let (gone, found) ← goBelow physical path search
  if !gone then Run.fail ("can't cd to " ++ path)
  if tells || found then Run.emitLine ((← get).way.getD "")
  return 0

def pwd : Builtin := plain fun _ words => do
  let (options, _) ← options "LP" words
  if (options.getLast?.map (·.1)) = some 'P' then Run.emitLine (← physicalWayOrWarn)
  else Run.emitLine ((← get).way.getD "")
  return 0

end Builtin
end Shell
end LineShell
