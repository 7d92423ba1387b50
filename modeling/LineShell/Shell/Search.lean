import LineShell.Shell.Paths

/-!
# Looking for programs

A name with a slash is the path of a program.  Any other name is tried in each directory of a search
path, in order.  What is no program there is passed over, but it is remembered that there was
something.
-/

namespace LineShell
namespace Shell
namespace Search

def hostPath : Octets := "/usr/sbin:/usr/bin:/sbin:/bin"

/-- The search path of a shell that was given none. -/
def shellPath : Octets := "/usr/local/sbin:/usr/local/bin:/usr/sbin:/usr/bin:/sbin:/bin"

def current : Run Octets := return (← Run.value? "PATH").getD ""

def candidates (searchPath name : Octets) : List Octets :=
  if name.toList.contains '/' then [name]
  else (searchPath.splitOn ":").map fun directory =>
    if directory.isEmpty then name else directory ++ "/" ++ name

def isExecutable (file : File) : Bool := (Node.file file).grants .pass

/-- Why a path is no program; none if it is one. -/
def hindrance? (path : Octets) : Run (Option Fault) := do
  match ← Run.nodeAt true path with
  | .error fault => return some fault
  | .ok (.file file) => return if isExecutable file then none else some .noAccess
  | .ok _ => return some .noAccess

def isAbsence (fault : Fault) : Bool := fault = .notFound || fault = .notDirectory

/-- The first path that is a program, or the last reason why there is none. -/
def firstProgram (reason : Fault) : List Octets → Run (Except Fault Octets)
  | [] => return .error reason
  | path :: others => do
    match ← hindrance? path with
    | none => return .ok path
    | some fault => firstProgram (if isAbsence fault then reason else fault) others

def find (searchPath name : Octets) : Run (Except Fault Octets) :=
  firstProgram .notFound (candidates searchPath name)

/-- What a shell says of a program that it cannot run. -/
def faultText (name : Octets) (fault : Fault) : Run String := do
  let extended := (← get).dialect = .extended
  if !isAbsence fault then return fault.description
  else if !extended then return "not found"
  else return if name.toList.contains '/' then fault.description else "command not found"

/-- How many groups the programs that were found are kept in. -/
def groupCount : Nat := 31

def remember (name path : Octets) : Run Unit := modify fun s =>
  { s with found := s.found.filter (·.1 != name) ++ [(name, path)] }

def forgetAll : Run Unit := modify fun s => { s with found := [] }

end Search
end Shell
end LineShell
