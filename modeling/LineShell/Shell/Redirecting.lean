import LineShell.Shell.Expansion

/-!
# Redirections

The targets of all redirections of a command are expanded first.  Then they are opened from left to
right, so that a later one sees what an earlier one has done.  Afterwards the descriptors that were
changed, and no others, are put back.
-/

namespace LineShell
namespace Shell
namespace Redirecting

inductive Request where
  | opens (descriptor : Nat) (mode : Mode) (name : Octets)
  /-- The descriptor becomes a copy of another one, or is closed. -/
  | copies (descriptor : Nat) (source : Option Nat)
  | gives (descriptor : Nat) (text : Octets)
  | opensBoth (name : Octets)

def Request.descriptors : Request → List Nat
  | .opens descriptor _ _ | .copies descriptor _ | .gives descriptor _ => [descriptor]
  | .opensBoth _ => [1, 2]

def sourceOf (text : Octets) : Run (Option Nat) := do
  match text.toList with
  | ['-'] => return none
  | [c] => if c.isDigit then return some (c.toNat - '0'.toNat) else refuse
  | _ => refuse
where
  refuse : Run (Option Nat) := Run.fail "Syntax error: Bad fd number"

def request (substitute : Expansion.Substitute) : Redirection → Run Request
  | .to descriptor .duplicate target => do
    match ← Expansion.fields substitute .atStart target with
    | [] => Run.fail "redir error"
    | first :: _ => return .copies descriptor (← sourceOf first)
  | .to descriptor .document target => do
    return .gives descriptor ((← Expansion.text substitute .nowhere target) ++ "\n")
  | .to _ .writeBoth target => return .opensBoth (← Expansion.text substitute .atStart target)
  | .to descriptor mode target => do
    return .opens descriptor mode (← Expansion.text substitute .atStart target)
  | .fromDocument descriptor number => do
    let body := ((← get).documents.lookup number).getD []
    return .gives descriptor (← Expansion.text substitute .nowhere body)

/-- What a shell says of a fault at a file that is opened or made. -/
def faultText (creates : Bool) (fault : Fault) : String :=
  if fault = .notFound || fault = .notDirectory then
    if creates then "Directory nonexistent" else "No such file"
  else fault.description

/-- Whether a path leads to a regular file that redirections must not overwrite. -/
def isProtected (name : Octets) : Run Bool := do
  if !(← get).switches.keepsFiles then return false
  match ← Run.nodeAt true name with
  | .ok (.file _) => return true
  | _ => return false

def opening : Mode → Run.Opening
  | .read => { reads := true }
  | .append => { writes := true, creates := true, appends := true }
  | .readWrite => { reads := true, writes := true, creates := true }
  | _ => { writes := true, creates := true, truncates := true }

def openFor (mode : Mode) (name : Octets) : Run Nat := do
  let creates := (opening mode).creates
  let refuse := fun {α : Type} (fault : Fault) =>
    let what := if creates then "cannot create " else "cannot open "
    (Run.fail (what ++ name ++ ": " ++ faultText creates fault) : Run α)
  let blocked ← isProtected name
  if mode = .write && blocked then refuse .exists
  else
    match ← Run.openPath (opening mode) name with
    | .ok index => return index
    | .error fault => refuse fault

def perform : Request → Run Unit
  | .opens descriptor mode name => do Run.setDescriptor descriptor (some (← openFor mode name))
  | .opensBoth name => do
    let index ← openFor .write name
    Run.setDescriptor 1 (some index)
    Run.setDescriptor 2 (some index)
  | .copies descriptor none => Run.setDescriptor descriptor none
  | .copies descriptor (some source) => do
    match (← get).descriptors.lookup source with
    | some index => Run.setDescriptor descriptor (some index)
    | none => Run.fail (Numeral.decimal source ++ ": " ++ Fault.badDescriptor.description)
  | .gives descriptor text => do
    Run.setDescriptor descriptor (some (← Run.newChannel (.source text.toList)))

def putBack (before : List (Nat × Nat)) (requests : List Request) : Run Unit :=
  (requests.flatMap Request.descriptors).forM fun descriptor =>
    Run.setDescriptor descriptor (before.lookup descriptor)

/-- Runs something with redirections, whose failure gives a status of its own.  They stay if asked
for. -/
def during (stays : Bool) (requests : List Request) (body : Run Nat) (refused : Run Nat) :
    Run Nat := do
  let before := (← get).descriptors
  let opened ← tryCatch (do requests.forM perform; return true) fun
    | .failed => return false
    | halt => throw halt
  if !opened then
    putBack before requests
    refused
  else
    let status ← tryCatch body fun halt => do
      putBack before requests
      throw halt
    if !stays then putBack before requests
    return status

end Redirecting
end Shell
end LineShell
