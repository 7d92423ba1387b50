import LineShell.Shell.Utility.Options

/-!
# Programs that tell about the host

The host has one user, who may do anything, and no terminal.
-/

namespace LineShell
namespace Shell
namespace Telling

def user : Octets := "root"

def alone (shapes : OptionShapes) (name : Octets) (words : List Octets)
    (body : Given → Run Nat) : Run Nat :=
  Tool.withOptions shapes 1 name words fun given =>
    match given.operands with
    | extra :: _ => Tool.misuse name ("extra operand " ++ Quoting.plain extra) 1
    | [] => body given

def whoami : Tool := fun _ name words =>
  alone [] name words fun _ => do
    Run.emitLine user
    return 0

def logname : Tool := fun _ name words =>
  alone [] name words fun _ => do
    Tool.complain name "no login name"
    return 1

def tty : Tool := fun _ name words =>
  alone [⟨'s', "silent", .no⟩, ⟨'s', "quiet", .no⟩] name words fun given => do
    if !given.has 's' then Run.emitLine "not a tty"
    return 1

def sync : Tool := fun _ _ _ => return 0

def id_ : Tool := fun _ name words =>
  Tool.withOptions [⟨'u', "user", .no⟩, ⟨'g', "group", .no⟩, ⟨'G', "groups", .no⟩,
      ⟨'n', "name", .no⟩, ⟨'r', "real", .no⟩] 1 name words fun given => do
    match given.operands.find? (· != user) with
    | some other =>
      Tool.complain name (Quoting.plain other ++ ": no such user")
      return 1
    | none =>
      let one := given.has 'u' || given.has 'g' || given.has 'G'
      if !one then Run.emitLine "uid=0(root) gid=0(root) groups=0(root)"
      else Run.emitLine (if given.has 'n' then user else "0")
      return 0

/-- What `uname` can tell, with the letters of the options, in the order in which it is told. -/
def unameParts : List (Char × Octets) :=
  [('s', "Linux"), ('m', "x86_64"), ('o', "GNU/Linux")]

def uname : Tool := fun _ name words =>
  alone [⟨'s', "kernel-name", .no⟩, ⟨'m', "machine", .no⟩, ⟨'o', "operating-system", .no⟩]
      name words fun given => do
    let parts := unameParts.filter fun (letter, _) => given.has letter
    let parts := if parts.isEmpty then unameParts.take 1 else parts
    Run.emitLine (" ".intercalate (parts.map (·.2)))
    return 0

end Telling
end Shell
end LineShell
