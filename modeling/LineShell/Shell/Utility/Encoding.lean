import LineShell.Shell.Utility.Inputs
import LineShell.Shell.Utility.Quantity
import LineShell.Text.Radix

/-!
# Programs that write bytes as digits

They write what they read as digits in lines of some width, or read such digits back.
-/

namespace LineShell
namespace Shell
namespace Encoding

/-- Cuts digits into lines of a width, each with its end, backwards onto what is done. -/
def wrap (width : Nat) : Nat → List Char → List (List Char) → List (List Char)
  | 0, _, done | _, [], done => done.reverse
  | fuel + 1, chars, done =>
    wrap width fuel (chars.drop width) ((chars.take width ++ ['\n']) :: done)

/-- Digits in lines; a width of zero leaves them in one that has no end. -/
def layOut (width : Nat) (chars : List Char) : List Char :=
  if width = 0 then chars else (wrap width (chars.length + 1) chars []).flatten

/-- Writes what a file holds as digits, or reads digits in it. -/
def convert (name : Octets) (r : Radix) (decodes ignores : Bool) (width : Nat) (path : Octets) :
    Run Nat := do
  match ← Tool.input path with
  | .error problem =>
    let title := if problem = .isDirectory then "read error" else Quoting.ifNeeded path
    Tool.fault name title problem
    return 1
  | .ok octets =>
    if decodes then
      let digits := octets.filter fun c => c != '\n' &&
        (!ignores || (r.value? c).isSome || c = Radix.mark)
      let (bytes, whole) := r.decode digits
      Run.emit (String.ofList (bytes.map Octets.ofByte))
      if whole then return 0
      Tool.complain name "invalid input"
      return 1
    else
      Run.emit (String.ofList (layOut width (r.encode (octets.map Octets.byte))))
      return 0

def shapes : OptionShapes :=
  [⟨'d', "decode", .no⟩, ⟨'i', "ignore-garbage", .no⟩, ⟨'w', "wrap", .yes⟩]

def withRadix (name : Octets) (given : Given) (r : Radix) : Run Nat := do
  let width := match given.value? 'w' with
    | none => some 76
    | some text =>
      match Quantity.read "" text with
      | .fine n => some n
      | .tooLarge => some 0
      | .malformed => none
  match width, given.operands with
  | none, _ =>
    Tool.complain name ("invalid wrap size: " ++ Quoting.plain ((given.value? 'w').getD ""))
    return 1
  | _, _ :: extra :: _ => Tool.misuse name ("extra operand " ++ Quoting.plain extra) 1
  | some width, operands =>
    convert name r (given.has 'd') (given.has 'i') width (operands.headD "-")

def base64 : Tool := fun _ name words =>
  Tool.withOptions shapes 1 name words fun given => withRadix name given Radix.base64

def base32 : Tool := fun _ name words =>
  Tool.withOptions shapes 1 name words fun given => withRadix name given Radix.base32

def choices : List (Char × String × Radix) :=
  [('\x10', "base64", Radix.base64), ('\x11', "base64url", Radix.base64url),
   ('\x12', "base32", Radix.base32), ('\x13', "base32hex", Radix.base32hex),
   ('\x14', "base16", Radix.base16), ('\x15', "base2msbf", Radix.base2 false),
   ('\x16', "base2lsbf", Radix.base2 true)]

def basenc : Tool := fun _ name words =>
  let more := choices.map fun (letter, long, _) => ⟨letter, long, .no⟩
  Tool.withOptions (shapes ++ more) 1 name words fun given => do
    let chosen := (given.last? (choices.map (·.1))).bind fun letter => choices.lookup letter
    match chosen with
    | some (_, r) => withRadix name given r
    | none => Tool.misuse name "missing encoding type" 1

end Encoding
end Shell
end LineShell
