import LineShell.Shell.Utility.Inputs
import LineShell.Shell.Utility.Quantity
import LineShell.Shell.Utility.Regex

/-!
# The program that numbers lines

This is `nl`.  A text may have pages, and a page a head, a body and a foot, which begin at lines
made of a mark that is repeated.  Each part of a page has a style, which says what lines get a
number.
-/

namespace LineShell
namespace Shell
namespace Numbering

inductive Style where
  | all
  | filled
  | none
  | matching (regex : Regex)

inductive Part where
  | head
  | body
  | foot
  deriving DecidableEq, Repr

/-- How a number stands in its field. -/
inductive Alignment where
  | left
  | right
  | zeros
  deriving DecidableEq, Repr

structure Manner where
  style : Part → Style := fun part => if part = .body then .filled else .none
  start : Int := 1
  step : Int := 1
  /-- Whether a new part of a page begins with the first number again. -/
  resets : Bool := true
  /-- How many empty lines in a row count as one, where all lines get a number. -/
  joined : Int := 1
  separator : Octets := "\t"
  width : Nat := 6
  alignment : Alignment := .right
  /-- The mark of which the lines between parts are made. -/
  mark : Octets := "\\:"

/-- What is known between two lines. -/
structure Count where
  part : Part := .body
  number : Int
  /-- How many empty lines there were since the last number. -/
  empty : Int := 0
  /-- What was written, the last part first. -/
  written : List Octets := []

namespace Manner

def part? (m : Manner) (line : List Char) : Option Part :=
  let mark := m.mark.toList
  if mark.length < 2 then none
  else if line = mark ++ mark ++ mark then some .head
  else if line = mark ++ mark then some .body
  else if line = mark then some .foot
  else none

def field (m : Manner) (n : Int) : Octets :=
  let digits := Numeral.decimal n
  match m.alignment with
  | .left => Tool.padRight m.width digits
  | .right => Tool.padLeft m.width digits
  | .zeros =>
    let bare := Numeral.decimal n.natAbs
    let sign := if n < 0 then "-" else ""
    sign ++ String.ofList (List.replicate (m.width - digits.length) '0') ++ bare

def write (m : Manner) (count : Count) (numbered : Bool) (line : List Char) : Count :=
  let front := if numbered then m.field count.number ++ m.separator
    else String.ofList (List.replicate (m.width + m.separator.length) ' ')
  { count with
    number := if numbered then count.number + m.step else count.number
    written := (front ++ String.ofList line ++ "\n") :: count.written }

def line (m : Manner) (count : Count) (line : List Char) : Count :=
  match m.part? line with
  | some part =>
    { count with
      part
      number := if m.resets then m.start else count.number
      written := "\n" :: count.written }
  | none =>
    match m.style count.part with
    | .none => m.write count false line
    | .filled => m.write count (!line.isEmpty) line
    | .matching regex =>
      m.write count (regex.find? false line.toArray 0).isSome line
    | .all =>
      if m.joined ≤ 1 then m.write count true line
      else if !line.isEmpty || count.empty + 1 = m.joined then
        m.write { count with empty := 0 } true line
      else m.write { count with empty := count.empty + 1 } false line

end Manner

/-! ## Options -/

def most : Int := 9223372036854775807

def mostWidth : Int := 2147483647

def style? (text : Octets) : Option (Except Regex.Fault Style) :=
  match text.toList with
  | 'a' :: _ => some (.ok .all)
  | 't' :: _ => some (.ok .filled)
  | 'n' :: _ => some (.ok .none)
  | 'p' :: expression => some ((Regex.ofText false true expression).map .matching)
  | _ => none

def Part.title : Part → String
  | .head => "header"
  | .body => "body"
  | .foot => "footer"

/-- What has been read of the options. -/
structure Request where
  manner : Manner := {}
  /-- Whether all options were good so far. -/
  good : Bool := true

/-- Complains about an option; the others are still read. -/
def blame (name text : Octets) (r : Request) : Run (Option Request) := do
  Tool.complain name text
  return some { r with good := false }

/-- Reads one option; nothing if that ends the program. -/
def readOption (name : Octets) (r : Request) (option : GivenOption) : Run (Option Request) := do
  let value := option.2.getD ""
  let m := r.manner
  let withStyle := fun (part : Part) => do
    match style? value with
    | none => blame name ("invalid " ++ part.title ++ " numbering style: " ++ Quoting.plain value) r
    | some (.error fault) =>
      Tool.complain name fault.message
      return none
    | some (.ok style) =>
      let style := fun other : Part => if other = part then style else m.style other
      return some { r with manner := { m with style } }
  let withNumber := fun (what : String) (least most : Int) (put : Int → Manner) => do
    return (← Tool.integer name ("invalid " ++ what) least most value).map fun n =>
      { r with manner := put n }
  match option.1 with
  | 'h' => withStyle .head
  | 'b' => withStyle .body
  | 'f' => withStyle .foot
  | 'v' => withNumber "starting line number" (-most - 1) most fun start => { m with start }
  | 'i' => withNumber "line number increment" (-most - 1) most fun step => { m with step }
  | 'p' => return some { r with manner := { m with resets := false } }
  | 'l' => withNumber "line number of blank lines" 1 most fun joined => { m with joined }
  | 's' => return some { r with manner := { m with separator := value } }
  | 'w' => withNumber "line number field width" 1 mostWidth fun n => { m with width := n.toNat }
  | 'n' =>
    match value with
    | "ln" => return some { r with manner := { m with alignment := .left } }
    | "rn" => return some { r with manner := { m with alignment := .right } }
    | "rz" => return some { r with manner := { m with alignment := .zeros } }
    | _ => blame name ("invalid line numbering format: " ++ Quoting.plain value) r
  | _ =>
    let mark := if value.length = 1 then value ++ ":" else value
    return some { r with manner := { m with mark } }

def readOptions (name : Octets) : Request → List GivenOption → Run (Option Request)
  | r, [] => return some r
  | r, option :: others => do
    match ← readOption name r option with
    | some r => readOptions name r others
    | none => return none

def nl : Tool := fun _ name words =>
  Tool.withOptions [⟨'h', "header-numbering", .yes⟩, ⟨'b', "body-numbering", .yes⟩,
      ⟨'f', "footer-numbering", .yes⟩, ⟨'v', "starting-line-number", .yes⟩,
      ⟨'i', "line-increment", .yes⟩, ⟨'p', "no-renumber", .no⟩, ⟨'l', "join-blank-lines", .yes⟩,
      ⟨'s', "number-separator", .yes⟩, ⟨'w', "number-width", .yes⟩,
      ⟨'n', "number-format", .yes⟩, ⟨'d', "section-delimiter", .yes⟩] 1 name words fun given => do
    match ← readOptions name {} given.options with
    | none => return 1
    | some { good := false, .. } =>
      Tool.pointToHelp name
      return 1
    | some { manner := m, .. } =>
      let start : Count := { number := m.start }
      let (count, fine) ← (Tool.inputs given).foldlM (fun ((count : Count), fine) path => do
        match ← Tool.inputOrComplain name path with
        | none => return (count, false)
        | some octets => return ((Tool.lines octets).foldl m.line count, fine)) (start, true)
      Run.emit (String.join count.written.reverse)
      return if fine then 0 else 1

end Numbering
end Shell
end LineShell
