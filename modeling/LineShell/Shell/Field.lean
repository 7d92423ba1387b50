import LineShell.Shell.Pattern

/-!
# Fields

The value of a word is a row of elements, which is cut into fields.  Separators are bytes of the
variable `IFS`.  Blanks among them act as one separator, together with at most one other separator
next to them; any other separator ends a field of its own, which may be empty.
-/

namespace LineShell
namespace Shell

/-- A field, with its quoted characters told apart. -/
abbrev Field := List Mark

/-- What the value of a word consists of. -/
inductive Element where
  | mark (mark : Mark)
  /-- A place where a field is, even if it is empty. -/
  | anchor
  /-- The place between two operands.  A firm one keeps empty operands. -/
  | gap (firm : Bool)
  deriving DecidableEq, Repr

namespace Field

def text (field : Field) : Octets := String.ofList (field.map (·.char))

/-- A field of bytes that are not quoted. -/
def ofText (text : Octets) : Field := text.toList.map fun c => { char := c }

def blanks : List Char := [' ', '\t', '\n']

structure Cut where
  /-- The fields that are complete, the last one first. -/
  fields : List Field := []
  /-- The field that is being filled, the last character first. -/
  current : Field := []
  /-- Whether the field is there even if it is empty. -/
  started : Bool := false
  /-- Whether blanks have just ended a field, so that one more separator counts as the same. -/
  afterBlank : Bool := false

def Cut.close (c : Cut) : Cut :=
  { fields := c.current.reverse :: c.fields, current := [], started := false }

def Cut.settle (c : Cut) : Cut := if c.started then { c.close with afterBlank := true } else c

def Cut.take (separators : List Char) (c : Cut) : Element → Cut
  | .anchor => { c with started := true, afterBlank := false }
  | .gap true => { c.close with started := true }
  | .gap false => c.settle
  | .mark mark =>
    if mark.splits && separators.contains mark.char then
      if blanks.contains mark.char then c.settle
      else if c.afterBlank then { c with afterBlank := false }
      else c.close
    else { c with current := mark :: c.current, started := true, afterBlank := false }

def cut (separators : List Char) (elements : List Element) : List Field :=
  let c := elements.foldl (Cut.take separators) {}
  (if c.started then c.close else c).fields.reverse

def join (separator : List Char) (elements : List Element) : Field :=
  elements.flatMap fun
    | .mark mark => [mark]
    | .anchor => []
    | .gap _ => separator.map fun c => { char := c }

def separates (separators : List Char) (mark : Mark) : Bool :=
  mark.splits && separators.contains mark.char

def isBlankSeparator (separators : List Char) (mark : Mark) : Bool :=
  separates separators mark && blanks.contains mark.char

/-- Takes the first field off a line: the field, and what is left after its separator. -/
def takeFirst (separators : List Char) (line : Field) : Field × Field :=
  let blank := isBlankSeparator separators
  let line := line.dropWhile blank
  let first := line.takeWhile fun mark => !separates separators mark
  let rest := (line.drop first.length).dropWhile blank
  match rest with
  | mark :: others =>
    if separates separators mark then (first, others.dropWhile blank) else (first, rest)
  | [] => (first, [])

/-- The last field of a line, which takes all that is left.  If that is a single field, it loses its
separator; otherwise only blanks at the end are lost. -/
def takeLast (separators : List Char) (line : Field) : Field :=
  let blank := isBlankSeparator separators
  let line := line.dropWhile blank
  match takeFirst separators line with
  | (first, []) => first
  | _ => (line.reverse.dropWhile blank).reverse

def distribute (separators : List Char) : Nat → Field → List Field
  | 0, _ => []
  | 1, line => [takeLast separators line]
  | n + 1, line =>
    let (first, rest) := takeFirst separators line
    first :: distribute separators n rest

end Field
end Shell
end LineShell
