import LineShell.Shell.Pattern
import LineShell.Shell.Utility.Inputs
import LineShell.Shell.Utility.Quantity

/-!
# The program that changes bytes

This is `tr`.  A set is written down as single bytes, ranges, classes, and bytes that are
repeated.  The bytes of one set are changed to those of another, taken away, or kept only once in
a row.  Classes of capital and small letters stand for each other where they come at the same
place of both sets.
-/

namespace LineShell
namespace Shell
namespace Translating

/-! ## What is written -/

/-- A byte of a text and whether a backslash stood before it. -/
structure Letter where
  char : Char
  escaped : Bool := false

def Letter.is (l : Letter) (c : Char) : Bool := l.char = c && !l.escaped

def escapes : List (Char × Char) :=
  [('\\', '\\'), ('a', '\x07'), ('b', '\x08'), ('f', '\x0c'), ('n', '\n'), ('r', '\r'), ('t', '\t'),
   ('v', '\x0b')]

/-- Reads a byte behind a backslash, with what follows, and a warning. -/
def unescape : List Char → Letter × List Char × Option String
  | [] =>
    (⟨'\\', false⟩, [], some "warning: an unescaped backslash at end of string is not portable")
  | c :: rest =>
    match escapes.lookup c with
    | some d => (⟨d, true⟩, rest, none)
    | none =>
      let value := fun (digits : List Char) =>
        digits.foldl (fun n c => 8 * n + (c.toNat - '0'.toNat)) 0
      let digits := ((c :: rest).takeWhile fun c => '0' ≤ c && c ≤ '7').take 3
      if digits.isEmpty then (⟨c, true⟩, rest, none)
      else
        let short := digits.take 2
        if value digits < 256 then
          (⟨Char.ofNat (value digits), true⟩, (c :: rest).drop digits.length, none)
        else
          let shown := fun (digits : List Char) => String.ofList digits
          (⟨Char.ofNat (value short), true⟩, (c :: rest).drop 2,
            some ("warning: the ambiguous octal escape \\" ++ shown digits ++
              " is being\n\tinterpreted as the 2-byte sequence \\0" ++ shown short ++ ", " ++
              shown (digits.drop 2)))

def letters : Nat → List Char → List Letter × List String
  | 0, _ | _, [] => ([], [])
  | fuel + 1, '\\' :: rest =>
    let (letter, rest, warning) := unescape rest
    let (others, warnings) := letters fuel rest
    (letter :: others, warning.toList ++ warnings)
  | fuel + 1, c :: rest =>
    let (others, warnings) := letters fuel rest
    (⟨c, false⟩ :: others, warnings)

inductive Element where
  | one (c : Char)
  | range (first last : Char)
  | named (name : String) (members : List Char)
  | same (c : Char)
  /-- A byte so many times; zero is as often as needed. -/
  | repeated (c : Char) (count : Nat)

def allBytes : List Char := (List.range 256).map Char.ofNat

def shown (c : Char) : List Char := if Quoting.prints c then [c] else Quoting.octal c

def shownAll (text : List Char) : Octets := Quoting.plain (String.ofList (text.flatMap shown))

/-- The length of the operand of a construct that ends with a byte and a closing bracket. -/
def closing? (c : Char) : List Letter → Option Nat
  | a :: b :: rest =>
    if a.is c && b.is ']' then some 0 else (closing? c (b :: rest)).map (· + 1)
  | _ => none

def endsRepeat : List Letter → Bool
  | star :: rest =>
    star.is '*' && ((rest.dropWhile fun l => !l.escaped && l.char.isDigit).head?.any (·.is ']'))
  | [] => false

/-- Reads a byte that is repeated, behind an opening bracket; none if there is none. -/
def repeat? (text : List Letter) : Except String (Option (Element × List Letter)) :=
  match text with
  | c :: star :: rest =>
    if !star.is '*' then .ok none
    else
      let inside := rest.takeWhile fun l => !l.escaped && l.char != ']'
      match rest.drop inside.length with
      | stop :: after =>
        if !stop.is ']' then .ok none
        else
          let digits := inside.map (·.char)
          if digits.isEmpty then .ok (some (.repeated c.char 0, after))
          else
            let base := if digits.head? = some '0' then 8 else 10
            match Quantity.readIn base "" (String.ofList digits) with
            | .fine n => .ok (some (.repeated c.char n, after))
            | _ =>
              .error ("invalid repeat count " ++ shownAll digits ++ " in [c*n] construct")
      | [] => .ok none
  | _ => .ok none

/-- Reads a class, behind an opening bracket; none if there is none. -/
def class? (text : List Letter) : Except String (Option (Element × List Letter)) :=
  match text with
  | mark :: rest =>
    if !mark.is ':' && !mark.is '=' then .ok none
    else
      match closing? mark.char rest with
      | none => .ok none
      | some size =>
        let operand := (rest.take size).map (·.char)
        let after := rest.drop (size + 2)
        let name := String.ofList operand
        if mark.char = ':' then
          if operand.isEmpty then .error "missing character class name '[::]'"
          else
            match namedClasses.lookup name with
            | some belongs => .ok (some (.named name (allBytes.filter belongs), after))
            | none =>
              if endsRepeat rest then .ok none
              else .error ("invalid character class " ++ shownAll operand)
        else
          match operand with
          | [] => .error "missing equivalence class character '[==]'"
          | [c] => .ok (some (.same c, after))
          | _ =>
            if endsRepeat rest then .ok none
            else .error (String.ofList (operand.flatMap shown) ++
              ": equivalence class operand must be a single character")
  | [] => .ok none

def elements : Nat → List Letter → Except String (List Element)
  | 0, _ | _, [] => .ok []
  | fuel + 1, a :: rest => do
    let construct ← if a.is '[' && 2 ≤ rest.length then do
        match ← class? rest with
        | some found => pure (some found)
        | none => repeat? rest
      else pure none
    match construct, rest with
    | some (element, after), _ => return element :: (← elements fuel after)
    | none, hyphen :: b :: after =>
      if !hyphen.is '-' then return .one a.char :: (← elements fuel rest)
      else if b.char < a.char then
        throw ("range-endpoints of '" ++ String.ofList (shown a.char ++ '-' :: shown b.char) ++
          "' are in reverse collating sequence order")
      else return .range a.char b.char :: (← elements fuel after)
    | none, _ => return .one a.char :: (← elements fuel rest)

/-! ## Sets -/

namespace Element

def bytes : Element → List Char
  | .one c | .same c => [c]
  | .range a b => (List.range (b.toNat - a.toNat + 1)).map fun i => Char.ofNat (a.toNat + i)
  | .named _ members => members
  | .repeated c n => List.replicate n c

def isOpen : Element → Bool
  | .repeated _ 0 => true
  | _ => false

def isNamed : Element → Bool
  | .named .. => true
  | _ => false

def isSame : Element → Bool
  | .same _ => true
  | _ => false

/-- Whether a part is a class of capital or of small letters. -/
def isCase : Element → Bool
  | .named name _ => name = "upper" || name = "lower"
  | _ => false

end Element

/-- A place of a set: a byte, or all letters of a case. -/
inductive Item where
  | byte (c : Char)
  | letters (capital : Bool)

def items (set : List Element) : List Item :=
  set.flatMap fun element =>
    match element with
    | .named "upper" _ => [.letters true]
    | .named "lower" _ => [.letters false]
    | element => element.bytes.map .byte

def Item.bytes : Item → List Char
  | .byte c => [c]
  | .letters capital => allBytes.filter fun c => if capital then c.isUpper else c.isLower

/-- How bytes are changed: pairs, later ones before earlier ones. -/
abbrev Changes := List (Char × Char)

/-- What came of putting the places of two sets side by side. -/
structure Pairing where
  changes : Changes
  /-- How many bytes of the first set have none to be changed to. -/
  left : List Char

/-- Puts the places of two sets side by side; none if classes of letters are not at the same
place. -/
def pair : Nat → List Item → List Item → Changes → Option Pairing
  | 0, _, _, done => some ⟨done, []⟩
  | fuel + 1, a, b, done =>
    match a, b with
    | .letters x :: a, .letters y :: b =>
      let change := fun c : Char => if y then c.toUpper else c.toLower
      let more := if x = y then [] else ((Item.letters x).bytes.map fun c => (c, change c))
      pair fuel a b (more ++ done)
    | _, .letters _ :: _ => none
    | .byte c :: a, .byte d :: b => pair fuel a b ((c, d) :: done)
    | .letters x :: a, b => pair fuel ((Item.letters x).bytes.map .byte ++ a) b done
    | .byte c :: a, [] => some ⟨done, c :: a.flatMap Item.bytes⟩
    | [], _ => some ⟨done, []⟩

/-- The text of all that is refused about two sets. -/
abbrev Checked := Except String

def fill (size : Nat) (set : List Element) : List Element :=
  let known := set.foldl (fun sum element => sum + element.bytes.length) 0
  set.map fun element =>
    match element with
    | .repeated c 0 => .repeated c (size - known)
    | element => element

/-- The changes that two sets ask for, where the first one may stand for all other bytes, and where
bytes without a partner may stay as they are. -/
def changes (complements truncates : Bool) (first second : List Element) : Checked Changes := do
  let own := first.flatMap Element.bytes
  let domain := if complements then allBytes.filter fun c => !own.contains c else own
  if first.any Element.isOpen then
    throw "the [c*] repeat construct may not appear in string1"
  if 1 < (second.filter Element.isOpen).length then
    throw "only one [c*] repeat construct may appear in string2"
  if second.any Element.isSame then
    throw "[=c=] expressions may not appear in string2 when translating"
  if second.any fun element => element.isNamed && !element.isCase then
    throw ("when translating, the only character classes that may appear in\n" ++
      "string2 are 'upper' and 'lower'")
  let second := fill domain.length second
  let range := second.flatMap Element.bytes
  let source := if complements then domain.map .byte else items first
  let target := if complements then range.map .byte else items second
  match pair (source.length + 27 * target.length + domain.length + 1) source target [] with
  | none => throw "misaligned [:upper:] and/or [:lower:] construct"
  | some pairing =>
    let extend := !pairing.left.isEmpty && !truncates
    if extend && range.isEmpty then
      throw "when not truncating set1, string2 must be non-empty"
    if extend && second.getLast?.any Element.isNamed then
      throw ("when translating with string1 longer than string2,\n" ++
        "the latter string must not end with a character class")
    if complements && first.any Element.isNamed && range.any (some · != range.head?) then
      throw ("when translating with complemented character classes,\n" ++
        "string2 must map all characters in the domain to one")
    let last := range.getLastD '\x00'
    let more := if extend then pairing.left.reverse.map fun c => (c, last) else []
    return more ++ pairing.changes

/-- A table of the bytes that a test is true of. -/
def tableOf {α : Type} (value : Char → α) : Array α := (allBytes.map value).toArray

/-- Keeps one of bytes of a set that repeat side by side. -/
def squeeze (belongs : Char → Bool) (octets : List Char) : List Char :=
  (octets.foldl (fun (done, last) c =>
    if last = some c && belongs c then (done, last) else (c :: done, some c))
    (([] : List Char), (none : Option Char))).1.reverse

/-! ## The program -/

/-- What is done with the bytes. -/
structure Task where
  complements : Bool
  deletes : Bool
  squeezes : Bool
  truncates : Bool

def Task.function (t : Task) (first : List Element) (second : Option (List Element)) :
    Checked (List Char → List Char) := do
  let member := fun (set : List Element) (complements : Bool) =>
    let bytes := set.flatMap Element.bytes
    let table := tableOf fun c => bytes.contains c != complements
    fun c : Char => table.getD c.toNat false
  match second with
  | none =>
    if first.any Element.isOpen then
      throw "the [c*] repeat construct may not appear in string1"
    let belongs := member first t.complements
    if t.deletes then return fun octets => octets.filter fun c => !belongs c
    else return squeeze belongs
  | some second =>
    if t.deletes then
      if first.any Element.isOpen then
        throw "the [c*] repeat construct may not appear in string1"
      if second.any Element.isOpen then
        throw "the [c*] construct may appear in string2 only when translating"
      let away := member first t.complements
      let once := member second false
      return fun octets => squeeze once (octets.filter fun c => !away c)
    else
      let changes ← changes t.complements t.truncates first second
      let table := tableOf fun c => (changes.lookup c).getD c
      let own := first.flatMap Element.bytes
      let size := if t.complements then 256 - (allBytes.filter own.contains).length else own.length
      let once := member (fill size second) false
      let translate := fun octets : List Char => octets.map fun c => table.getD c.toNat c
      return fun octets => if t.squeezes then squeeze once (translate octets) else translate octets

def readSet (name word : Octets) : Run (Option (List Element)) := do
  let (letters, warnings) := letters (word.length + 1) word.toList
  warnings.forM (Tool.complain name)
  match elements (letters.length + 1) letters with
  | .ok set => return some set
  | .error text =>
    Tool.complain name text
    return none

/-- Complains about the number of sets, with a line that explains it. -/
def refuse (name text : Octets) (reason : Option String) : Run Nat := do
  Tool.complain name text
  match reason with
  | some reason => Run.complain reason
  | none => pure ()
  Tool.pointToHelp name
  return 1

def tr : Tool := fun _ name words =>
  Tool.withOptionsIn false [⟨'c', "complement", .no⟩, ⟨'C', "", .no⟩, ⟨'d', "delete", .no⟩,
      ⟨'s', "squeeze-repeats", .no⟩, ⟨'t', "truncate-set1", .no⟩] 1 name words fun given => do
    let t : Task :=
      { complements := given.has 'c' || given.has 'C', deletes := given.has 'd'
        squeezes := given.has 's', truncates := given.has 't' }
    let least := if t.deletes = t.squeezes then 2 else 1
    let most := if t.deletes && !t.squeezes then 1 else 2
    let count := given.operands.length
    if count = 0 then return ← refuse name "missing operand" none
    if count < least then
      return ← refuse name ("missing operand after " ++ Quoting.plain (words.getLastD ""))
        (some (if t.squeezes then
            "Two strings must be given when both deleting and squeezing repeats."
          else "Two strings must be given when translating."))
    if most < count then
      return ← refuse name ("extra operand " ++ Quoting.plain ((given.operands[most]?).getD ""))
        (if count = 2 then
            some "Only one string may be given when deleting without squeezing repeats."
          else none)
    let some first ← readSet name (given.operands.headD "") | return 1
    let second ← match given.operands.tail with
      | [] => pure (some none)
      | word :: _ => do pure ((← readSet name word).map some)
    let some second := second | return 1
    match t.function first second with
    | .error text =>
      Tool.complain name text
      return 1
    | .ok change =>
      match ← Run.readAll 0 with
      | .ok octets =>
        Run.emit (String.ofList (change octets))
        return 0
      | .error fault =>
        Tool.fault name "read error" fault
        return 1

end Translating
end Shell
end LineShell
