import LineShell.Shell.Calculation
import LineShell.Shell.Glob

/-!
# Expansion of words

Expanding a word gives elements, from which fields are cut.  The output of a script inside a word is
given by the caller, since scripts are run elsewhere.  The words inside braces are expanded only if
they are needed.
-/

namespace LineShell
namespace Shell
namespace Expansion

inductive Tilde where
  | nowhere
  | atStart
  | afterColons
  deriving DecidableEq, Repr

structure Manner where
  /-- Whether operands stay apart. -/
  apart : Bool
  tilde : Tilde
  /-- Whether plain text is cut into fields as well, as it is in the words inside braces. -/
  cutsText : Bool := false

def homes : List (String × String) :=
  [("root", "/root"), ("daemon", "/usr/sbin"), ("bin", "/bin"), ("sys", "/dev"),
   ("sync", "/bin"), ("games", "/usr/games"), ("man", "/var/cache/man"), ("lp", "/var/spool/lpd"),
   ("mail", "/var/mail"), ("news", "/var/spool/news"), ("uucp", "/var/spool/uucp"),
   ("proxy", "/bin"), ("www-data", "/var/www"), ("backup", "/var/backups"), ("list", "/var/list"),
   ("irc", "/run/ircd"), ("nobody", "/nonexistent")]

/-! ## Parameters -/

inductive Value where
  | none
  | text (octets : Octets)
  /-- All operands; by a star they are joined where they are quoted. -/
  | operands (values : List Octets) (star : Bool)

/-- The letters of switches, in the order in which they are shown. -/
def switchLetters (s : Switches) (readsInput : Bool) : String :=
  let shown : List (Bool × Char) :=
    [(s.endsOnFailure, 'e'), (s.noPatterns, 'f'), (s.ignoresEnd, 'I'), (s.interactive, 'i'),
     (s.monitors, 'm'), (s.readsOnly, 'n'), (readsInput, 's'), (s.traces, 'x'),
     (s.showsLines, 'v'), (s.editsVi, 'V'), (s.editsEmacs, 'E'), (s.keepsFiles, 'C'),
     (s.allExported, 'a'), (s.notifies, 'b'), (s.demandsValues, 'u'), (s.privileged, 'p')]
  String.ofList ((shown.filter (·.1)).map (·.2))

def lookUp (name : String) (index : Option Octets) : Run Value := do
  let s ← get
  let number := fun n : Nat => Value.text (Numeral.decimal n)
  match name with
  | "@" => return .operands s.operands false
  | "*" => return .operands s.operands true
  | "#" => return number s.operands.length
  | "?" => return number s.status
  | "$" => return number s.shell
  | "!" => return (s.lastJob.map number).getD .none
  | "-" => return .text (switchLetters s.switches s.switches.readsInput)
  | _ =>
    if name.toList.all Char.isDigit then
      let n := ofDigits 10 name.toList
      if n = 0 then return .text s.name
      else return (s.operands[n - 1]?.map Value.text).getD .none
    else
      match s.arrays.lookup name, index with
      | some values, some "@" => return .operands values false
      | some values, some "*" => return .operands values true
      | some values, some place =>
        let n ← Calculation.evaluate place
        return (values[n.toNatClampNeg]?.map Value.text).getD .none
      | some values, none => return (values.head?.map Value.text).getD .none
      | none, _ => return ((s.vars.lookup name).bind (·.value)).elim .none .text

def marksOf (quoted splits : Bool) (text : Octets) : List Element :=
  text.toList.map fun c => .mark { char := c, quoted, splits := splits && !quoted }

/-- What joins operands that are not kept apart. -/
def joiner : Run (List Char) := do
  match ← Run.value? "IFS" with
  | some separators => return separators.toList.take 1
  | none => return [' ']

def between (gap : List Element) : List (List Element) → List Element
  | [] => []
  | [last] => last
  | first :: rest => first ++ gap ++ between gap rest

/-- The elements of a value; nothing if there is no value. -/
def valueElements (manner : Manner) (quoted : Bool) : Value → Run (Option (List Element))
  | .none => return none
  | .text octets => return some (marksOf quoted manner.apart octets)
  | .operands values star => do
    let parts := values.map (marksOf quoted manner.apart)
    if manner.apart && !quoted then return some (between [.gap false] parts)
    else if manner.apart && !star then
      return some (if parts.isEmpty then [] else .anchor :: between [.gap true] parts)
    else
      let gap := (← joiner).map fun c => Element.mark { char := c, quoted }
      return some (between gap parts)

/-- Complains about a parameter without a value. -/
def missing {α : Type} (name : String) (text : Octets) : Run α := Run.fail (name ++ ": " ++ text)

def isEmpty (elements : List Element) : Bool :=
  elements.all fun
    | .mark _ => false
    | .anchor => true
    | .gap _ => false

def charOf? : Element → Option Char
  | .mark mark => some mark.char
  | .gap _ => some '\x00'
  | .anchor => none

/-- Keeps a stretch of elements, which are counted without anchors. -/
def stretch (start count : Nat) (elements : List Element) : List Element :=
  let counted := elements.filter fun element => (charOf? element).isSome
  (counted.drop start).take count

/-- What a pattern sees of a text: nothing behind a place between two operands. -/
def seen (text : List Char) : List Char := text.takeWhile (· != '\x00')

/-- Takes the part off that a pattern stands for where there are several operands.  A stretch that
is looked for from the start of the text ends with the first operand. -/
def trimOperands (front longest : Bool) (pattern : Pattern) (text : List Char)
    (elements : List Element) : List Element :=
  let sizes := List.range (text.length + 1)
  let order := if front = longest then sizes.reverse else sizes.take ((seen text).length + 1)
  let fits := fun n : Nat =>
    Pattern.accepts pattern (seen (if front then text.take n else text.drop n))
  match order.find? fits with
  | none => elements
  | some n => if front then stretch n text.length elements else stretch 0 n elements

def trim (front longest : Bool) (pattern : Pattern) (elements : List Element) : List Element :=
  let text := elements.filterMap charOf?
  if text.contains '\x00' then trimOperands front longest pattern text elements
  else if front then
    match Pattern.front? longest pattern text with
    | some n => stretch n text.length elements
    | none => elements
  else
    match Pattern.back? longest pattern text with
    | some n => stretch 0 n elements
    | none => elements

/-- Puts a text in place of the first match, or of all matches, of a pattern. -/
def replaceIn (all : Bool) (pattern : Pattern) (replacement : List Char) :
    Nat → List Char → List Char
  | 0, text => text
  | _, [] => []
  | fuel + 1, c :: rest =>
    match Pattern.front? true pattern (c :: rest) with
    | some n =>
      if n = 0 then c :: replaceIn all pattern replacement fuel rest
      else
        let after := (c :: rest).drop n
        replacement ++ (if all then replaceIn all pattern replacement fuel after else after)
    | none => c :: replaceIn all pattern replacement fuel rest

/-- Cuts the elements of a word at the first unquoted character of a kind. -/
def cutAt (c : Char) (elements : List Element) : List Element × Option (List Element) :=
  let before := elements.takeWhile fun
    | .mark mark => mark.char != c || mark.quoted
    | _ => true
  (before,
    if before.length < elements.length then some (elements.drop (before.length + 1)) else none)

/-! ## Tildes -/

def home? (name : List Char) : Run (Option Octets) := do
  if name.isEmpty then Run.value? "HOME" else return homes.lookup (String.ofList name)

/-- Expands the tilde at the start of a plain text, which ends its word or not. -/
def expandTilde (colons ends : Bool) (text : List Char) : Run (Option (Octets × List Char)) := do
  match text with
  | '~' :: rest =>
    let name := rest.takeWhile fun c => c != '/' && !(colons && c = ':')
    let after := rest.drop name.length
    if after.isEmpty && !ends then return none
    else return (← home? name).map fun home => (home, after)
  | _ => return none

def plainElements (manner : Manner) (ends : Bool) : Nat → Bool → List Char → Run (List Element)
  | 0, _, _ => return []
  | _, _, [] => return []
  | fuel + 1, atStart, c :: rest => do
    let plain := fun c => Element.mark { char := c, splits := manner.cutsText }
    let colons := manner.tilde = .afterColons
    if atStart && c = '~' then
      match ← expandTilde colons ends (c :: rest) with
      | some (home, after) =>
        return marksOf true false home ++ (← plainElements manner ends fuel false after)
      | none => return plain c :: (← plainElements manner ends fuel false rest)
    else return plain c :: (← plainElements manner ends fuel (colons && c = ':') rest)

/-! ## Words -/

abbrev Substitute := Script → Run Octets

def textOf (elements : List Element) : Run Octets := do
  return Field.text (Field.join (← joiner) elements)

def patternOf (elements : List Element) : Run Pattern := do
  return Pattern.ofMarks (Field.join (← joiner) elements)

def Manner.inner (manner : Manner) : Manner :=
  { apart := manner.apart, tilde := .atStart, cutsText := manner.apart }

def Manner.single : Manner := { apart := false, tilde := .atStart }

def parameter (again : Manner → Word → Run (List Element)) (manner : Manner) (name : String)
    (index : Option Word) (treatment : Treatment) (word : Word) (quoted : Bool) :
    Run (List Element) := do
  if treatment = .unknown then Run.fail "Bad substitution"
  let place ← index.mapM fun word => do textOf (← again .single word)
  let value ← lookUp name place
  let found ← valueElements manner quoted value
  let demanded : Run (List Element) := do
    match found with
    | some elements => return elements
    | none =>
      if (← get).switches.demandsValues then missing name "parameter not set"
      return []
  let inner := again { manner.inner with tilde := if quoted then .nowhere else .atStart } word
  let given := fun empty : Bool => found.filter fun elements => !(empty && isEmpty elements)
  match treatment with
  | .value => demanded
  | .unknown => return []
  | .length =>
    let elements ← demanded
    let n ← match value, place with
      | .operands values _, some _ => pure values.length
      | _, _ => pure (elements.filterMap charOf?).length
    return marksOf quoted manner.apart (Numeral.decimal n)
  | .orElse empty =>
    match given empty with
    | some elements => return elements
    | none => inner
  | .instead empty => if (given empty).isSome then inner else return []
  | .assign empty =>
    match given empty with
    | some elements => return elements
    | none =>
      let text ← textOf (← again { Manner.single with tilde := .atStart } word)
      if !isName name.toList then missing name "bad variable name"
      Run.setVariable name (some text) false
      return marksOf quoted manner.apart text
  | .demand empty =>
    match given empty with
    | some elements => return elements
    | none =>
      let message ← textOf (← again .single word)
      if word.isEmpty then
        missing name (if empty then "parameter not set or null" else "parameter not set")
      else missing name message
  | .trimFront longest =>
    let elements ← demanded
    return trim true longest (← patternOf (← again .single word)) elements
  | .trimBack longest =>
    let elements ← demanded
    return trim false longest (← patternOf (← again .single word)) elements
  | .slice =>
    let elements ← demanded
    let (start, count) := cutAt ':' (← again .single word)
    let n := (← Calculation.evaluate (← textOf start)).toInt
    let size := (elements.filterMap charOf?).length
    let from' := if n < 0 then (size + n).toNat else n.toNat
    match count with
    | none => return stretch from' size elements
    | some count =>
      let m := (← Calculation.evaluate (← textOf count)).toInt
      return stretch from' (if m < 0 then (size + m - from').toNat else m.toNat) elements
  | .replace all =>
    let elements ← demanded
    let (pattern, replacement) := cutAt '/' (← again .single word)
    let text := elements.filterMap charOf?
    let replacement ← textOf (replacement.getD [])
    let result := replaceIn all (← patternOf pattern) replacement.toList (text.length + 1) text
    return marksOf quoted manner.apart (String.ofList result)

/-- The output of a script without the line feeds at its end, as a value. -/
def outputText (output : Octets) : Octets :=
  let kept := output.toList.filter (· != '\x00')
  String.ofList (kept.reverse.dropWhile (· = '\n')).reverse

def pieces (again : Manner → Word → Run (List Element)) (substitute : Substitute)
    (manner : Manner) : Bool → Word → Run (List Element)
  | _, [] => return []
  | atStart, piece :: rest => do
    let tilde := manner.tilde
    let first ← match piece with
      | .literal text quoted =>
        if quoted then pure (marksOf true false (String.ofList text))
        else
          let atStart := atStart && tilde != .nowhere
          plainElements manner rest.isEmpty (text.length + 1) atStart text
      | .anchor => pure [.anchor]
      | .parameter name index treatment word quoted =>
        parameter again manner name index treatment word quoted
      | .arithmetic text quoted => do
        let text ← textOf (← again { apart := false, tilde := .nowhere } text)
        let value ← Calculation.evaluate text
        pure (marksOf quoted manner.apart (toString value.toInt))
      | .substitution script quoted => do
        pure (marksOf quoted manner.apart (outputText (← substitute script)))
    let colon := match piece with
      | .literal text false => tilde = .afterColons && text.getLast? = some ':'
      | _ => false
    return first ++ (← pieces again substitute manner colon rest)

def elements (substitute : Substitute) : Nat → Manner → Word → Run (List Element)
  | 0, _, _ => return []
  | depth + 1, manner, word =>
    pieces (elements substitute depth) substitute manner true word

def depthLimit : Nat := 10000

/-! ## Braces of the extended language -/

def alternatives : Nat → Field → Field → Option (List Field × Field)
  | _, _, [] => none
  | depth, current, mark :: rest =>
    let bare := fun c => Pattern.Mark.isBare mark c
    if bare '}' && depth = 0 then some ([current.reverse], rest)
    else if bare ',' && depth = 0 then
      (alternatives 0 [] rest).map fun (others, rest) => (current.reverse :: others, rest)
    else
      let depth := if bare '{' then depth + 1 else if bare '}' then depth - 1 else depth
      alternatives depth (mark :: current) rest

def series? (text : List Char) : Option (List Field) :=
  let parts := (String.ofList text).splitOn ".."
  match parts with
  | [first, last] =>
    match first.toInt?, last.toInt? with
    | some a, some b =>
      let count := (b - a).natAbs + 1
      some ((List.range count).map fun (i : Nat) =>
        Field.ofText (toString (if a ≤ b then a + i else a - i)))
    | _, _ =>
      match first.toList, last.toList with
      | [a], [b] =>
        let count := ((b.toNat : Int) - a.toNat).natAbs + 1
        some ((List.range count).map fun (i : Nat) =>
          [{ char := Char.ofNat (if a ≤ b then a.toNat + i else a.toNat - i) }])
      | _, _ => none
  | _ => none

def braces : Nat → Field → List Field
  | 0, field => [field]
  | _, [] => [[]]
  | fuel + 1, mark :: rest =>
    let keep := (braces fuel rest).map (mark :: ·)
    if Pattern.Mark.isBare mark '{' then
      match alternatives 0 [] rest with
      | some ([single], after) =>
        match series? (single.map (·.char)) with
        | some members => members.flatMap fun m => (braces fuel after).map (m ++ ·)
        | none => keep
      | some (members, after) =>
        members.flatMap fun m => (braces fuel m).flatMap fun m => (braces fuel after).map (m ++ ·)
      | none => keep
    else keep

/-- The words that a word of the extended language stands for, if it is plain text with braces. -/
def wordsOfBraces (word : Word) : List Word :=
  let marks := word.flatMap fun
    | .literal text quoted => text.map fun c => some ({ char := c, quoted } : Mark)
    | _ => [none]
  match marks.mapM id with
  | none => [word]
  | some field =>
    (braces (2 * field.length + 2) field).map fun field =>
      field.map fun mark => Piece.literal [mark.char] mark.quoted

/-! ## What words give -/

def compact : Word → Word
  | .literal a p :: rest =>
    match compact rest with
    | .literal b q :: rest =>
      if p = q then .literal (a ++ b) p :: rest else .literal a p :: .literal b q :: rest
    | rest => .literal a p :: rest
  | piece :: rest => piece :: compact rest
  | [] => []

def separators : Run (List Char) := do
  return ((← Run.value? "IFS").map (·.toList)).getD Field.blanks

/-- The fields of a word, which may be patterns for paths. -/
def fields (substitute : Substitute) (tilde : Tilde) (word : Word) : Run (List Octets) := do
  let words := if (← get).dialect = .extended then (wordsOfBraces word).map compact else [word]
  let found ← words.mapM fun word => do
    let parts ← elements substitute depthLimit { apart := true, tilde } word
    (Field.cut (← separators) parts).mapM Glob.paths
  return (found.map List.flatten).flatten

def text (substitute : Substitute) (tilde : Tilde) (word : Word) : Run Octets := do
  textOf (← elements substitute depthLimit { apart := false, tilde } word)

def pattern (substitute : Substitute) (word : Word) : Run Pattern := do
  patternOf (← elements substitute depthLimit .single word)

end Expansion
end Shell
end LineShell
