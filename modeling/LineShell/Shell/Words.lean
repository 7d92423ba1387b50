import LineShell.Shell.Reader

/-!
# Reading words

A word is scanned into a row of atoms, in which quotation marks and the two ends of an expansion
stand for themselves, and the row is then folded into pieces.  The scan keeps a stack of levels,
one for each change of the rules by which characters are taken.
-/

namespace LineShell
namespace Shell

inductive Atom where
  | char (c : Char)
  | escaped (c : Char)
  | mark
  | parameter (name : String) (index : Option Word) (treatment : Treatment)
  | endParameter
  | startArithmetic
  | endArithmetic
  | substitution (script : Script)

/-- The rules by which characters are taken. -/
inductive Rules where
  | bare
  | doubleQuoted
  | singleQuoted
  | arithmetic
  deriving DecidableEq, Repr

structure Level where
  rules : Rules
  /-- Whether it lies in double quotes. -/
  doubled : Bool := false
  /-- Whether double quotes were opened again inside an expansion. -/
  reopened : Bool := false
  /-- Whether the expansion that is open made this level. -/
  pushed : Bool := false
  /-- How many expansions are open. -/
  open_ : Nat := 0
  /-- How many of them were opened in double quotes. -/
  openDoubled : Nat := 0
  parentheses : Nat := 0
  deriving DecidableEq, Repr

/-- What is scanned: a word, the delimiter of a document, or a document. -/
inductive Purpose where
  | word
  | delimiter
  | document
  deriving DecidableEq, Repr

structure Scan where
  level : Level
  /-- The levels around it, the innermost first. -/
  outer : List Level := []
  /-- The atoms so far, the last one first. -/
  atoms : List Atom := []
  quoted : Bool := false

namespace Scan

def push (s : Scan) (atom : Atom) : Scan := { s with atoms := atom :: s.atoms }

def leave (s : Scan) : Scan :=
  match s.outer with
  | level :: outer => { s with level, outer }
  | [] => s

def enter (s : Scan) (level : Level) : Scan := { s with level, outer := s.level :: s.outer }

end Scan

/-! ## Folding atoms into pieces -/

def consLiteral (c : Char) (quoted : Bool) : Word → Word
  | .literal text q :: rest =>
    if q = quoted then .literal (c :: text) q :: rest
    else .literal [c] quoted :: .literal text q :: rest
  | rest => .literal [c] quoted :: rest

/-- Whether the word of an expansion is read as if it stood outside of quotes. -/
def startsBare : Treatment → Bool
  | .trimFront _ | .trimBack _ | .assign _ | .demand _ | .slice | .replace _ => true
  | _ => false

/-- Folds atoms into pieces, up to the end of the expansion that is open.  Whether the first of them
is quoted is given. -/
def fold : Nat → Bool → List Atom → Word × List Atom
  | 0, _, atoms => ([], atoms)
  | _, _, [] => ([], [])
  | fuel + 1, quoted, atom :: rest =>
    match atom with
    | .char c =>
      let (word, rest) := fold fuel quoted rest
      (consLiteral c quoted word, rest)
    | .escaped c =>
      let (word, rest) := fold fuel quoted rest
      (consLiteral c true word, rest)
    | .mark =>
      match quoted, rest with
      | false, .parameter "@" none .value :: .mark :: rest =>
        let (word, rest) := fold fuel false rest
        (.parameter "@" none .value [] true :: word, rest)
      | _, _ =>
        let (word, rest) := fold fuel (!quoted) rest
        (if quoted then word else .anchor :: word, rest)
    | .parameter name index treatment =>
      if treatment = .value then
        let (word, rest) := fold fuel quoted rest
        (.parameter name index treatment [] quoted :: word, rest)
      else
        let (inside, rest) := fold fuel (quoted && !startsBare treatment) rest
        let (word, rest) := fold fuel quoted rest
        (.parameter name index treatment inside quoted :: word, rest)
    | .startArithmetic =>
      let (inside, rest) := fold fuel true rest
      let (word, rest) := fold fuel quoted rest
      (.arithmetic inside quoted :: word, rest)
    | .substitution script =>
      let (word, rest) := fold fuel quoted rest
      (.substitution script quoted :: word, rest)
    | .endParameter | .endArithmetic => ([], rest)

/-! ## Expansions -/

/-- Reads text up to a backquote that is not escaped.  Inside double quotes a quotation mark can be
escaped as well. -/
def backquoted (doubled : Bool) : Nat → Parse (List Char)
  | 0 => Reader.refuse "EOF in backquote substitution"
  | fuel + 1 => do
    match ← Reader.next with
    | none => Reader.refuse "EOF in backquote substitution"
    | some '\x60' => return []
    | some '\\' =>
      match ← Reader.nextRaw with
      | none => Reader.refuse "EOF in backquote substitution"
      | some c =>
        let rest ← backquoted doubled fuel
        if c = '\\' || c = '\x60' || c = '$' || doubled && c = '"' then return c :: rest
        else return '\\' :: c :: rest
    | some c => return c :: (← backquoted doubled fuel)

/-- Reads a script in a text of its own, whose lines are counted anew. -/
def within (text : List Char) (script : Parse Script) : Parse Script := do
  let r ← get
  let inner : Reader :=
    { rest := text, dialect := r.dialect, aliases := r.aliases,
      documents := r.documents, nextDocument := r.nextDocument }
  match script.run inner with
  | .ok (result, inner) =>
    modify fun r => { r with documents := inner.documents, nextDocument := inner.nextDocument }
    return result
  | .error fault => throw fault

def treatment? (empty : Bool) : Char → Option Treatment
  | '-' => some (.orElse empty)
  | '+' => some (.instead empty)
  | '=' => some (.assign empty)
  | '?' => some (.demand empty)
  | _ => none

/-- Passes over a character that has no meaning.  A line feed there starts no line. -/
def passOver : Parse Unit := modify fun r => { r with rest := r.rest.tail }

/-- Reads the treatment after the name of a parameter in braces. -/
def treatment (dialect : Dialect) : Parse Treatment := do
  match ← Reader.peek with
  | some '}' =>
    Reader.advance
    return .value
  | some ':' =>
    Reader.advance
    match (← Reader.peek).bind (treatment? true) with
    | some t =>
      Reader.advance
      return t
    | none =>
      if dialect = .extended then return .slice
      else
        passOver
        return .unknown
  | some '#' =>
    Reader.advance
    return .trimFront (← Reader.skip? '#')
  | some '%' =>
    Reader.advance
    return .trimBack (← Reader.skip? '%')
  | some c =>
    passOver
    if c = '/' && dialect = .extended then return .replace (← Reader.skip? '/')
    else return (treatment? false c).getD .unknown
  | none => return .unknown

/-- Reads the name of a variable, or of an operand by its number. -/
def longName : Parse (Option String) := do
  match ← Reader.peek with
  | some c =>
    if startsName c then
      return some (String.ofList (← Reader.takeWhile continuesName (← Reader.size)))
    else if c.isDigit then
      return some (String.ofList (← Reader.takeWhile Char.isDigit (← Reader.size)))
    else return none
  | none => return none

/-- Reads the name of a parameter without braces, which is one character if it is special. -/
def shortName : Parse (Option String) := do
  match ← Reader.peek with
  | some c =>
    if startsName c then longName
    else if isSpecial c then
      Reader.advance
      return some (String.singleton c)
    else return none
  | none => return none

/-- Reads what stands between the brackets after the name of an array. -/
def index? (dialect : Dialect) (word : Parse Word) : Parse (Option Word) := do
  let c ← Reader.peek
  if dialect = .extended && c = some '[' then
    Reader.advance
    return some (← word)
  else return none

/-- Reads a parameter in braces: the name, an index, and the treatment.  A number sign in front asks
for a length, unless it can only be the parameter itself. -/
def bracedParameter (index : Parse Word) : Parse (String × Option Word × Treatment) := do
  let dialect := (← get).dialect
  match ← longName with
  | some name =>
    let place ← index? dialect index
    return (name, place, ← treatment dialect)
  | none =>
    match ← Reader.peek with
    | none | some '}' => return ("", none, .unknown)
    | some '#' =>
      Reader.advance
      match ← longName with
      | some name => return (name, ← index? dialect index, .length)
      | none =>
        let r ← get
        let c ← Reader.next
        let d ← Reader.peek
        if c != some '}' && d = some '}' then
          match c with
          | some c =>
            if isSpecial c then return (String.singleton c, none, .length)
            else return ("", none, .unknown)
          | none => return ("", none, .unknown)
        else
          set r
          return ("#", none, ← treatment dialect)
    | some c =>
      passOver
      if isSpecial c then return (String.singleton c, none, ← treatment dialect)
      else return ("", none, .unknown)

def escape (purpose : Purpose) (level : Level) (c : Char) : List Atom :=
  let keeps := level.doubled && c != '\\' && c != '\x60' && c != '$' &&
    (c != '"' || purpose = .document && level.open_ = 0) &&
    (c != '}' || level.open_ = 0)
  if keeps then [.escaped c, .escaped '\\'] else [.escaped c]

def bracketed : Nat → Parse Word
  | 0 => return []
  | fuel + 1 => do
    match ← Reader.next with
    | none | some ']' => return []
    | some '$' =>
      match ← shortName with
      | some name => return .parameter name none .value [] false :: (← bracketed fuel)
      | none => return consLiteral '$' false (← bracketed fuel)
    | some '"' => bracketed fuel
    | some c => return consLiteral c false (← bracketed fuel)

def Scan.openParameter (s : Scan) (treatment : Treatment) : Scan :=
  let level := s.level
  let bare := match treatment with
    | .trimFront _ | .trimBack _ | .slice | .replace _ => true
    | _ => false
  let rules := if bare then Rules.bare
    else if level.rules = .arithmetic then .doubleQuoted else level.rules
  let s := if rules != level.rules || level.reopened then
      s.enter { rules, pushed := true, doubled := rules != .bare }
    else s
  let l := s.level
  { s with level := { l with
      open_ := l.open_ + 1
      openDoubled := if l.doubled then l.openDoubled + 1 else l.openDoubled } }

/-- How scripts inside words are read: one up to its closing parenthesis, and one in a text of its
own. -/
structure Inner where
  enclosed : Parse Script
  whole : Parse Script

def expansion (inner : Inner) (purpose : Purpose) (s : Scan) : Parse Scan := do
  let c ← Reader.peek
  let begins := c.any fun c => c = '(' || c = '{' || startsName c || isSpecial c
  if purpose = .delimiter || !begins then return s.push (.char '$')
  else if c = some '(' then
    Reader.advance
    if ← Reader.skip? '(' then
      return (s.push .startArithmetic).enter { rules := .arithmetic, doubled := true }
    else
      let saved ← get
      set { saved with returned := false, awaited := [] }
      let script ← inner.enclosed
      modify fun r => { r with returned := false, awaited := saved.awaited }
      return s.push (.substitution script)
  else if c = some '{' then
    Reader.advance
    let (name, index, treatment) ← bracedParameter (bracketed (← Reader.size))
    let s := s.push (.parameter name index treatment)
    return if treatment = .value then s else s.openParameter treatment
  else
    match ← shortName with
    | some name => return s.push (.parameter name none .value)
    | none => return s.push (.char '$')

/-! ## The scan -/

/-- What comes after a step of the scan. -/
inductive Progress where
  | more (s : Scan)
  | done (s : Scan)

def Scan.toggleDouble (s : Scan) : Scan :=
  if s.level.open_ > 0 then { s with level := { s.level with reopened := !s.level.reopened } }
  else s

def letterEscapes : List (Char × Char) :=
  [('n', '\n'), ('t', '\t'), ('r', '\r'), ('a', '\x07'), ('b', '\x08'), ('e', '\x1b'),
   ('f', '\x0c'), ('v', '\x0b'), ('\\', '\\'), ('\'', '\''), ('"', '"'), ('?', '?')]

/-- Reads quotes after a dollar sign, in which backslashes escape. -/
def escapedQuotes : Nat → Parse (List Atom)
  | 0 => return []
  | fuel + 1 => do
    match ← Reader.nextRaw with
    | none => Reader.refuse "Unterminated quoted string"
    | some '\'' => return []
    | some '\\' =>
      match ← Reader.nextRaw with
      | none => Reader.refuse "Unterminated quoted string"
      | some c =>
        match letterEscapes.lookup c with
        | some d => return .escaped d :: (← escapedQuotes fuel)
        | none => return .escaped '\\' :: .escaped c :: (← escapedQuotes fuel)
    | some c => return .escaped c :: (← escapedQuotes fuel)

def step (inner : Inner) (purpose : Purpose) (s : Scan) : Parse Progress := do
  let level := s.level
  let c ← if level.rules = .singleQuoted then pure (← get).rest.head? else Reader.peek
  match c with
  | none => return .done s
  | some c =>
    if level.rules = .bare && level.open_ = 0 && endsWord c then return .done s
    Reader.advance
    match level.rules, c with
    | .singleQuoted, '\'' =>
      let rules := if level.openDoubled = 0 then Rules.bare else .doubleQuoted
      return .more { s.push .mark with level := { level with rules }, quoted := true }
    | .singleQuoted, c => return .more (s.push (.escaped c))
    | _, '\\' =>
      match (← get).rest with
      | [] => return .more (s.push (.escaped '\\'))
      | d :: _ =>
        Reader.advance
        return .more { s with atoms := escape purpose level d ++ s.atoms, quoted := true }
    | .bare, '\'' =>
      return .more { s.push .mark with level := { level with rules := .singleQuoted } }
    | .bare, '"' =>
      let s := { s with level := { level with rules := .doubleQuoted, doubled := true } }
      return .more (s.toggleDouble.push .mark)
    | .doubleQuoted, '"' =>
      if purpose = .document && level.open_ = 0 then return .more (s.push (.char '"'))
      else
        let s := if level.openDoubled = 0 then
            { s with level := { level with rules := .bare, doubled := false } }
          else s
        return .more { s.toggleDouble.push .mark with quoted := true }
    | _, '$' =>
      if (← get).dialect = .extended && level.rules = .bare && purpose = .word &&
          (← Reader.peek) = some '\'' then
        Reader.advance
        let inside ← escapedQuotes ((← Reader.size) + 1)
        return .more { s with
          atoms := .mark :: inside.reverse ++ (.mark :: s.atoms), quoted := true }
      else return .more (← expansion inner purpose s)
    | _, '}' =>
      if !level.reopened && level.open_ > 0 then
        let l := { level with open_ := level.open_ - 1 }
        let s := s.push .endParameter
        if l.open_ = 0 && l.pushed then return .more s.leave
        else return .more { s with level := { l with openDoubled := l.openDoubled - 1 } }
      else return .more (s.push (.char '}'))
    | .arithmetic, '(' =>
      return .more
        { s.push (.char '(') with level := { level with parentheses := level.parentheses + 1 } }
    | .arithmetic, ')' =>
      if level.parentheses > 0 then
        return .more
          { s.push (.char ')') with level := { level with parentheses := level.parentheses - 1 } }
      else
        let closes ← Reader.skip? ')'
        return .more (if closes then (s.push .endArithmetic).leave else s.push (.char ')'))
    | _, '\x60' =>
      if purpose = .delimiter then return .more { s.push (.char '\x60') with quoted := true }
      else
        let text ← backquoted level.doubled ((← Reader.size) + 1)
        return .more (s.push (.substitution (← within text inner.whole)))
    | .doubleQuoted, c => return .more (s.push (.escaped c))
    | _, c => return .more (s.push (.char c))

def scan (inner : Inner) (purpose : Purpose) : Nat → Scan → Parse Scan
  | 0, s => return s
  | fuel + 1, s => do
    match ← step inner purpose s with
    | .done s => return s
    | .more s => scan inner purpose fuel s

def finish (purpose : Purpose) (s : Scan) : Parse Unit := do
  if s.level.rules = .arithmetic then Reader.refuse "Missing '))'"
  if s.level.rules != .bare && purpose != .document then
    Reader.refuse "Unterminated quoted string"
  if s.level.open_ != 0 then Reader.refuse "Missing '\x7d'"

def Scan.word (s : Scan) (quoted : Bool) : Word :=
  (fold (2 * s.atoms.length + 2) quoted s.atoms.reverse).1

/-- Reads a word, which may be empty before a redirection, and whether any of it is quoted. -/
def word (inner : Inner) (purpose : Purpose) : Parse (Word × Bool) := do
  let s ← scan inner purpose (2 * (← Reader.size) + 2) { level := { rules := .bare } }
  finish purpose s
  return (s.word false, s.quoted)

def document (inner : Inner) : Parse Word := do
  let start : Scan := { level := { rules := .doubleQuoted, doubled := true } }
  let s ← scan inner .document (2 * (← Reader.size) + 2) start
  finish .document s
  return s.word true

end Shell
end LineShell
