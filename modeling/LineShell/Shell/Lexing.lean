import LineShell.Shell.Words

/-!
# Reading lexemes

A lexeme is a word, an operator, a redirection without its target, or an end.  What a word means
depends on where it stands, so a reader of lexemes says what it wants: whether line feeds count,
whether keywords have their meaning, and whether names that stand for other text are replaced.

The documents that redirections on a line asked for follow the line's end, and are read with it.
-/

namespace LineShell
namespace Shell

structure Wants where
  passesFeeds : Bool := false
  keywords : Bool := false
  aliases : Bool := false
  /-- The word is the delimiter of a document. -/
  delimiter : Bool := false

def Wants.command : Wants := { keywords := true, aliases := true }

/-- What a command starts with that may stand on a line of its own. -/
def Wants.spaced : Wants := { Wants.command with passesFeeds := true }

def keywords : List String :=
  ["!", "case", "do", "done", "elif", "else", "esac", "fi", "for", "if", "in", "then", "until",
   "while", "\x7b", "\x7d"]

def extendedKeywords : List String := ["[[", "function"]

def Dialect.keywords : Dialect → List String
  | .plain => Shell.keywords
  | .extended => Shell.keywords ++ extendedKeywords

/-! ## Documents -/

def trailingBackslashes (line : List Char) : Nat := (line.reverse.takeWhile (· = '\\')).length

/-- Cuts the text of a document off: its text, what follows the line with the delimiter, and how
many lines were passed.  A line that continues the line before it is not compared. -/
def cutDocument (awaited : AwaitedDocument) :
    Nat → Bool → List Char → List Char × List Char × Nat
  | 0, _, rest => ([], rest, 0)
  | _, _, [] => ([], [], 0)
  | fuel + 1, continues, rest =>
    let line := rest.takeWhile (· != '\n')
    let after := rest.drop (line.length + 1)
    let shown := if awaited.dropsTabs && !continues then line.dropWhile (· = '\t') else line
    let ended := line.length < rest.length
    if !continues && shown = awaited.delimiter then ([], after, if ended then 1 else 0)
    else
      let joins := !awaited.verbatim && trailingBackslashes line % 2 = 1
      let (body, rest, lines) := cutDocument awaited fuel joins after
      if ended then (shown ++ '\n' :: body, rest, lines + 1) else (shown, rest, lines)

def readDocuments (inner : Inner) : List AwaitedDocument → Parse Unit
  | [] => return
  | awaited :: others => do
    let r ← get
    let (text, rest, lines) := cutDocument awaited (r.rest.length + 1) false r.rest
    let body ← if awaited.verbatim then pure [Piece.literal text true]
      else do
        set { r with rest := text, awaited := [] }
        document inner
    modify fun after =>
      { after with rest, line := r.line + lines, awaited := [],
                   documents := (awaited.number, body) :: after.documents }
    readDocuments inner others

def takeDocuments (inner : Inner) : Parse Unit := do
  let awaited := (← get).awaited
  modify fun r => { r with awaited := [] }
  readDocuments inner awaited

/-! ## Redirections -/

/-- Reads the rest of the sign of a redirection that asks for a text. -/
def documentSign (descriptor : Nat) : Parse Lexeme := do
  let third ← Reader.peek
  if third = some '<' && (← get).dialect = .extended then
    Reader.advance
    return .redirection descriptor (some .document) false
  else return .redirection descriptor none (← Reader.skip? '-')

/-- Reads the sign of a redirection, whose first character is given. -/
def redirectionSign (descriptor? : Option Nat) (first : Char) : Parse Lexeme := do
  if first = '>' then
    let signs := [('>', Mode.append), ('|', .overwrite), ('&', .duplicate)]
    return .redirection (descriptor?.getD 1) (some (← Reader.choose signs .write)) false
  else
    let descriptor := descriptor?.getD 0
    let signs := [('<', none), ('&', some Mode.duplicate), ('>', some .readWrite)]
    match ← Reader.choose signs (some .read) with
    | none => documentSign descriptor
    | some mode => return .redirection descriptor (some mode) false

/-- The descriptor that is written right before the sign of a redirection; none within if the word
does not belong to it. -/
def descriptorBefore : Word → Option (Option Nat)
  | [] => some none
  | [.literal [c] false] => if c.isDigit then some (some (c.toNat - '0'.toNat)) else none
  | _ => none

/-! ## Lexemes -/

def skipBlanks : Nat → Parse Unit
  | 0 => return
  | fuel + 1 => do
    match ← Reader.peek with
    | some ' ' | some '\t' =>
      Reader.advance
      skipBlanks fuel
    | some '#' =>
      modify fun r => { r with rest := r.rest.dropWhile (· != '\n') }
    | _ => return

def doubling (c : Char) : Parse Lexeme := do
  if ← Reader.skip? c then return .operator (String.ofList [c, c])
  else return .operator (String.singleton c)

/-- Reads a lexeme, in which words have no meaning of their own. -/
def rawLexeme (inner : Inner) (delimiter : Bool) : Parse Lexeme := do
  skipBlanks ((← Reader.size) + 1)
  let c ← Reader.peek
  let extended := (← get).dialect = .extended
  match c with
  | none => return .ending
  | some '\n' =>
    Reader.advance
    return .lineFeed
  | some '&' =>
    Reader.advance
    let second ← Reader.peek
    if extended && second = some '>' then
      Reader.advance
      return .redirection 1 (some .writeBoth) false
    else doubling '&'
  | some '|' =>
    Reader.advance
    doubling '|'
  | some ';' =>
    Reader.advance
    doubling ';'
  | some '(' =>
    Reader.advance
    return .operator "("
  | some ')' =>
    Reader.advance
    return .operator ")"
  | some _ =>
    let (text, quoted) ← word inner (if delimiter then .delimiter else .word)
    match ← Reader.peek with
    | some c =>
      if c = '<' || c = '>' then
        match quoted, descriptorBefore text with
        | false, some descriptor? =>
          Reader.advance
          redirectionSign descriptor? c
        | _, _ => return .word text quoted
      else return .word text quoted
    | none => return .word text quoted

/-- Whether the text of a name that ends in a blank was left between two places.  Then the word
after it may be such a name as well. -/
def leftBlank (r : Reader) (before after : Nat) : Bool :=
  r.standingIn.any fun (name, left) =>
    left < before && after ≤ left &&
      ((r.aliases.lookup name).bind (·.getLast?)).any fun c => c = ' ' || c = '\t'

/-- Whether the text of a name is still being read. -/
def isStandingIn (r : Reader) (name : String) : Bool :=
  r.standingIn.any fun entry => entry.1 = name && entry.2 ≤ r.rest.length + 1

def wantedLexeme (inner : Inner) : Nat → Wants → Parse Lexeme
  | 0, _ => return .ending
  | fuel + 1, wants => do
    let before := (← get).rest.length
    let lexeme ← do
      let r ← get
      if r.returned then
        set { r with returned := false }
        pure r.last
      else rawLexeme inner wants.delimiter
    let r ← get
    let wants := { wants with aliases := wants.aliases || leftBlank r before r.rest.length }
    match lexeme with
    | .lineFeed =>
      if wants.passesFeeds then
        takeDocuments inner
        wantedLexeme inner fuel wants
      else return lexeme
    | .word text false =>
      match plain? text with
      | none => return lexeme
      | some chars =>
        let name := String.ofList chars
        if wants.keywords && r.dialect.keywords.contains name then return .keyword name
        else
          match r.aliases.lookup name with
          | some value =>
            if wants.aliases && !isStandingIn r name then
              set { r with
                rest := value ++ r.rest
                standingIn := (name, r.rest.length) :: r.standingIn }
              wantedLexeme inner fuel wants
            else return lexeme
          | none => return lexeme
    | _ => return lexeme

/-- Reads a lexeme as it is wanted and keeps it as the last one. -/
def token (inner : Inner) (wants : Wants) : Parse Lexeme := do
  let lexeme ← wantedLexeme inner (4 * (← Reader.size) + 1000) wants
  modify fun r => { r with last := lexeme }
  return lexeme

def giveBack : Parse Unit := modify fun r => { r with returned := true }

/-! ## Names of lexemes in complaints -/

def Lexeme.title : Lexeme → String
  | .ending => "end of file"
  | .lineFeed => "newline"
  | .operator text | .keyword text => "\"" ++ text ++ "\""
  | .word .. => "word"
  | .redirection .. => "redirection"

/-- Refuses the last lexeme, where some other one may have been expected. -/
def unexpected {α : Type} (wanted : Option String) : Parse α := do
  let found := (← get).last.title ++ " unexpected"
  match wanted with
  | some title => Reader.refuse (found ++ " (expecting " ++ title ++ ")")
  | none => Reader.refuse found

def expectKeyword (inner : Inner) (wants : Wants) (text : String) : Parse Unit := do
  match ← token inner wants with
  | .keyword found => if found = text then return else unexpected (some ("\"" ++ text ++ "\""))
  | _ => unexpected (some ("\"" ++ text ++ "\""))

def expectOperator (inner : Inner) (text : String) : Parse Unit := do
  match ← token inner {} with
  | .operator found => if found = text then return else unexpected (some ("\"" ++ text ++ "\""))
  | _ => unexpected (some ("\"" ++ text ++ "\""))

end Shell
end LineShell
