import LineShell.Shell.Lexing

/-!
# The grammar of scripts

A list joins pipelines, a pipeline joins commands, and a command may hold lists.  Lists and commands
are read by one function, `Goal.read`, whose fuel is the depth of nesting.
-/

namespace LineShell
namespace Shell

/-- The commands that belong to the language; no function may have their names. -/
def specialBuiltins : List String :=
  [".", ":", "break", "continue", "eval", "exec", "exit", "export", "local", "readonly", "return",
   "set", "shift", "times", "trap", "unset"]

/-- Where a list stands, which says how it may end. -/
inductive Standing where
  | line
  | inside
  /-- In an arm or in a substitution, where it may be empty. -/
  | optional
  deriving DecidableEq, Repr

inductive Goal where
  | list (standing : Standing)
  | command

/-- What was read; nothing stands for the end of the text. -/
abbrev Reading? := Option Script

def endsList : Lexeme → Bool
  | .ending => true
  | .operator text => text = ")" || text = ";;"
  | .keyword text => ["do", "done", "elif", "else", "esac", "fi", "then", "\x7d"].contains text
  | _ => false

/-! ## Redirections -/

def delimiterText : Word → List Char
  | [] => []
  | .literal text _ :: rest => text ++ delimiterText rest
  | _ :: rest => delimiterText rest

/-- Reads the target of a redirection whose sign was just read. -/
def redirectionTarget (inner : Inner) (descriptor : Nat) (mode : Option Mode) (dropsTabs : Bool) :
    Parse Redirection := do
  match ← token inner { delimiter := mode.isNone } with
  | .word text quoted =>
    match mode with
    | some mode => return .to descriptor mode text
    | none =>
      let r ← get
      let awaited : AwaitedDocument :=
        { number := r.nextDocument, delimiter := delimiterText text, verbatim := quoted, dropsTabs }
      set { r with awaited := r.awaited ++ [awaited], nextDocument := r.nextDocument + 1 }
      return .fromDocument descriptor awaited.number
  | _ => unexpected none

def redirections (inner : Inner) : Nat → Parse (List Redirection)
  | 0 => return []
  | fuel + 1 => do
    match ← token inner .command with
    | .redirection descriptor mode dropsTabs =>
      let first ← redirectionTarget inner descriptor mode dropsTabs
      return first :: (← redirections inner fuel)
    | _ =>
      giveBack
      return []

/-! ## Simple commands -/

/-- Splits a word at the sign of an assignment, if it is one. -/
def assignment? (dialect : Dialect) (text : Word) : Option Assignment :=
  match text with
  | .literal chars false :: rest =>
    let name := chars.takeWhile continuesName
    let after := chars.drop name.length
    let value := fun (chars : List Char) =>
      if chars.isEmpty then rest else .literal chars false :: rest
    if !isName name then none
    else
      match after with
      | '=' :: chars => some (.scalar (String.ofList name) none false (value chars))
      | '+' :: '=' :: chars =>
        if dialect = .extended then some (.scalar (String.ofList name) none true (value chars))
        else none
      | '[' :: chars =>
        if dialect = .extended then
          let index := chars.takeWhile (· != ']')
          match chars.drop index.length with
          | ']' :: '=' :: chars =>
            some (.scalar (String.ofList name) (some [.literal index false]) false (value chars))
          | _ => none
        else none
      | _ => none
  | _ => none

def arrayValues (inner : Inner) : Nat → Parse (List Word)
  | 0 => return []
  | fuel + 1 => do
    match ← token inner { passesFeeds := true } with
    | .word text _ => return text :: (← arrayValues inner fuel)
    | .operator ")" => return []
    | _ => unexpected none

structure SimpleParts where
  assignments : List Assignment := []
  words : List Word := []
  redirections : List Redirection := []

def definition (inner : Inner) (again : Goal → Parse Reading?) (name : Word) : Parse Script := do
  let dialect := (← get).dialect
  expectOperator inner ")"
  let good := (plain? name).any fun chars =>
    dialect = .extended || isName chars && !specialBuiltins.contains (String.ofList chars)
  if !good then Reader.refuse "Bad function name"
  let line := (← get).line
  let _ ← token inner .spaced
  giveBack
  match ← again .command with
  | some body => return .define line (String.ofList ((plain? name).getD [])) body
  | none => unexpected none

/-- Reads the parts of a simple command, the last of which comes first. -/
def simpleParts (inner : Inner) (again : Goal → Parse Reading?) (line : Nat) :
    Nat → Bool → SimpleParts → Parse Script
  | 0, _, _ => return .skip
  | fuel + 1, heading, parts => do
    let finish : Parse Script := do
      giveBack
      return .simple line parts.assignments.reverse parts.words.reverse
        parts.redirections.reverse
    let dialect := (← get).dialect
    match ← token inner { aliases := heading } with
    | .word text _ =>
      match if heading then assignment? dialect text else none with
      | some (.scalar name none appends []) =>
        if dialect = .extended && (← get).rest.head? = some '(' then
          Reader.advance
          let values ← arrayValues inner ((← Reader.size) + 1)
          let assignment := .array name appends values
          simpleParts inner again line fuel true
            { parts with assignments := assignment :: parts.assignments }
        else
          simpleParts inner again line fuel true
            { parts with assignments := .scalar name none appends [] :: parts.assignments }
      | some assignment =>
        simpleParts inner again line fuel true
          { parts with assignments := assignment :: parts.assignments }
      | none =>
        simpleParts inner again line fuel false { parts with words := text :: parts.words }
    | .redirection descriptor mode dropsTabs =>
      let redirection ← redirectionTarget inner descriptor mode dropsTabs
      simpleParts inner again line fuel heading
        { parts with redirections := redirection :: parts.redirections }
    | .operator "(" =>
      match parts.assignments, parts.words, parts.redirections with
      | [], [name], [] => definition inner again name
      | _, _, _ => finish
    | _ => finish

/-! ## Conditions of the extended language -/

/-- Reads a condition up to its closing brackets: alternatives, conjunctions, and single tests. -/
def conditionAt (inner : Inner) : Nat → Nat → Parse Condition
  | 0, _ => unexpected none
  | fuel + 1, 0 => do
    let first ← conditionAt inner fuel 1
    match ← token inner .spaced with
    | .operator "||" => return .either first (← conditionAt inner fuel 0)
    | _ =>
      giveBack
      return first
  | fuel + 1, 1 => do
    let first ← conditionAt inner fuel 2
    match ← token inner .spaced with
    | .operator "&&" => return .both first (← conditionAt inner fuel 1)
    | _ =>
      giveBack
      return first
  | fuel + 1, _ => do
    match ← token inner .spaced with
    | .keyword "!" => return .negation (← conditionAt inner fuel 2)
    | .operator "(" =>
      let condition ← conditionAt inner fuel 0
      expectOperator inner ")"
      return condition
    | .word text quoted =>
      let sign := (plain? text).map String.ofList
      if !quoted && sign.any fun sign => sign.length = 2 && sign.startsWith "-" then
        match ← token inner {} with
        | .word operand _ => return .unary (sign.getD "") operand
        | _ => unexpected none
      else
        match ← token inner {} with
        | .word operator _ =>
          let name := String.ofList ((plain? operator).getD [])
          if name = "]]" then
            giveBack
            return .word text
          else
            match ← token inner {} with
            | .word right _ => return .binary name text right
            | _ => unexpected none
        | .redirection _ mode _ =>
          match ← token inner {} with
          | .word right _ => return .binary (if mode = some .read then "<" else ">") text right
          | _ => unexpected none
        | _ =>
          giveBack
          return .word text
    | _ => unexpected none

def conditionCommand (inner : Inner) : Parse Script := do
  let condition ← conditionAt inner (2 * (← Reader.size) + 8) 0
  match ← token inner {} with
  | .word text false =>
    if plain? text = some [']', ']'] then return .condition condition else unexpected none
  | _ => unexpected none

/-! ## Commands -/

def requiredList (again : Goal → Parse Reading?) (standing : Standing) : Parse Script := do
  return (← again (.list standing)).getD .skip

def branch (inner : Inner) (again : Goal → Parse Reading?) : Nat → Parse Script
  | 0 => return .skip
  | fuel + 1 => do
    let condition ← requiredList again .inside
    expectKeyword inner {} "then"
    let yes ← requiredList again .inside
    match ← token inner {} with
    | .keyword "elif" => return .branch condition yes (← branch inner again fuel)
    | .keyword "else" => return .branch condition yes (← requiredList again .inside)
    | _ =>
      giveBack
      return .branch condition yes .skip

def wordsOfLine (inner : Inner) : Nat → Parse (List Word)
  | 0 => return []
  | fuel + 1 => do
    match ← token inner {} with
    | .word text _ => return text :: (← wordsOfLine inner fuel)
    | .lineFeed | .operator ";" => return []
    | _ => unexpected none

/-- Reads the text of an expression up to two closing parentheses. -/
def arithmeticText : Nat → Nat → Parse (List Char)
  | 0, _ => return []
  | fuel + 1, depth => do
    match ← Reader.next with
    | none => unexpected none
    | some '(' => return '(' :: (← arithmeticText fuel (depth + 1))
    | some ')' =>
      if depth = 0 then
        if ← Reader.skip? ')' then return [] else unexpected none
      else return ')' :: (← arithmeticText fuel (depth - 1))
    | some c => return c :: (← arithmeticText fuel depth)

def expressionWord (text : List Char) : Word :=
  if text.all fun c => c = ' ' || c = '\t' || c = '\n' then [] else [.literal text true]

def countedLoop (inner : Inner) (again : Goal → Parse Reading?) (line : Nat) : Parse Script := do
  let text ← arithmeticText ((← Reader.size) + 1) 0
  let parts := (String.ofList text).splitOn ";"
  let part := fun n => expressionWord (parts.getD n "").toList
  let body ← match ← token inner .spaced with
    | .operator ";" =>
      expectKeyword inner .spaced "do"
      let body ← requiredList again .inside
      expectKeyword inner {} "done"
      pure body
    | .keyword "do" =>
      let body ← requiredList again .inside
      expectKeyword inner {} "done"
      pure body
    | _ =>
      giveBack
      expectKeyword inner .spaced "\x7b"
      let body ← requiredList again .inside
      expectKeyword inner {} "\x7d"
      pure body
  if parts.length != 3 then Reader.refuse "arithmetic expression required"
  return .counted line (part 0) (part 1) (part 2) body

/-- Passes over two opening parentheses, if the language gives them a meaning. -/
def opensExpression : Parse Bool := do
  let r ← get
  let rest := r.rest.dropWhile fun c => c = ' ' || c = '\t'
  match rest with
  | '(' :: '(' :: rest =>
    if r.dialect = .extended && !r.returned then
      set { r with rest }
      return true
    else return false
  | _ => return false

def eachLoop (inner : Inner) (again : Goal → Parse Reading?) (line : Nat) : Parse Script := do
  if ← opensExpression then
    return ← countedLoop inner again line
  let name ← match ← token inner {} with
    | .word text false =>
      match plain? text with
      | some chars =>
        if isName chars then pure (String.ofList chars)
        else Reader.refuse "Bad for loop variable"
      | none => Reader.refuse "Bad for loop variable"
    | _ => Reader.refuse "Bad for loop variable"
  let words ← match ← token inner .spaced with
    | .keyword "in" => some <$> wordsOfLine inner ((← Reader.size) + 1)
    | .operator ";" => pure none
    | _ =>
      giveBack
      pure none
  expectKeyword inner .spaced "do"
  let body ← requiredList again .inside
  expectKeyword inner {} "done"
  return .each line name words body

/-- The word that a lexeme is where patterns stand, in which keywords have no meaning.  What is no
word is refused only when the next lexeme is read. -/
def patternOf : Lexeme → Word
  | .word text _ => text
  | .keyword text => [.literal text.toList false]
  | _ => []

/-- Reads the patterns of an arm, the first of which was read. -/
def patterns (inner : Inner) : Nat → Lexeme → Parse (List Word)
  | 0, _ => return []
  | fuel + 1, lexeme => do
    let pattern := patternOf lexeme
    match ← token inner {} with
    | .operator "|" => return pattern :: (← patterns inner fuel (← token inner {}))
    | .operator ")" => return [pattern]
    | _ => unexpected (some "\")\"")

def arms (inner : Inner) (again : Goal → Parse Reading?) :
    Nat → Parse (List (List Word × Script))
  | 0 => return []
  | fuel + 1 => do
    let start := { Wants.spaced with aliases := false }
    match ← token inner start with
    | .keyword "esac" => return []
    | first =>
      let first ← match first with
        | .operator "(" => token inner {}
        | _ => pure first
      let patterns ← patterns inner ((← Reader.size) + 1) first
      let body ← requiredList again .optional
      match ← token inner start with
      | .keyword "esac" => return [(patterns, body)]
      | .operator ";;" => return (patterns, body) :: (← arms inner again fuel)
      | _ => unexpected (some "\";;\"")

def choice (inner : Inner) (again : Goal → Parse Reading?) (line : Nat) : Parse Script := do
  match ← token inner {} with
  | .word subject _ =>
    expectKeyword inner .spaced "in"
    return .choose line subject (← arms inner again ((← Reader.size) + 1))
  | _ => unexpected (some "word")

def withRedirections (inner : Inner) (line : Nat) (body : Script) : Parse Script := do
  let redirections ← redirections inner ((← Reader.size) + 1)
  match body with
  | .subshell line script _ => return .subshell line script redirections
  | _ => return if redirections.isEmpty then body else .redirected line body redirections

def conditionLoop (inner : Inner) (again : Goal → Parse Reading?) (wanted : Bool) :
    Parse Script := do
  let condition ← requiredList again .inside
  expectKeyword inner {} "do"
  let body ← requiredList again .inside
  expectKeyword inner {} "done"
  return .repeated wanted condition body

def readCommand (inner : Inner) (again : Goal → Parse Reading?) : Parse Script := do
  let line := (← get).line
  match ← token inner {} with
  | .keyword "if" =>
    let body ← branch inner again ((← Reader.size) + 1)
    expectKeyword inner {} "fi"
    withRedirections inner line body
  | .keyword "while" => withRedirections inner line (← conditionLoop inner again true)
  | .keyword "until" => withRedirections inner line (← conditionLoop inner again false)
  | .keyword "for" => withRedirections inner line (← eachLoop inner again line)
  | .keyword "case" => withRedirections inner line (← choice inner again line)
  | .keyword "[[" => withRedirections inner line (← conditionCommand inner)
  | .keyword "function" =>
    match ← token inner {} with
    | .word name _ =>
      if (← token inner {}).title != "\"(\"" then
        giveBack
        let _ ← token inner .spaced
        giveBack
        match ← again .command with
        | some body => return .define line (String.ofList ((plain? name).getD [])) body
        | none => unexpected none
      else definition inner again name
    | _ => unexpected none
  | .operator "(" =>
    if (← get).dialect = .extended && (← get).rest.head? = some '(' then
      Reader.advance
      let text ← arithmeticText ((← Reader.size) + 1) 0
      withRedirections inner line (.arithmetic line [.literal text true])
    else
      let body ← requiredList again .inside
      expectOperator inner ")"
      withRedirections inner line (.subshell line body [])
  | .keyword "\x7b" =>
    let body ← requiredList again .inside
    expectKeyword inner {} "\x7d"
    withRedirections inner line body
  | .word .. | .redirection .. =>
    giveBack
    simpleParts inner again line ((← Reader.size) + 2) true {}
  | _ => unexpected none

/-! ## Pipelines and lists -/

/-- Reads the commands after the first one of a pipeline. -/
def stages (inner : Inner) (again : Goal → Parse Reading?) : Nat → Parse (List Script)
  | 0 => return []
  | fuel + 1 => do
    match ← token inner {} with
    | .operator "|" =>
      let _ ← token inner .spaced
      giveBack
      let stage := (← again .command).getD .skip
      return stage :: (← stages inner again fuel)
    | _ =>
      giveBack
      return []

/-- Reads a pipeline, whose outcome may be negated. -/
def pipeline (inner : Inner) (again : Goal → Parse Reading?) : Parse Script := do
  let negates ← match ← token inner {} with
    | .keyword "!" =>
      let _ ← token inner .command
      giveBack
      pure true
    | _ =>
      giveBack
      pure false
  let first := (← again .command).getD .skip
  let others ← stages inner again ((← Reader.size) + 1)
  let body := if others.isEmpty then first else .pipeline (first :: others)
  return if negates then .negate body else body

/-- Reads what follows a pipeline that others are joined to by their outcome. -/
def joined (inner : Inner) (again : Goal → Parse Reading?) : Nat → Script → Parse Script
  | 0, first => return first
  | fuel + 1, first => do
    match ← token inner {} with
    | .operator "&&" =>
      let _ ← token inner .spaced
      giveBack
      joined inner again fuel (.both first (← pipeline inner again))
    | .operator "||" =>
      let _ ← token inner .spaced
      giveBack
      joined inner again fuel (.either first (← pipeline inner again))
    | _ =>
      giveBack
      return first

def Script.after (earlier : Option Script) (script : Script) : Script :=
  match earlier with
  | some earlier => .sequence earlier script
  | none => script

/-- Reads a list, behind what was read of it before.  Nothing is the answer for the end of a text
that holds nothing. -/
def readList (inner : Inner) (again : Goal → Parse Reading?) (standing : Standing) :
    Nat → Option Script → Parse Reading?
  | 0, earlier => return earlier
  | fuel + 1, earlier => do
    let onLine := standing = .line
    let found ← token inner { Wants.command with passesFeeds := !onLine }
    match found with
    | .lineFeed =>
      takeDocuments inner
      return some (earlier.getD .skip)
    | .ending =>
      takeDocuments inner
      giveBack
      return if onLine then earlier else some (earlier.getD .skip)
    | _ =>
      giveBack
      let mayEnd := match standing with
        | .line => false
        | .inside => earlier.isSome
        | .optional => true
      if mayEnd && endsList found then return some (earlier.getD .skip)
      let line := (← get).line
      let script ← joined inner again ((← Reader.size) + 1) (← pipeline inner again)
      let found ← token inner {}
      let script := match found with
        | .operator "&" => .beside line script
        | _ => script
      let whole := Script.after earlier script
      match found with
      | .ending =>
        takeDocuments inner
        giveBack
        return some whole
      | .lineFeed =>
        giveBack
        readList inner again standing fuel (some whole)
      | .operator "&" | .operator ";" => readList inner again standing fuel (some whole)
      | _ =>
        if onLine then unexpected none
        giveBack
        return some whole

def closeSubstitution : Parse Unit := do
  match (← get).last with
  | .operator ")" => modify fun r => { r with returned := false }
  | _ => unexpected (some "\")\"")

/-- How what a word holds is read, given how a list is. -/
def innerOf (again : Goal → Parse Reading?) : Inner :=
  let optionalList : Parse Script := do
    return (← again (.list .optional)).getD .skip
  let enclosed : Parse Script := do
    let script ← optionalList
    closeSubstitution
    return script
  { enclosed, whole := optionalList }

def Goal.read : Nat → Goal → Parse Reading?
  | 0, _ => Reader.refuse "too deep"
  | depth + 1, goal =>
    let inner := innerOf (Goal.read depth)
    match goal with
    | .list standing => do
      readList inner (Goal.read depth) standing ((← Reader.size) + 2) none
    | .command => some <$> readCommand inner (Goal.read depth)

def nestingLimit : Nat := 10000

/-- Reads the next line of a script with all that belongs to it; nothing at the end. -/
def nextLine : Parse Reading? := do
  modify fun r => { r with returned := false, awaited := [] }
  Goal.read nestingLimit (.list .line)

def wholeText : Parse Word := document (innerOf (Goal.read nestingLimit))

/-- Whether the last line that was read ended with the text. -/
def Reader.isOver (r : Reader) : Bool :=
  match r.last with
  | .ending => r.returned
  | _ => false

end Shell
end LineShell
