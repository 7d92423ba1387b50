import LineShell.Text.Octets

/-!
# Scripts of the host's shell

The host's shell has a language of its own: words with quotes and expansions, commands joined by
operators, and redirections.  A script is the tree of a command line.  All texts in it are bytes.
-/

namespace LineShell
namespace Shell

/-- The languages that scripts are written in: the plain one, and one with arrays, braces that stand
for several words, and conditions as commands. -/
inductive Dialect where
  | plain
  | extended
  deriving DecidableEq, Repr

/-- What an expansion does with the value of a parameter.  Several of them tell an empty value from
none, or do not. -/
inductive Treatment where
  | value
  | length
  /-- The word instead of no value. -/
  | orElse (empty : Bool)
  /-- The word if there is a value. -/
  | instead (empty : Bool)
  /-- The word is also stored. -/
  | assign (empty : Bool)
  /-- The word is a complaint that ends the script. -/
  | demand (empty : Bool)
  | trimFront (longest : Bool)
  | trimBack (longest : Bool)
  /-- A part of the value, given by a place and a length. -/
  | slice
  /-- The value with the first match of a pattern, or all matches, put in anew. -/
  | replace (all : Bool)
  /-- Not a known treatment. -/
  | unknown
  deriving DecidableEq, Repr

/-- How a redirection opens its target. -/
inductive Mode where
  | read
  | write
  /-- Like writing, also where files are protected. -/
  | overwrite
  | append
  | readWrite
  /-- The target is the number of a descriptor. -/
  | duplicate
  /-- The target is the text to read. -/
  | document
  /-- Both regular output and errors are written to the target. -/
  | writeBoth
  deriving DecidableEq, Repr

mutual

/-- A part of a word.  What is quoted is never cut into fields nor taken for a pattern. -/
inductive Piece where
  | literal (text : List Char) (quoted : Bool)
  /-- The place of a quoted part, which makes a field even if it is empty. -/
  | anchor
  /-- The value of a variable or of a special parameter. -/
  | parameter (name : String) (index : Option (List Piece)) (treatment : Treatment)
      (word : List Piece) (quoted : Bool)
  /-- The value of an arithmetic expression. -/
  | arithmetic (text : List Piece) (quoted : Bool)
  | substitution (script : Script) (quoted : Bool)

inductive Redirection where
  | to (descriptor : Nat) (mode : Mode) (target : List Piece)
  /-- The target is the document of a number, which is read later. -/
  | fromDocument (descriptor : Nat) (document : Nat)

inductive Assignment where
  | scalar (name : String) (index : Option (List Piece)) (appends : Bool) (value : List Piece)
  | array (name : String) (appends : Bool) (values : List (List Piece))

inductive Condition where
  | word (operand : List Piece)
  | unary (operator : String) (operand : List Piece)
  | binary (operator : String) (left right : List Piece)
  | negation (inner : Condition)
  | both (first second : Condition)
  | either (first second : Condition)

inductive Script where
  | skip
  /-- Assignments and the words of a command, with redirections that hold for it alone. -/
  | simple (line : Nat) (assignments : List Assignment) (words : List (List Piece))
      (redirections : List Redirection)
  /-- The output of each script is the input of the next. -/
  | pipeline (stages : List Script)
  | beside (line : Nat) (body : Script)
  /-- A script that leaves no trace but its effects on files and streams. -/
  | subshell (line : Nat) (body : Script) (redirections : List Redirection)
  | redirected (line : Nat) (body : Script) (redirections : List Redirection)
  | negate (body : Script)
  | sequence (first second : Script)
  /-- Goes on if the first one succeeds. -/
  | both (first second : Script)
  /-- Goes on if the first one fails. -/
  | either (first second : Script)
  | branch (condition yes no : Script)
  /-- Runs its body as long as its condition has the wanted outcome. -/
  | repeated (wanted : Bool) (condition body : Script)
  /-- Runs its body once for each field of the words, or each operand, which a variable holds. -/
  | each (line : Nat) (name : String) (words : Option (List (List Piece))) (body : Script)
  /-- Runs its body as long as an expression is not zero, with an expression before the first round
  and one after each round. -/
  | counted (line : Nat) (start test step : List Piece) (body : Script)
  /-- Runs the first arm that has a pattern for the subject. -/
  | choose (line : Nat) (subject : List Piece) (arms : List (List (List Piece) × Script))
  | define (line : Nat) (name : String) (body : Script)
  | condition (condition : Condition)
  /-- Succeeds if the value of an expression is not zero. -/
  | arithmetic (line : Nat) (text : List Piece)

end

abbrev Word := List Piece

instance : Inhabited Script := ⟨.skip⟩

/-- The text of a word without quotes or expansions. -/
def plain? : Word → Option (List Char)
  | [.literal text false] => some text
  | _ => none

/-! ## Classes of characters -/

def startsName (c : Char) : Bool := c.isAlpha || c == '_'

def continuesName (c : Char) : Bool := c.isAlphanum || c == '_'

def isName (text : List Char) : Bool :=
  text.head?.any startsName && text.all continuesName

def isSpecial (c : Char) : Bool := ['!', '#', '$', '*', '-', '?', '@'].contains c || c.isDigit

/-- Whether a character ends a word that is not quoted. -/
def endsWord (c : Char) : Bool :=
  ['<', '>', '(', ')', ';', '&', '|', ' ', '\t', '\n'].contains c

end Shell
end LineShell
