import LineShell.Calendar
import LineShell.Files.Tree
import LineShell.Shell.Pattern
import LineShell.Shell.Utility.Regex

/-!
# Questions about files

An expression is made of tests, of actions, and of ways to join them.  It is read as a row of
pieces, out of which a tree is built by how strongly the operators bind.
-/

namespace LineShell
namespace Shell
namespace Finding

/-- Which of the moments of a file is asked about. -/
inductive Stamp where
  | changed
  | read
  /-- When anything about the file was changed, which nobody can choose. -/
  | noted
  deriving DecidableEq, Repr

/-- A number of a file that is asked about. -/
inductive Measure where
  | links
  | owner
  | group
  | serial
  deriving DecidableEq, Repr

inductive Bits where
  | exactly
  | all
  | any
  deriving DecidableEq, Repr

inductive Segment where
  | text (chars : List Char)
  /-- A directive: its flags, its width, its precision, its letter, and a letter behind it. -/
  | part (flags : List Char) (width : Nat) (precision : Option Nat) (letter : Char)
      (second : Option Char)
  deriving Repr

/-- How a program is run for files. -/
structure Order where
  words : List Octets
  /-- Whether it runs where the file is. -/
  there : Bool := false
  /-- Whether somebody is asked first. -/
  asks : Bool := false
  deriving DecidableEq, Repr

/-- What is asked about a file, or done with it. -/
inductive Query where
  | always (answer : Bool)
  | name (pattern : Octets) (folds : Bool)
  | path (pattern : Octets) (folds : Bool)
  | target (pattern : Octets) (folds : Bool)
  | expression (re : Regex) (folds : Bool)
  /-- Whether it is of a kind of some letters; links may be looked at in the other way. -/
  | kind (letters : List Char) (otherwise_ : Bool)
  | empty
  | allowed (right : Right)
  | measure (what : Measure) (compares : Ordering) (n : Nat)
  /-- Its size in units of so many bytes, which are counted when they have begun. -/
  | size (unit : Nat) (compares : Ordering) (n : Nat)
  | mode (bits : Bits) (ofFile ofDirectory : Nat)
  /-- Whether a moment lies behind another one. -/
  | newer (stamp : Stamp) (than : Moment)
  /-- Whether a moment lies before, in, or behind a window that begins at a moment. -/
  | window (stamp : Stamp) (start width : Moment) (compares : Ordering)
  /-- How long it was after the last note that it was read. -/
  | used (start : Moment) (compares : Ordering)
  | same (locations : List Location)
  | print (channel : Option Nat) (lineEnd : Octets)
  | format (channel : Option Nat) (segments : List Segment)
  | list (channel : Option Nat)
  | delete
  | prune
  | quit
  | run (order : Order)
  /-- Runs a program once for all files. -/
  | gather (order : Order)
  | not (q : Query)
  | both (a b : Query)
  | either (a b : Query)
  | after (a b : Query)
  deriving Inhabited

def Query.acts : Query → Bool
  | .print .. | .format .. | .list _ | .delete | .run _ | .gather _ => true
  | _ => false

inductive Joint where
  | comma
  | or
  | and
  deriving DecidableEq, Repr

def Joint.strength : Joint → Nat
  | .comma => 1
  | .or => 2
  | .and => 3

def negation : Nat := 4

def Joint.join : Joint → Query → Query → Query
  | .comma => .after
  | .or => .either
  | .and => .both

/-- A piece of an expression, as it was written. -/
inductive Piece where
  | query (q : Query)
  | not
  | joint (joint : Joint)
  | open_
  | close
  deriving Inhabited

/-- A piece with its word, and whether it was added to what was written. -/
structure Token where
  piece : Piece
  word : Octets
  added : Bool := false
  deriving Inhabited

/-- The word that introduces what is wrong with an expression as a whole. -/
def invalid (text : Octets) : Octets := "invalid expression" ++ text

mutual

/-- Builds the query at the beginning of a row of pieces, as far as it binds more strongly than what
is before it. -/
def build (fuel strength : Nat) (before : Option Token) (tokens : List Token) :
    Except Octets (Query × List Token) :=
  match fuel, tokens with
  | 0, _ | _, [] => .error (invalid "")
  | fuel + 1, token :: rest => do
    let (first, rest) ← match token.piece with
      | .query q => pure (q, rest)
      | .joint _ =>
        throw (invalid ("; you have used a binary operator '" ++ token.word ++
          "' with nothing before it."))
      | .not =>
        let (q, rest) ← build fuel negation (some token) rest
        pure (Query.not q, rest)
      | .close =>
        let isOperator := before.any fun t =>
          match t.piece with
          | .not | .joint _ => true
          | _ => false
        let word := (before.map (·.word)).getD ""
        if isOperator && !token.added then
          throw ("expected an expression between '" ++ word ++ "' and ')'")
        else if token.added then throw ("expected an expression after '" ++ word ++ "'")
        else throw (invalid "; you have too many ')'")
      | .open_ =>
        match rest with
        | [] => throw (missingEnd token)
        | next :: _ =>
          if next.added then throw (missingEnd token)
          match next.piece with
          | .close =>
            if token.added then
              throw (invalid (": expected expression before closing parentheses '" ++ next.word ++
                "'."))
            else throw (invalid "; empty parentheses are not allowed.")
          | _ =>
            let (q, rest) ← build fuel 0 (some token) rest
            match rest with
            | { piece := .close, .. } :: rest => pure (q, rest)
            | _ =>
              throw (invalid "; I was expecting to find a ')' somewhere but did not see one.")
    extend fuel strength first rest

/-- Goes on with a query that was built while operators bind more strongly than what is before it.
-/
def extend (fuel strength : Nat) (built : Query) (tokens : List Token) :
    Except Octets (Query × List Token) :=
  match fuel, tokens with
  | 0, _ => .error (invalid "")
  | _, [] => .ok (built, [])
  | fuel + 1, token :: rest =>
    match token.piece with
    | .joint joint =>
      if joint.strength ≤ strength then .ok (built, token :: rest)
      else do
        let (next, rest) ← build fuel joint.strength (some token) rest
        extend fuel strength (joint.join built next) rest
    | _ => .ok (built, token :: rest)

/-- What is said where an open parenthesis is not followed by anything. -/
def missingEnd (token : Token) : Octets :=
  invalid ("; expected to find a ')' but didn't see one. " ++
    "Perhaps you need an extra predicate after '" ++ token.word ++ "'")

end

/-- Builds the query of a row of pieces, without what was added around it. -/
def buildAll (tokens : List Token) : Except Octets Query := do
  let acts := tokens.any fun token =>
    match token.piece with
    | .query q => q.acts
    | _ => false
  let show_ : Token := { piece := .query (.print none "\n"), word := "-print", added := true }
  let whole := if tokens.isEmpty then [show_]
    else if acts then tokens
    else
      [{ piece := .open_, word := "(", added := true }] ++ tokens ++
        [{ piece := .close, word := ")", added := true },
         { piece := .joint .and, word := "-a", added := true }, show_]
  let (q, rest) ← build (4 * whole.length + 4) 0 none whole
  match rest with
  | [] => return q
  | { piece := .close, .. } :: _ => throw "you have too many ')'"
  | other :: _ => throw ("unexpected extra predicate '" ++ other.word ++ "'")

end Finding
end Shell
end LineShell
