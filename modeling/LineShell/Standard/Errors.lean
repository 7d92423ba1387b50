import LineShell.Standard.Control
import LineShell.Text.Words

/-!
# Recording failures and walking back through them

The user may record a failure of their own and may look at any record by how far back it lies.
-/

namespace LineShell
namespace Standard

variable {W : Type}

/-- The message of a record whose maker gave none. -/
def noMessage : String := "None"

/-- The message made of the operands after the name and the code. -/
def thrownMessage (words : List String) : String :=
  if words.isEmpty then noMessage else joinWords words

/-- Records a failure in the user's words, without telling it. -/
def throwRecord (h : Host W) (name text : String) (words : List String) : Action W Token :=
  match Numeral.code? text with
  | some code => do
    let position ← .push (Record.userDefined name code (thrownMessage words))
    h.tell (.thrown name code position)
    return .success
  | none => rejectInteger h text

def throw (h : Host W) : Command W where
  names := ["throw"]
  usage := "<name> <code> [*message=None]"
  description := "Throw an error and assign it information"
  execute _ _ operands :=
    match operands with
    | name :: text :: words => throwRecord h name text words
    | _ => rejectMissing h

/-- The lines that show what lies so many records back. -/
def traceLines (errors : ErrorLog) (index : Int64) : List String :=
  match errors.traceback index with
  | some r =>
    [labeledLine "name" r.name, labeledLine "message" r.message,
     labeledLine "code" (Numeral.decimal r.code.toInt), labeledLine "type" r.origin.label]
  | none => ["no errors have been traced"]

/-- Shows the record that lies so many back. -/
def showRecord (h : Host W) (index : Int64) : Action W Token := do
  h.printAll (traceLines (← .errors) index)
  return .success

/-- The selectors that ask for the number of records. -/
def countSelectors : List String := ["--count", "--available", "-ls"]

/-- Shows how many records there are. -/
def showCount (h : Host W) : Action W Token := do
  h.printLabeled "available errors to trace" (Numeral.decimal (← .errors).count)
  return .success

/-- Answers a selector: one of those that count, or else an index.  What starts with two hyphens is
taken for a selector that was misspelt, not for an index. -/
def showSelected (h : Host W) (selector : String) : Action W Token :=
  if selector ∈ countSelectors then showCount h
  else if ['-', '-'].isPrefixOf selector.toList then
    h.reject .invalidToken "invalid option" (some selector)
  else
    match Numeral.index? selector with
    | some index => showRecord h index
    | none => rejectInteger h selector

def trace (h : Host W) : Command W where
  names := ["trace", "traceback"]
  usage := "(--count, --available, -ls) | ([index=1])"
  description := "Trace an error's information"
  execute _ _ operands :=
    match operands with
    | selector :: _ => showSelected h selector
    | [] => showRecord h 1

end Standard
end LineShell
