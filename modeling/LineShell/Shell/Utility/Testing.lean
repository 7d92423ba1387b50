import LineShell.Shell.FileTests
import LineShell.Shell.Utility.Options

/-!
# The program that tests

The number of words decides how an expression is read, up to four of them; longer ones are read by
the rank of their operators.
-/

namespace LineShell
namespace Shell
namespace Testing

/-- The words to be read, and the place of the next one. -/
structure Words where
  words : Array Octets
  place : Nat := 0

/-- A step of reading; a complaint ends it. -/
abbrev Reading := StateT Words (ExceptT Octets Run)

def refuse {α : Type} (text : Octets) : Reading α := throw text

def ahead (n : Nat) : Reading (Option Octets) := do
  let r ← get
  return r.words[r.place + n]?

/-- Takes the next word, which must be there. -/
def take : Reading Octets := do
  match ← ahead 0 with
  | some word =>
    modify fun r => { r with place := r.place + 1 }
    return word
  | none => refuse ("missing argument after " ++ Quoting.plain ((← get).words.back?.getD ""))

def isBinary (word : Option Octets) : Bool :=
  word.any ["=", "==", "!=", "-nt", "-ot", "-ef", "-eq", "-ne", "-lt", "-le", "-gt", "-ge"].contains

def unaryLetters : List Char := "bcdefghkLnOprsStuwxGNz".toList

def number (word : Octets) : Reading Int := do
  let trimmed := (word.toList.dropWhile isSpace).reverse.dropWhile isSpace
  let text := trimmed.reverse
  let text := if text.head? = some '+' then text.drop 1 else text
  match Numeral.signed? text with
  | some n => return n
  | none => refuse ("invalid integer " ++ Quoting.plain word)
where
  isSpace (c : Char) : Bool := c = ' ' || c = '\t' || c = '\n'

def binary : Reading Bool := do
  let a ← take
  let operator ← take
  let b ← take
  let compare := fun (holds : Int → Int → Bool) => do
    let m ← number a
    let n ← number b
    return holds m n
  match operator with
  | "=" | "==" => return a = b
  | "!=" => return a != b
  | "-ef" => (FileTests.areSame a b : Run Bool)
  | "-eq" => compare (· = ·)
  | "-ne" => compare (· != ·)
  | "-lt" => compare (· < ·)
  | "-le" => compare (· ≤ ·)
  | "-gt" => compare (· > ·)
  | "-ge" => compare (· ≥ ·)
  | _ => return false

def unary : Reading Bool := do
  let operator ← take
  let letter := (operator.toList.drop 1).headD ' '
  if !unaryLetters.contains letter then
    refuse (Quoting.plain operator ++ ": unary operator expected")
  let operand ← take
  match letter with
  | 'n' => return !operand.isEmpty
  | 'z' => return operand.isEmpty
  | 't' =>
    let _ ← number operand
    return false
  | _ => (FileTests.holds operator operand : Run Bool)

def isShort (word : Octets) : Bool :=
  match word.toList with
  | ['-', _] => true
  | _ => false

def single : Reading Bool := return !(← take).isEmpty

def double : Reading Bool := do
  let first := (← ahead 0).getD ""
  if first = "!" then
    let _ ← take
    return !(← single)
  else if isShort first then unary
  else refuse ("missing argument after " ++ Quoting.plain ((← get).words.back?.getD ""))

def term (inner : Nat → Reading Bool) : Nat → Reading Bool
  | 0 => return false
  | fuel + 1 => do
    let left := (← get).words.size - (← get).place
    match ← ahead 0 with
    | none => single
    | some "!" =>
      let _ ← take
      return !(← term inner fuel)
    | some "(" =>
      let _ ← take
      let r ← get
      let rest := (r.words.toList.drop r.place)
      let inside := (rest.takeWhile (· != ")")).length
      let value ← inner (if inside < 4 then inside else rest.length)
      match ← ahead 0 with
      | some ")" =>
        let _ ← take
        return value
      | some word => refuse ("')' expected, found " ++ Quoting.ifNeeded word)
      | none => refuse "')' expected"
    | some word =>
      if 3 ≤ left && isBinary (← ahead 1) then binary
      else if isShort word then unary
      else single

/-- Reads terms that must all hold. -/
def conjunction (one : Reading Bool) : Nat → Reading Bool
  | 0 => one
  | fuel + 1 => do
    let value ← one
    if (← ahead 0) = some "-a" then
      let _ ← take
      let rest ← conjunction one fuel
      return value && rest
    else return value

/-- Reads terms of which one must hold. -/
def disjunction (all : Reading Bool) : Nat → Reading Bool
  | 0 => all
  | fuel + 1 => do
    let value ← all
    if (← ahead 0) = some "-o" then
      let _ ← take
      let rest ← disjunction all fuel
      return value || rest
    else return value

def expression : Nat → Nat → Reading Bool
  | 0, _ => return false
  | fuel + 1, count => do
    let long : Reading Bool := do
      let size := (← get).words.size
      disjunction (conjunction (term (expression fuel) size) size) size
    let first := (← ahead 0).getD ""
    let last := (← ahead (count - 1)).getD ""
    let bracketed := first = "(" && last = ")"
    let triple : Reading Bool := do
      let first := (← ahead 0).getD ""
      let middle := (← ahead 1).getD ""
      let last := (← ahead 2).getD ""
      if isBinary (some middle) then binary
      else if first = "!" then
        let _ ← take
        return !(← double)
      else if first = "(" && last = ")" then
        let _ ← take
        let value ← single
        let _ ← take
        return value
      else if middle = "-a" || middle = "-o" then long
      else refuse (Quoting.plain middle ++ ": binary operator expected")
    match count with
    | 0 => return false
    | 1 => single
    | 2 => double
    | 3 => triple
    | 4 =>
      if first = "!" then
        let _ ← take
        return !(← triple)
      else if bracketed then
        let _ ← take
        let value ← double
        let _ ← take
        return value
      else long
    | _ => long

def evaluate (name : Octets) (words : List Octets) : Run Nat := do
  let read : Reading Bool := do
    let value ← expression (words.length + 1) words.length
    if let some extra := ← ahead 0 then refuse ("extra argument " ++ Quoting.plain extra)
    return value
  match ← (read.run { words := words.toArray }).run with
  | .ok (holds, _) => return if holds then 0 else 1
  | .error text =>
    Tool.complain name text
    return 2

def test : Tool := fun _ name words => evaluate name words

def bracket : Tool := fun _ name words => do
  if words.getLast? = some "]" then evaluate name words.dropLast
  else
    Tool.complain name "missing ']'"
    return 2

end Testing
end Shell
end LineShell
