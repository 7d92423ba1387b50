import LineShell.Shell.Builtin.Basic
import LineShell.Shell.FileTests

/-!
# The command that tests

An expression is given word by word.  What a word means depends on its neighbours: a word that could
be an operator is an operand where an operator could not stand.
-/

namespace LineShell
namespace Shell
namespace Builtin
namespace Condition

inductive Sign where
  | ending
  | operand
  | unary (text : String)
  | binary (text : String)
  | negation
  | both
  | either
  | opening
  | closing
  deriving DecidableEq, Repr

def unaryOperators : List String :=
  ["-r", "-w", "-x", "-e", "-f", "-d", "-c", "-b", "-p", "-u", "-g", "-k", "-s", "-t", "-z", "-n",
   "-h", "-L", "-S", "-O", "-G"]

def binaryOperators : List String :=
  ["=", "!=", "<", ">", "-eq", "-ne", "-ge", "-gt", "-le", "-lt", "-nt", "-ot", "-ef"]

def signOf (word : Octets) : Sign :=
  if unaryOperators.contains word then .unary word
  else if binaryOperators.contains word then .binary word
  else match word with
    | "!" => .negation
    | "-a" => .both
    | "-o" => .either
    | "(" => .opening
    | ")" => .closing
    | _ => .operand

def Sign.isBinary : Sign → Bool
  | .binary _ => true
  | _ => false

structure Words where
  words : Array Octets
  /-- The place of the word that is being read. -/
  place : Nat := 0

abbrev Reading := StateT Words Run

def wordAt (place : Nat) : Reading (Option Octets) := return (← get).words[place]?

def forward (n : Nat) : Reading Unit := modify fun r => { r with place := r.place + n }

def isOperand (next afterNext : Option Octets) : Bool :=
  match next, afterNext with
  | none, _ => true
  | some _, none => false
  | some next, some _ => (signOf next).isBinary

def signAt (place : Nat) : Reading Sign := do
  let words := (← get).words
  match words[place]? with
  | none => return .ending
  | some word =>
    let next := words[place + 1]?
    match signOf word with
    | .unary text => return if isOperand next words[place + 2]? then .operand else .unary text
    | .opening => return if next.isNone then .operand else .opening
    | sign => return sign

def signAhead (n : Nat) : Reading Sign := do signAt ((← get).place + n)

def wordAhead (n : Nat) : Reading (Option Octets) := do wordAt ((← get).place + n)

/-! ## Expressions -/

def refuse {α : Type} (word : Octets) (text : Octets) : Reading α :=
  Run.fail (if word.isEmpty then text else word ++ ": " ++ text)

def testUnary (operator : String) (operand : Octets) : Run Bool := do
  match operator with
  | "-z" => return operand.isEmpty
  | "-n" => return !operand.isEmpty
  | "-t" =>
    let _ ← Run.wholeNumber 10 operand
    return false
  | _ => FileTests.holds operator operand

def compare (a b : Octets) (holds : Int → Int → Bool) : Run Bool := do
  let a ← Run.wholeNumber 10 a
  let b ← Run.wholeNumber 10 b
  return holds a b

def testBinary (operator : String) (a b : Octets) : Run Bool := do
  match operator with
  | "=" => return a = b
  | "!=" => return a != b
  | "<" => return a < b
  | ">" => return b < a
  | "-eq" => compare a b (· = ·)
  | "-ne" => compare a b (· != ·)
  | "-ge" => compare a b (· ≥ ·)
  | "-gt" => compare a b (· > ·)
  | "-le" => compare a b (· ≤ ·)
  | "-lt" => compare a b (· < ·)
  | "-ef" => FileTests.areSame a b
  | _ => return false

/-- Reads a comparison, an operand or something in parentheses, whose first sign is given. -/
def primary (disjunction : Sign → Reading Bool) (sign : Sign) : Reading Bool := do
  match sign with
  | .ending => return false
  | .opening =>
    forward 1
    let first ← signAhead 0
    if first = .closing then return false
    let value ← disjunction first
    forward 1
    if (← signAhead 0) != .closing then refuse "" "closing paren expected"
    return value
  | .unary operator =>
    forward 1
    match ← wordAhead 0 with
    | none => refuse operator "argument expected"
    | some operand => testUnary operator operand
  | _ =>
    match ← signAhead 1 with
    | .binary operator =>
      let a := (← wordAhead 0).getD ""
      match ← wordAhead 2 with
      | none => refuse operator "argument expected"
      | some b =>
        forward 2
        testBinary operator a b
    | _ => return !((← wordAhead 0).getD "").isEmpty

def negation (disjunction : Sign → Reading Bool) : Nat → Sign → Reading Bool
  | 0, _ => return false
  | fuel + 1, sign => do
    if sign != .negation then primary disjunction sign
    else
      let next ← signAhead 1
      if next != .ending then forward 1
      return !(← negation disjunction fuel next)

/-- Reads operands that must all hold. -/
def conjunction (disjunction : Sign → Reading Bool) : Nat → Sign → Reading Bool
  | 0, _ => return false
  | fuel + 1, sign => do
    let first ← negation disjunction (fuel + 1) sign
    if (← signAhead 1) = .both then
      forward 2
      let rest ← conjunction disjunction fuel (← signAhead 0)
      return first && rest
    else return first

/-- Reads operands one of which must hold. -/
def disjunction : Nat → Sign → Reading Bool
  | 0, _ => return false
  | fuel + 1, sign => do
    let first ← conjunction (disjunction fuel) (fuel + 1) sign
    if (← signAhead 1) = .either then
      forward 2
      let rest ← disjunction fuel (← signAhead 0)
      return first || rest
    else return first

/-- Reads a whole expression, whose first word is an operand or not. -/
def whole (words : List Octets) (plain : Bool) : Run Bool := do
  let read : Reading Bool := do
    let first ← if plain then pure .operand else signAhead 0
    let value ← disjunction (2 * words.length + 2) first
    if (← wordAhead 1).isSome then refuse ((← wordAhead 0).getD "") "unexpected operator"
    return value
  let (value, _) ← read.run { words := words.toArray }
  return value

/-- Evaluates an expression.  Three and four words have readings that go before all others. -/
def evaluate : Nat → List Octets → Run Bool
  | 0, _ | _, [] => return false
  | fuel + 1, words => do
    let n := words.length
    let bracketed := words.head? = some "(" && words.getLast? = some ")"
    if n = 3 && (signOf (words[1]?.getD "")).isBinary then whole words true
    else if (n = 3 || n = 4) && bracketed then whole (words.tail.take (n - 2)) false
    else if (n = 3 || n = 4) && words.head? = some "!" then
      return !(← evaluate fuel words.tail)
    else whole words false

end Condition

/-- Tests an expression.  Under the name of a bracket it wants the closing one. -/
def test : Builtin := plain fun name words => do
  let bracket := name.toList.head? = some '['
  if bracket && words.getLast? != some "]" then Run.fail "missing ]"
  let words := if bracket then words.dropLast else words
  let holds ← Condition.evaluate (words.length + 1) words
  return if holds then 0 else 1

end Builtin
end Shell
end LineShell
