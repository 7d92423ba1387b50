import LineShell.Shell.Utility.Options
import LineShell.Shell.Utility.Regex

/-!
# The program that evaluates expressions

`expr` takes an expression word by word.  A value is a text, which counts as a number if it is
written as one; zero and the empty text are false.
-/

namespace LineShell
namespace Shell
namespace Reckoning

/-- The words to be read, and those that were. -/
structure Words where
  rest : List Octets
  /-- The word that was read last. -/
  last : Octets := ""

/-- A step of reading; a complaint ends it. -/
abbrev Reading := StateT Words (Except Octets)

def refuse {α : Type} (text : Octets) : Reading α := throw text

def refuseSyntax {α : Type} (text : Octets) : Reading α := refuse ("syntax error: " ++ text)

/-- Takes the next word, which must be there. -/
def take : Reading Octets := do
  match (← get).rest with
  | word :: rest =>
    set { rest, last := word : Words }
    return word
  | [] => refuseSyntax ("missing argument after " ++ Quoting.plain (← get).last)

/-- Takes the next word if it is one of some. -/
def takeOf? (words : List Octets) : Reading (Option Octets) := do
  match (← get).rest with
  | word :: _ => if words.contains word then some <$> take else return none
  | [] => return none

/-! ## Values -/

def number? (value : Octets) : Option Int := Numeral.signed? value.toList

def isNull (value : Octets) : Bool :=
  value.isEmpty ||
    match value.toList with
    | '-' :: c :: rest => (c :: rest).all (· = '0')
    | chars => chars.all (· = '0')

def ofBool (b : Bool) : Octets := if b then "1" else "0"

/-- Matches a text from its start: the text of the first group, or the length of the match. -/
def matching (text pattern : Octets) : Reading Octets := do
  match Regex.ofText false false pattern.toList with
  | .error fault => refuse fault.message
  | .ok re =>
    let chars := text.toList.toArray
    let found := Regex.matchAt false re chars 0
    if hasGroup re then
      return ((found.bind fun p => Regex.groupText chars p 1).map String.ofList).getD ""
    else return Numeral.decimal ((found.map (·.place)).getD 0)
where
  hasGroup : Regex → Bool
    | .group .. => true
    | .seq a b | .either a b => hasGroup a || hasGroup b
    | .many body .. => hasGroup body
    | _ => false

/-- The place of the first byte of a text that is one of some. -/
def indexOf (text bytes : Octets) : Octets :=
  let chars := text.toList
  let before := (chars.takeWhile fun c => !bytes.toList.contains c).length
  Numeral.decimal (if before < chars.length then before + 1 else 0)

def partOf (text start length : Octets) : Octets :=
  match number? start, number? length with
  | some start, some length =>
    if 0 < start && 0 < length then
      String.ofList ((text.toList.drop (start.toNat - 1)).take length.toNat)
    else ""
  | _, _ => ""

def compute (operator a b : Octets) : Reading Octets := do
  match number? a, number? b with
  | some m, some n =>
    match operator with
    | "+" => return Numeral.decimal (m + n)
    | "-" => return Numeral.decimal (m - n)
    | "*" => return Numeral.decimal (m * n)
    | _ =>
      if n = 0 then refuse "division by zero"
      else if operator = "/" then return Numeral.decimal (m.tdiv n)
      else return Numeral.decimal (m.tmod n)
  | _, _ => refuse "non-integer argument"

/-- Compares two values, as numbers if both are. -/
def compare (operator a b : Octets) : Bool :=
  let order := match number? a, number? b with
    | some m, some n => Ord.compare m n
    | _, _ => Ord.compare a b
  match operator with
  | "<" => order = .lt
  | "<=" => order != .gt
  | "=" | "==" => order = .eq
  | "!=" => order != .eq
  | ">=" => order != .lt
  | _ => order = .gt

/-! ## Reading -/

/-- Reads an operand; inside of parentheses stands a whole expression. -/
def primary (whole : Reading Octets) : Reading Octets := do
  match ← take with
  | "(" =>
    let value ← whole
    match (← get).rest with
    | [] => refuseSyntax ("expecting ')' after " ++ Quoting.plain (← get).last)
    | ")" :: _ =>
      let _ ← take
      return value
    | word :: _ => refuseSyntax ("expecting ')' instead of " ++ Quoting.plain word)
  | ")" => refuseSyntax "unexpected ')'"
  | word => return word

def function (whole : Reading Octets) : Nat → Reading Octets
  | 0 => return ""
  | fuel + 1 => do
    match ← takeOf? ["+", "length", "match", "index", "substr"] with
    | some "+" => take
    | some "length" => return Numeral.decimal (← function whole fuel).length
    | some "match" =>
      let text ← function whole fuel
      matching text (← function whole fuel)
    | some "index" =>
      let text ← function whole fuel
      return indexOf text (← function whole fuel)
    | some _ =>
      let text ← function whole fuel
      let start ← function whole fuel
      return partOf text start (← function whole fuel)
    | none => primary whole

/-- Reads operands with operators of one rank between them, from the left to the right.  The operand
on the right may be read in view of the value on the left. -/
def chain (operators : List Octets) (operand : Octets → Reading Octets)
    (combine : Octets → Octets → Octets → Reading Octets) : Nat → Octets → Reading Octets
  | 0, value => return value
  | fuel + 1, value => do
    match ← takeOf? operators with
    | none => return value
    | some operator =>
      let other ← operand value
      chain operators operand combine fuel (← combine operator value other)

/-- A way to read, which is told whether what is read counts: only then can it fail by its values.
-/
abbrev Rank := Bool → Reading Octets

/-- The rank above another one, with its operators.  The operand on the right counts as the value on
the left demands. -/
def above (size : Nat) (operators : List Octets) (operand : Rank) (demands : Octets → Bool)
    (combine : Octets → Octets → Octets → Reading Octets) : Rank := fun counts => do
  let combine := if counts then combine else fun _ _ _ => pure ""
  chain operators (fun left => operand (counts && demands left)) combine size (← operand counts)

/-- Reads an expression.  The rank that binds strongest comes first. -/
def expression (size : Nat) : Nat → Rank
  | 0 => fun _ => return ""
  | fuel + 1 =>
    let always := fun _ : Octets => true
    let function : Rank := fun counts => function (expression size fuel counts) size
    let matched := above size [":"] function always fun _ a b => matching a b
    let product := above size ["*", "/", "%"] matched always compute
    let sum := above size ["+", "-"] product always compute
    let comparison := above size ["<", "<=", "=", "==", "!=", ">=", ">"] sum always
      fun operator a b => return ofBool (compare operator a b)
    let both := above size ["&"] comparison (fun a => !isNull a) fun _ a b =>
      return if isNull a || isNull b then "0" else a
    above size ["|"] both isNull fun _ a b =>
      return if !isNull a then a else if isNull b then "0" else b

def expr : Tool := fun _ name words => do
  let words := if words.head? = some "--" then words.tail else words
  if words.isEmpty then Tool.misuse name "missing operand" 2
  else
    let read : Reading Octets := do
      let value ← expression (words.length + 1) (words.length + 1) true
      match (← get).rest with
      | [] => return value
      | word :: _ => refuseSyntax ("unexpected argument " ++ Quoting.plain word)
    match read.run { rest := words } with
    | .ok (value, _) =>
      Run.emitLine value
      return if isNull value then 1 else 0
    | .error text =>
      Tool.complain name text
      return 2

end Reckoning
end Shell
end LineShell
