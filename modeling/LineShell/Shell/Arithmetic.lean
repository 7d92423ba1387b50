import LineShell.Shell.Number

/-!
# Arithmetic of scripts

Expressions are over integers of 64 bits, with the operators of C but the comma and those that
step a variable.  A part of an expression whose value does not count is read, but not evaluated.
-/

namespace LineShell
namespace Shell
namespace Arithmetic

inductive Token where
  | ending
  | number (value : Int64)
  | name (text : String)
  /-- An operator or a bracket. -/
  | sign (text : String)
  /-- Anything else. -/
  | other
  deriving DecidableEq, Repr, Inhabited

/-- The operators, the longer ones first. -/
def signs : List String :=
  ["<<=", ">>=", "||", "&&", "==", "!=", "<=", ">=", "<<", ">>", "*=", "/=", "%=", "+=", "-=",
   "&=", "^=", "|=", "=", "<", ">", "|", "&", "!", "*", "/", "%", "+", "-", "^", "~", "(", ")",
   "?", ":"]

def tokens : Nat → List Char → List Token
  | 0, _ => []
  | _, [] => []
  | fuel + 1, c :: rest =>
    if isSpace c then tokens fuel rest
    else if c.isDigit then
      match takeDigits 0 (c :: rest) with
      | some (n, rest) => .number (Int64.ofInt (clamp n)) :: tokens fuel rest
      | none => [.other]
    else if startsName c then
      let name := (c :: rest).takeWhile continuesName
      .name (String.ofList name) :: tokens fuel ((c :: rest).drop name.length)
    else
      match signs.find? fun sign => sign.toList.isPrefixOf (c :: rest) with
      | some sign => .sign sign :: tokens fuel ((c :: rest).drop sign.length)
      | none => .other :: tokens fuel rest

/-- The operators between two values, from those that bind most. -/
def levels : List (List String) :=
  [["*", "/", "%"], ["+", "-"], ["<<", ">>"], ["<", "<=", ">", ">="], ["==", "!="], ["&"], ["^"],
   ["|"]]

def looseness? (token : Token) : Option Nat :=
  match token with
  | .sign text => levels.findIdx? fun level => level.contains text
  | _ => none

/-- The operator of an assignment that first combines; none if the token is no such operator. -/
def combining? : Token → Option String
  | .sign text =>
    if ["<<=", ">>=", "*=", "/=", "%=", "+=", "-=", "&=", "^=", "|="].contains text then
      some (text.dropEnd 1).toString
    else none
  | _ => none

structure Cursor where
  /-- The whole expression. -/
  text : Octets
  rest : List Token
  last : Token := .ending

abbrev Eval := StateT Cursor Run

def refuse {α : Type} (reason : String) : Eval α := do
  let text := (← get).text
  Run.fail ("arithmetic expression: " ++ reason ++ ": \"" ++ text ++ "\"")

def next : Eval Token := modifyGet fun c =>
  match c.rest with
  | [] => (.ending, c)
  | token :: rest => (token, { c with rest })

def setLast (last : Token) : Eval Unit := modify fun c => { c with last }

def ofBool (b : Bool) : Int64 := if b then 1 else 0

def combine (operator : String) (a b : Int64) : Eval Int64 := do
  match operator with
  | "*" => return a * b
  | "/" => if b = 0 then refuse "division by zero" else return a / b
  | "%" => if b = 0 then refuse "division by zero" else return a % b
  | "+" => return a + b
  | "-" => return a - b
  | "<<" => return a <<< b
  | ">>" => return a >>> b
  | "<" => return ofBool (a < b)
  | "<=" => return ofBool (a ≤ b)
  | ">" => return ofBool (b < a)
  | ">=" => return ofBool (b ≤ a)
  | "==" => return ofBool (a = b)
  | "!=" => return ofBool (a ≠ b)
  | "&" => return a &&& b
  | "^" => return a ^^^ b
  | _ => return a ||| b

def lookUp (name : String) : Eval Int64 := do
  let text := (← Run.value? name).getD ""
  return Int64.ofInt (← Run.wholeNumber 0 text)

/-- Reads a single value, whose first two tokens are given. -/
def primary (assignment : Token → Bool → Eval Int64) :
    Nat → Token → Token → Bool → Eval Int64
  | 0, _, _, _ => refuse "expecting primary"
  | fuel + 1, token, after, skips => do
    match token with
    | .sign "(" =>
      let value ← assignment after skips
      if (← get).last != .sign ")" then refuse "expecting ')'"
      setLast (← next)
      return value
    | .number value =>
      setLast after
      return value
    | .name name =>
      setLast after
      if skips then return 0 else lookUp name
    | .sign "+" => primary assignment fuel after (← next) skips
    | .sign "-" => return -(← primary assignment fuel after (← next) skips)
    | .sign "!" => return ofBool ((← primary assignment fuel after (← next) skips) = 0)
    | .sign "~" => return ~~~(← primary assignment fuel after (← next) skips)
    | _ => refuse "expecting primary"

/-- Goes on after a value and an operator, up to an operator that does not bind more than a bound.
-/
def chain (assignment : Token → Bool → Eval Int64) :
    Nat → Int64 → String → Nat → Nat → Bool → Eval Int64
  | 0, a, _, _, _, _ => return a
  | fuel + 1, a, operator, looseness, bound, skips => do
    let token ← next
    let after ← next
    let b ← primary assignment fuel token after skips
    let b ← match (← get).last, looseness? (← get).last with
      | .sign inner, some tighter =>
        if tighter < looseness then chain assignment fuel b inner tighter looseness skips
        else pure b
      | _, _ => pure b
    let a ← if skips then pure b else combine operator a b
    match (← get).last, looseness? (← get).last with
    | .sign following, some found =>
      if found < bound then chain assignment fuel a following found bound skips else return a
    | _, _ => return a

def combined (assignment : Token → Bool → Eval Int64) (fuel : Nat) (token after : Token)
    (skips : Bool) : Eval Int64 := do
  let a ← primary assignment fuel token after skips
  match (← get).last, looseness? (← get).last with
  | .sign operator, some looseness =>
    chain assignment fuel a operator looseness levels.length skips
  | _, _ => return a

def conjunction (assignment : Token → Bool → Eval Int64) :
    Nat → Token → Token → Bool → Eval Int64
  | 0, _, _, _ => refuse "expecting primary"
  | fuel + 1, token, after, skips => do
    let a ← combined assignment fuel token after skips
    if (← get).last != .sign "&&" then return a
    let token ← next
    let after ← next
    let b ← conjunction assignment fuel token after (skips || a = 0)
    return ofBool (a ≠ 0 && b ≠ 0)

def disjunction (assignment : Token → Bool → Eval Int64) :
    Nat → Token → Token → Bool → Eval Int64
  | 0, _, _, _ => refuse "expecting primary"
  | fuel + 1, token, after, skips => do
    let a ← conjunction assignment fuel token after skips
    if (← get).last != .sign "||" then return a
    let token ← next
    let after ← next
    let b ← disjunction assignment fuel token after (skips || a ≠ 0)
    return ofBool (a ≠ 0 || b ≠ 0)

def conditional (assignment : Token → Bool → Eval Int64) :
    Nat → Token → Token → Bool → Eval Int64
  | 0, _, _, _ => refuse "expecting primary"
  | fuel + 1, token, after, skips => do
    let a ← disjunction assignment fuel token after skips
    if (← get).last != .sign "?" then return a
    let b ← assignment (← next) (skips || a = 0)
    if (← get).last != .sign ":" then refuse "expecting ':'"
    let token ← next
    let after ← next
    let c ← conditional assignment fuel token after (skips || a ≠ 0)
    return if a ≠ 0 then b else c

/-- Reads an assignment or a value, whose first token is given. -/
def assignment : Nat → Token → Bool → Eval Int64
  | 0, _, _ => refuse "expecting primary"
  | fuel + 1, token, skips => do
    let after ← next
    let operator? := if after = .sign "=" then some none else (combining? after).map some
    match token, operator? with
    | .name name, some operator? =>
      let value ← assignment fuel (← next) skips
      if skips then return value
      let value ← match operator? with
        | some operator => combine operator (← lookUp name) value
        | none => pure value
      Run.setVariable name (some (toString value.toInt)) false
      return value
    | _, _ => conditional (assignment fuel) fuel token after skips

def evaluate (text : Octets) : Run Int64 := do
  let rest := tokens (text.length + 1) text.toList
  let whole : Eval Int64 := do
    let value ← assignment (8 * rest.length + 16) (← next) false
    if (← get).last != .ending then refuse "expecting EOF"
    return value
  let (value, _) ← whole.run { text, rest }
  return value

end Arithmetic
end Shell
end LineShell
