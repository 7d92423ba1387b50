import LineShell.Shell.Arithmetic

/-!
# Arithmetic of the extended language

This arithmetic has powers, steps of a variable, elements of arrays, numbers in any base up to 64,
and lists of expressions.  A variable may hold an expression.  What goes wrong is told with the
text from the last token on.
-/

namespace LineShell
namespace Shell
namespace Calculation

inductive Token where
  | ending
  | number (value : Int64)
  | name (text : String)
  | sign (text : String)
  /-- A character that no expression holds. -/
  | other
  deriving DecidableEq, Repr, Inhabited

/-- The operators, the longer ones first. -/
def signs : List String :=
  ["<<=", ">>=", "**", "++", "--", "||", "&&", "==", "!=", "<=", ">=", "<<", ">>", "*=", "/=",
   "%=", "+=", "-=", "&=", "^=", "|=", "=", "<", ">", "|", "&", "!", "*", "/", "%", "+", "-", "^",
   "~", "(", ")", "?", ":", ",", "[", "]"]

structure Cursor where
  /-- What is said in front of a complaint: the name of a command, or nothing. -/
  title : Octets := ""
  whole : List Char
  rest : List Char
  token : Token := .ending
  /-- The text from the last token on. -/
  last : List Char := []

abbrev Calc := StateT Cursor Run

/-- Complains about the expression, with the text from some token on. -/
def refuseAt {α : Type} (about : List Char) (reason : String) : Calc α := do
  let c ← get
  let shown := String.ofList (c.whole.dropWhile isSpace)
  modifyThe Surroundings fun s => { s with speaker := none }
  Run.warn (c.title ++ shown ++ ": " ++ reason ++ " (error token is \"" ++
    String.ofList about ++ "\")")
  modifyThe Surroundings fun s => { s with status := 1 }
  throw .failed

def refuse {α : Type} (reason : String) : Calc α := do refuseAt (← get).last reason

/-- The value of a digit in bases up to 64. -/
def digit? (base : Nat) (c : Char) : Option Nat :=
  if c.isDigit then some (c.toNat - '0'.toNat)
  else if c.isLower then some (c.toNat - 'a'.toNat + 10)
  else if c.isUpper then some (c.toNat - 'A'.toNat + (if base ≤ 36 then 10 else 36))
  else if c = '@' then some 62
  else if c = '_' then some 63
  else none

/-- The number that a token writes; or what is wrong with it. -/
def numberOf (text : List Char) : Except String Int64 := do
  let ofBase := fun (base : Nat) (digits : List Char) => do
    let value ← digits.foldlM (fun n c =>
      match digit? base c with
      | some d => if d < base then .ok (base * n + d) else .error "value too great for base"
      | none => .error "value too great for base") 0
    return Int64.ofInt value
  let before := text.takeWhile (· != '#')
  match text.drop before.length, text with
  | _ :: digits, _ =>
    let base := ofDigits 10 before
    if base < 2 || 64 < base || !before.all Char.isDigit then .error "invalid arithmetic base"
    else if digits.isEmpty then .error "invalid integer constant"
    else ofBase base digits
  | [], '0' :: 'x' :: digits | [], '0' :: 'X' :: digits => ofBase 16 digits
  | [], '0' :: digits => ofBase 8 digits
  | [], digits => ofBase 10 digits

def continuesNumber (c : Char) : Bool := c.isAlphanum || c = '#' || c = '@' || c = '_'

def advance : Calc Unit := do
  let rest := (← get).rest.dropWhile isSpace
  match rest with
  | [] => modify fun c => { c with rest := [], token := .ending }
  | c :: _ =>
    modify fun k => { k with last := rest }
    let put := fun (token : Token) (n : Nat) =>
      modify fun k : Cursor => { k with token, rest := rest.drop n }
    if c.isDigit then
      let text := rest.takeWhile continuesNumber
      match numberOf text with
      | .ok value => put (.number value) text.length
      | .error reason => refuseAt text reason
    else if startsName c then
      let text := rest.takeWhile continuesName
      put (.name (String.ofList text)) text.length
    else
      match signs.find? fun sign => sign.toList.isPrefixOf rest with
      | some sign => put (.sign sign) sign.length
      | none => put .other 1

def at? (sign : String) : Calc Bool := return (← get).token = .sign sign

/-- Something with a value that can be set. -/
structure Holder where
  name : String
  index : Option Nat := none

def Holder.text (h : Holder) : Calc Octets := do
  let s ← getThe Surroundings
  match h.index, s.arrays.lookup h.name with
  | some i, some values => return values.getD i ""
  | none, some values => return values.headD ""
  | some 0, none | none, none => return (← Run.value? h.name).getD ""
  | some _, none => return ""

def Holder.put (h : Holder) (value : Int64) : Calc Unit := do
  let text := toString value.toInt
  let s ← getThe Surroundings
  match h.index, s.arrays.lookup h.name with
  | none, none => Run.setVariable h.name (some text) false
  | index, values =>
    let old := values.getD []
    let i := index.getD 0
    let padded := old ++ List.replicate (i + 1 - old.length) ""
    let arrays := (h.name, padded.set i text) :: s.arrays.filter (·.1 != h.name)
    modifyThe Surroundings fun s => { s with arrays }

/-- The parts of an expression, from those that bind least. -/
inductive Part where
  | list
  | assignment
  | choice
  /-- Values between the operators of a level. -/
  | level (n : Nat)
  | power
  | single
  deriving DecidableEq, Repr

/-- The operators between two values, from those that bind least. -/
def levels : List (List String) :=
  [["||"], ["&&"], ["|"], ["^"], ["&"], ["==", "!="], ["<", "<=", ">", ">="], ["<<", ">>"],
   ["+", "-"], ["*", "/", "%"]]

def combine (operator : String) (a b : Int64) : Calc Int64 := do
  match operator with
  | "||" => return Arithmetic.ofBool (a != 0 || b != 0)
  | "&&" => return Arithmetic.ofBool (a != 0 && b != 0)
  | "/" | "%" =>
    if b = 0 then refuse "division by 0"
    else return if operator = "/" then a / b else a % b
  | "**" =>
    if b < 0 then refuse "exponent less than 0"
    else return (List.replicate (min b.toNatClampNeg 64) a).foldl (· * ·) 1
  | "+" => return a + b
  | "-" => return a - b
  | "*" => return a * b
  | "<<" => return a <<< b
  | ">>" => return a >>> b
  | "<" => return Arithmetic.ofBool (a < b)
  | "<=" => return Arithmetic.ofBool (a ≤ b)
  | ">" => return Arithmetic.ofBool (b < a)
  | ">=" => return Arithmetic.ofBool (b ≤ a)
  | "==" => return Arithmetic.ofBool (a = b)
  | "!=" => return Arithmetic.ofBool (a ≠ b)
  | "&" => return a &&& b
  | "^" => return a ^^^ b
  | _ => return a ||| b

/-- The operator that an assignment first combines with; none if the token is no assignment. -/
def assigning? : Token → Option (Option String)
  | .sign "=" => some none
  | .sign text =>
    if ["<<=", ">>=", "*=", "/=", "%=", "+=", "-=", "&=", "^=", "|="].contains text then
      some (some (text.dropEnd 1).toString)
    else none
  | _ => none

/-- A value, and where it comes from if it can be set. -/
abbrev Valued := Int64 × Option Holder

/-- Reads on for as long as operators of one level follow; at most so many of them are read. -/
def joined (operators : List String) (skips : Bool) (operand : Bool → Calc Valued) :
    Nat → Valued → Calc Valued
  | 0, value => return value
  | rounds + 1, (a, holder) => do
    match (← get).token with
    | .sign operator =>
      if !operators.contains operator then return (a, holder)
      advance
      let idle := skips || operator = "||" && a != 0 || operator = "&&" && a = 0
      let (b, _) ← operand idle
      let value ← if idle then pure (if operator = "||" then 1 else if operator = "&&" then 0
          else b) else combine operator a b
      joined operators skips operand rounds (value, none)
    | _ => return (a, holder)

/-- Reads a part of an expression; a part that is skipped has no effect.  The fuel bounds how deeply
parts are nested. -/
def read : Nat → Part → Bool → Calc Valued
  | 0, _, _ => refuse "expression recursion level exceeded"
  | fuel + 1, .list, skips => do
    let first ← read fuel .assignment skips
    if ← at? "," then
      advance
      let (value, _) ← read fuel .list skips
      return (value, none)
    else return first
  | fuel + 1, .assignment, skips => do
    let (value, holder) ← read fuel .choice skips
    match assigning? (← get).token, holder with
    | none, _ => return (value, holder)
    | some _, none => refuse "attempted assignment to non-variable"
    | some operator, some holder =>
      advance
      let (right, _) ← read fuel .assignment skips
      let result ← match operator with
        | some operator => if skips then pure right else combine operator value right
        | none => pure right
      if !skips then holder.put result
      return (result, none)
  | fuel + 1, .choice, skips => do
    let (test, holder) ← read fuel (.level 0) skips
    if !(← at? "?") then return (test, holder)
    advance
    if (← at? ":") || (← get).token = .ending then refuse "expression expected"
    let (yes, _) ← read fuel .list (skips || test = 0)
    if !(← at? ":") then refuse "\x60:' expected for conditional expression"
    advance
    if (← get).token = .ending then refuse "expression expected"
    let (no, _) ← read fuel .choice (skips || test != 0)
    return (if test != 0 then yes else no, none)
  | fuel + 1, .level n, skips => do
    let next := if n + 1 < levels.length then Part.level (n + 1) else .power
    let first ← read fuel next skips
    joined (levels.getD n []) skips (read fuel next) ((← get).rest.length + 1) first
  | fuel + 1, .power, skips => do
    let (a, holder) ← read fuel .single skips
    if !(← at? "**") then return (a, holder)
    advance
    let (b, _) ← read fuel .power skips
    let value ← if skips then pure b else combine "**" a b
    return (value, none)
  | fuel + 1, .single, skips => do
    match (← get).token with
    | .sign "!" =>
      advance
      let (value, _) ← read fuel .single skips
      return (Arithmetic.ofBool (value = 0), none)
    | .sign "~" =>
      advance
      let (value, _) ← read fuel .single skips
      return (~~~value, none)
    | .sign "-" =>
      advance
      let (value, _) ← read fuel .single skips
      return (0 - value, none)
    | .sign "+" =>
      advance
      let (value, _) ← read fuel .single skips
      return (value, none)
    | .sign "(" =>
      advance
      let (value, _) ← read fuel .list skips
      if !(← at? ")") then refuse "missing \x60)'"
      advance
      return (value, none)
    | .number value =>
      advance
      return (value, none)
    | .name name => do
      advance
      let holder ← element fuel skips name
      let value ← if skips then pure 0 else valueOf fuel (← holder.text)
      let token := (← get).token
      if token = .sign "++" || token = .sign "--" then
        advance
        if !skips then holder.put (if token = .sign "++" then value + 1 else value - 1)
        return (value, none)
      else return (value, some holder)
    | .sign "++" => step fuel skips 1
    | .sign "--" => step fuel skips (-1)
    | _ => refuse "syntax error: operand expected"
where
  /-- Reads the index of an element, if there is one. -/
  element (fuel : Nat) (skips : Bool) (name : String) : Calc Holder := do
    if !(← at? "[") then return { name }
    match fuel with
    | 0 => refuse "expression recursion level exceeded"
    | fuel + 1 =>
      advance
      let (index, _) ← read fuel .list skips
      if !(← at? "]") then refuse "bad array subscript"
      advance
      return { name, index := some index.toNatClampNeg }
  /-- The value of a text, which is an expression of its own. -/
  valueOf (fuel : Nat) (text : Octets) : Calc Int64 := do
    if text.toList.all isSpace then return 0
    match fuel with
    | 0 => refuse "expression recursion level exceeded"
    | fuel + 1 =>
      let before ← get
      set { before with whole := text.toList, rest := text.toList }
      advance
      let (value, _) ← read fuel .list false
      if (← get).token != .ending then refuse "syntax error in expression"
      set before
      return value
  /-- Steps a variable and gives its new value. -/
  step (fuel : Nat) (skips : Bool) (by_ : Int64) : Calc Valued := do
    advance
    match (← get).token, fuel with
    | .name name, fuel + 1 =>
      advance
      let holder ← element fuel skips name
      let value ← if skips then pure 0 else valueOf fuel (← holder.text)
      if !skips then holder.put (value + by_)
      return (value + by_, none)
    | _, 0 => refuse "expression recursion level exceeded"
    | _, fuel + 1 =>
      -- Two signs in front of anything else are two signs.
      let (value, _) ← read fuel .single skips
      return (value, none)

def depthLimit : Nat := 8000

/-- Calculates an expression, which is none of the usual arithmetic. -/
def calculate (title text : Octets) : Run Int64 := do
  let whole : Calc Int64 := do
    advance
    if (← get).token = .ending then return 0
    let (value, _) ← read depthLimit .list false
    if (← get).token != .ending then refuse "syntax error in expression"
    return value
  let (value, _) ← whole.run { title, whole := text.toList, rest := text.toList }
  return value

/-- The value of an expression in the language that is spoken. -/
def evaluate (text : Octets) : Run Int64 := do
  if (← get).dialect = .extended then calculate "" text else Arithmetic.evaluate text

end Calculation
end Shell
end LineShell
