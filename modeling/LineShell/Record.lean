import LineShell.Text.Numeral

/-!
# Records of failures

A failure of a built-in command has one of six kinds, each with a fixed name, code and message.
What the error log keeps is a record: it either states a kind or was put together by the user, and
its origin says which.  A user may choose any name and code, so the kind of a record can be told
from its texts only if its origin is the interpreter.
-/

namespace LineShell

/-- The code a session ends with: a signed word of 32 bits. -/
abbrev ReturnCode := Int32

/-- What went wrong in a built-in command. -/
inductive Kind where
  /-- Fewer operands than the command needs. -/
  | insufficientArguments
  /-- An operand that could not be used. -/
  | invalidArguments
  /-- An operand that should be an integer. -/
  | invalidData
  /-- Incomplete input data. -/
  | insufficientData
  /-- An unknown selector. -/
  | invalidToken
  /-- Anything else. -/
  | unknown
  deriving DecidableEq, Repr

namespace Kind

/-- Every kind, by code. -/
def all : List Kind :=
  [.insufficientArguments, .invalidArguments, .invalidData, .insufficientData, .invalidToken,
   .unknown]

def name : Kind → String
  | .insufficientArguments => "InsufficientArguments"
  | .invalidArguments => "InvalidArguments"
  | .invalidData => "InvalidData"
  | .insufficientData => "InsufficientData"
  | .invalidToken => "InvalidToken"
  | .unknown => "Unknown"

def code : Kind → ReturnCode
  | .insufficientArguments => 1
  | .invalidArguments => 2
  | .invalidData => 3
  | .insufficientData => 4
  | .invalidToken => 5
  | .unknown => 6

def message : Kind → String
  | .insufficientArguments => "insufficient arguments were provided"
  | .invalidArguments => "invalid arguments were provided"
  | .invalidData => "invalid data was provided"
  | .insufficientData => "insufficient data was provided"
  | .invalidToken => "an invalid token was provided"
  | .unknown => "an unknown error occurred"

/-- A code names at most one kind. -/
theorem code_injective {a b : Kind} (h : a.code = b.code) : a = b := by
  cases a <;> cases b <;> first | rfl | exact absurd h (by decide)

end Kind

/-- Who made a record. -/
inductive Origin where
  /-- A built-in command. -/
  | standard
  /-- The user. -/
  | userDefined
  deriving DecidableEq, Repr

/-- The text that names an origin. -/
def Origin.label : Origin → String
  | .standard => "Standard Error"
  | .userDefined => "User Defined Error"

/-- An entry of the error log. -/
structure Record where
  name : String
  message : String
  code : ReturnCode
  origin : Origin
  deriving DecidableEq, Repr

namespace Record

/-- The record that states a kind. -/
def ofKind (kind : Kind) : Record :=
  { name := kind.name, message := kind.message, code := kind.code, origin := .standard }

/-- A record in the user's words. -/
def userDefined (name : String) (code : ReturnCode) (message : String) : Record :=
  { name, message, code, origin := .userDefined }

/-- The kind a record states, if it was made by the interpreter.  The message plays no part. -/
def kind? (r : Record) : Option Kind :=
  match r.origin with
  | .userDefined => none
  | .standard => Kind.all.find? fun kind => kind.code == r.code && kind.name == r.name

/-- A record on one line. -/
def display (r : Record) : String :=
  r.name ++ " (" ++ r.origin.label ++ ", code " ++ Numeral.decimal r.code.toInt ++ "): " ++
    r.message

@[simp] theorem kind?_ofKind (kind : Kind) : (ofKind kind).kind? = some kind := by
  cases kind <;> rfl

/-- The user cannot forge a kind. -/
@[simp] theorem kind?_userDefined (name : String) (code : ReturnCode) (message : String) :
    (userDefined name code message).kind? = none := rfl

theorem ofKind_injective {a b : Kind} (h : ofKind a = ofKind b) : a = b :=
  Kind.code_injective (congrArg Record.code h)

end Record
end LineShell
