/-!
# Integer operands

An integer is an optional sign and at least one ASCII digit; leading zeros are free.  Nothing else
is accepted, neither blanks nor separators between digits.  A bound on the value is part of
reading: a numeral outside the bounds is refused like any other text.
-/

namespace LineShell
namespace Numeral

/-- The value of ASCII digits read in base ten, on top of what was read before. -/
def value (digits : List Char) : Nat :=
  digits.foldl (fun n c => 10 * n + (c.toNat - '0'.toNat)) 0

def natural? (digits : List Char) : Option Nat :=
  if digits.isEmpty || !digits.all Char.isDigit then none else some (value digits)

/-- Reads a numeral whose sign may be plus or minus. -/
def signed? : List Char → Option Int
  | '-' :: digits => (natural? digits).map fun n => -(n : Int)
  | '+' :: digits => (natural? digits).map fun n => (n : Int)
  | digits => (natural? digits).map fun n => (n : Int)

/-- Reads a numeral whose sign may be plus only. -/
def unsigned? : List Char → Option Nat
  | '+' :: digits => natural? digits
  | digits => natural? digits

def fitsInt32 (n : Int) : Bool := Int32.minValue.toInt ≤ n && n ≤ Int32.maxValue.toInt

def fitsInt64 (n : Int) : Bool := Int64.minValue.toInt ≤ n && n ≤ Int64.maxValue.toInt

/-- Reads a return code: a signed word of 32 bits. -/
def code? (text : String) : Option Int32 :=
  ((signed? text.toList).filter fitsInt32).map Int32.ofInt

/-- Reads an index into the error log: a signed word of 64 bits. -/
def index? (text : String) : Option Int64 :=
  ((signed? text.toList).filter fitsInt64).map Int64.ofInt

/-- Reads a number of seconds: an unsigned value of at most 64 bits. -/
def seconds? (text : String) : Option Nat :=
  (unsigned? text.toList).filter fun n => n < UInt64.size

/-- The decimal text of an integer, with a minus sign if it is negative. -/
def decimal (n : Int) : String :=
  match n with
  | .ofNat m => String.ofList (Nat.toDigits 10 m)
  | .negSucc m => String.ofList ('-' :: Nat.toDigits 10 (m + 1))

theorem natural?_eq_some_iff {digits : List Char} {n : Nat} :
    natural? digits = some n ↔
      digits ≠ [] ∧ (∀ c ∈ digits, c.isDigit = true) ∧ value digits = n := by
  unfold natural?
  split
  · next h =>
    simp only [Bool.or_eq_true, List.isEmpty_iff, Bool.not_eq_eq_eq_not, Bool.not_true] at h
    refine ⟨fun k => (by cases k), fun ⟨hne, hall, _⟩ => ?_⟩
    rcases h with h | h
    · exact absurd h hne
    · exact absurd (List.all_eq_true.2 hall) (by simp [h])
  · next h =>
    simp only [Bool.or_eq_true, List.isEmpty_iff, Bool.not_eq_eq_eq_not, Bool.not_true, not_or,
      Bool.not_eq_false] at h
    exact ⟨fun k => ⟨h.1, List.all_eq_true.1 h.2, Option.some.inj k⟩, fun k => congrArg _ k.2.2⟩

end Numeral
end LineShell
