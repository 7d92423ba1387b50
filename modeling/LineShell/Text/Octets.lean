/-!
# Bytes as text

Streams and files hold bytes.  Here they are written as text in which every character stands for the
byte of its number, so that an `é` is two characters.  A text becomes bytes by its UTF-8 form, and
bytes are read back as UTF-8, where every stretch of bytes that begins a character and does not end
it shows as one replacement character.
-/

namespace LineShell

/-- Bytes, each written as the character of its number. -/
abbrev Octets := String

namespace Octets

def ofByte (byte : UInt8) : Char := Char.ofNat byte.toNat

def byte (c : Char) : UInt8 := c.toNat.toUInt8

def isAscii (c : Char) : Bool := c.toNat < 0x80

def ofText (text : String) : Octets :=
  if text.toList.all isAscii then text
  else String.ofList (text.toUTF8.toList.map ofByte)

/-- The text of bytes that are UTF-8. -/
def toText? (octets : List Char) : Option String :=
  if octets.all isAscii then some (String.ofList octets)
  else String.fromUTF8? ⟨(octets.map byte).toArray⟩

/-- What stands in for bytes that are no UTF-8. -/
def replacement : Char := '\ufffd'

/-- The bytes that may follow the first byte of a character, as ranges for each of them; none if no
character starts so. -/
def tailRanges (first : Nat) : Option (List (Nat × Nat)) :=
  let any := (0x80, 0xBF)
  if first < 0x80 then some []
  else if first < 0xC2 then none
  else if first < 0xE0 then some [any]
  else if first = 0xE0 then some [(0xA0, 0xBF), any]
  else if first = 0xED then some [(0x80, 0x9F), any]
  else if first < 0xF0 then some [any, any]
  else if first = 0xF0 then some [(0x90, 0xBF), any, any]
  else if first < 0xF4 then some [any, any, any]
  else if first = 0xF4 then some [(0x80, 0x8F), any, any]
  else none

/-- How many bytes fit the ranges, one each. -/
def fitting : List (Nat × Nat) → List Char → Nat
  | [], _ => 0
  | _, [] => 0
  | (low, high) :: ranges, c :: rest =>
    if low ≤ c.toNat && c.toNat ≤ high then fitting ranges rest + 1 else 0

def codePoint (first : Nat) (tail : List Char) : Nat :=
  let head := if tail.length = 1 then first % 0x20
    else if tail.length = 2 then first % 0x10 else first % 8
  tail.foldl (fun n c => 64 * n + c.toNat % 64) head

/-- Takes the first character off bytes: the character, and how many bytes after the first one
belong to it. -/
def firstChar (first : Char) (rest : List Char) : Char × Nat :=
  match tailRanges first.toNat with
  | none => (replacement, 0)
  | some [] => (first, 0)
  | some ranges =>
    let n := fitting ranges rest
    if n = ranges.length then (Char.ofNat (codePoint first.toNat (rest.take n)), n)
    else (replacement, n)

/-- Reads bytes as far as they are UTF-8. -/
def decode : List Char → List Char
  | [] => []
  | first :: rest =>
    let (c, n) := firstChar first rest
    c :: decode (rest.drop n)
termination_by octets => octets.length
decreasing_by
  simp only [List.length_drop, List.length_cons]
  omega

def toText (octets : Octets) : String :=
  let chars := octets.toList
  if chars.all isAscii then octets else String.ofList (decode chars)

end Octets
end LineShell
