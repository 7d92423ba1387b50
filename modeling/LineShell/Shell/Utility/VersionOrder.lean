import LineShell.Text.Octets

/-!
# The order of versions

Texts with numbers in them are ordered part by part: what is no digit by a weight for each byte,
where the end of the text comes before letters, letters before other bytes, and a tilde before
everything; digits by the number that they write.  Suffixes of file names only count if nothing
else does.
-/

namespace LineShell
namespace Shell
namespace VersionOrder

/-- The weight of what a text goes on with, where digits end a part. -/
def weight : List Char → Int
  | [] => -1
  | c :: _ =>
    if c.isDigit then 0
    else if c.isAlpha then c.toNat
    else if c = '~' then -2
    else c.toNat + 256

/-- Whether a text goes on with something that is no digit. -/
def goesOn : List Char → Bool
  | [] => false
  | c :: _ => !c.isDigit

/-- Compares parts without digits: the order, or the rests of two texts. -/
def compareWords : Nat → List Char → List Char → Except Ordering (List Char × List Char)
  | 0, a, b => .ok (a, b)
  | fuel + 1, a, b =>
    if goesOn a || goesOn b then
      if weight a = weight b then compareWords fuel a.tail b.tail
      else .error (compare (weight a) (weight b))
    else .ok (a, b)

def compareParts : Nat → List Char → List Char → Ordering
  | 0, _, _ => .eq
  | fuel + 1, a, b =>
    if a.isEmpty && b.isEmpty then .eq
    else
      match compareWords (a.length + b.length + 1) a b with
      | .error order => order
      | .ok (a, b) =>
        let a := a.dropWhile (· = '0')
        let b := b.dropWhile (· = '0')
        let m := a.takeWhile Char.isDigit
        let n := b.takeWhile Char.isDigit
        let value := fun digits : List Char =>
          digits.foldl (fun n c => 10 * n + (c.toNat - '0'.toNat)) 0
        match compare (value m) (value n) with
        | .eq => compareParts fuel (a.drop m.length) (b.drop n.length)
        | order => order

/-- The length of a name without its suffixes, each of which is a point, a letter or a tilde, and
letters, digits and tildes.  The first byte always counts. -/
def stemLength (chars : List Char) : Nat :=
  go (chars.length + 1) 0 chars
where
  /-- Goes on behind a byte that belongs to the stem. -/
  go : Nat → Nat → List Char → Nat
    | 0, n, _ => n
    | _, n, [] => n
    | fuel + 1, n, _ :: rest =>
      let after := suffixes (rest.length + 1) rest
      if after.isEmpty then n + 1 else go fuel (n + 1 + (rest.length - after.length)) after
  /-- What follows the suffixes at the start of a text. -/
  suffixes : Nat → List Char → List Char
    | 0, text => text
    | fuel + 1, '.' :: c :: rest =>
      if c.isAlpha || c = '~' then
        suffixes fuel (rest.dropWhile fun c => c.isAlphanum || c = '~')
      else '.' :: c :: rest
    | _, text => text

/-- The rank of a text that begins with a point: those that are directories come first. -/
def dotRank (chars : List Char) : Nat :=
  match chars with
  | [] => 0
  | ['.'] => 1
  | ['.', '.'] => 2
  | '.' :: _ => 3
  | _ => 4

def compareNames (a b : List Char) : Ordering :=
  match compare (dotRank a) (dotRank b) with
  | .eq =>
    let fuel := a.length + b.length + 2
    let m := stemLength a
    let n := stemLength b
    match compareParts fuel (a.take m) (b.take n) with
    | .eq => if m = a.length && n = b.length then .eq else compareParts fuel a b
    | order => order
  | order => order

end VersionOrder
end Shell
end LineShell
