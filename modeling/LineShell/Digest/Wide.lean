import LineShell.Digest.Blocks

/-!
# Digests of wide words

These digests work on words of 64 bits: two that begin with the roots of primes, and one that mixes
the words of a block by a table of orders and whose length can be chosen.
-/

namespace LineShell
namespace Digest
namespace Wide

abbrev Word := UInt64

def turnRight (x : Word) (n : Nat) : Word :=
  let n := n.toUInt64
  (x >>> n) ||| (x <<< (64 - n))

/-- What is added in each round. -/
def cubeRoots : Array Word :=
  ((primes 80).map fun n => (rootBits 3 64 n).toUInt64).toArray

/-- The beginnings of roots, where so many primes are passed over. -/
def squareRoots (skipped : Nat) : Array Word :=
  (((primes (skipped + 8)).drop skipped).map fun n => (rootBits 2 64 n).toUInt64).toArray

/-- What counts of a state of eight words. -/
structure Eight where
  (a b c d e f g h : Word)

def round (words : Array Word) (s : Eight) (i : Nat) : Eight :=
  let high := turnRight s.e 14 ^^^ turnRight s.e 18 ^^^ turnRight s.e 41
  let choice := (s.e &&& s.f) ^^^ (~~~s.e &&& s.g)
  let first := s.h + high + choice + cubeRoots.getD i 0 + words.getD i 0
  let low := turnRight s.a 28 ^^^ turnRight s.a 34 ^^^ turnRight s.a 39
  let most := (s.a &&& s.b) ^^^ (s.a &&& s.c) ^^^ (s.b &&& s.c)
  { a := first + (low + most), b := s.a, c := s.b, d := s.c
    e := s.d + first, f := s.e, g := s.f, h := s.g }

def compress (state block : Array Word) : Array Word :=
  let extend := fun (words : Array Word) (i : Nat) =>
    let at_ := fun back => words.getD (i + 16 - back) 0
    let near := at_ 2
    let far := at_ 15
    words.push (at_ 16 + (turnRight far 1 ^^^ turnRight far 8 ^^^ (far >>> 7)) + at_ 7 +
      (turnRight near 19 ^^^ turnRight near 61 ^^^ (near >>> 6)))
  let words := (List.range 64).foldl extend block
  let from_ := fun i => state.getD i 0
  let s := (List.range 80).foldl (round words)
    ⟨from_ 0, from_ 1, from_ 2, from_ 3, from_ 4, from_ 5, from_ 6, from_ 7⟩
  Array.zipWith (· + ·) state #[s.a, s.b, s.c, s.d, s.e, s.f, s.g, s.h]

def scheme (size : Nat) (start : Array Word) : Scheme Word :=
  { ofNat := Nat.toUInt64, toNat := UInt64.toNat, width := 8, big := true, start, compress, size }

/-- The digest of 64 bytes. -/
def long : Scheme Word := scheme 64 (squareRoots 0)

/-- The digest of 48 bytes. -/
def longCut : Scheme Word := scheme 48 (squareRoots 8)

/-! ## Mixing by orders -/

/-- The orders in which the words of a block are mixed in, one for each round. -/
def orders : List (List Nat) :=
  [[0, 1, 2, 3, 4, 5, 6, 7, 8, 9, 10, 11, 12, 13, 14, 15],
   [14, 10, 4, 8, 9, 15, 13, 6, 1, 12, 0, 2, 11, 7, 5, 3],
   [11, 8, 12, 0, 5, 2, 15, 13, 10, 14, 3, 6, 7, 1, 9, 4],
   [7, 9, 3, 1, 13, 12, 11, 14, 2, 6, 5, 10, 4, 0, 15, 8],
   [9, 0, 5, 7, 2, 4, 10, 15, 14, 1, 11, 12, 6, 8, 3, 13],
   [2, 12, 6, 10, 0, 11, 8, 3, 4, 13, 7, 5, 15, 14, 1, 9],
   [12, 5, 1, 15, 14, 13, 4, 10, 0, 7, 6, 3, 9, 2, 8, 11],
   [13, 11, 7, 14, 12, 1, 3, 9, 5, 0, 15, 4, 8, 6, 2, 10],
   [6, 15, 14, 9, 11, 3, 0, 8, 12, 2, 13, 7, 1, 4, 10, 5],
   [10, 2, 8, 4, 7, 6, 1, 5, 15, 11, 9, 14, 3, 12, 13, 0]]

/-- Which four words of the state are mixed, in the order of the steps of a round. -/
def quarters : List (Nat × Nat × Nat × Nat) :=
  [(0, 4, 8, 12), (1, 5, 9, 13), (2, 6, 10, 14), (3, 7, 11, 15),
   (0, 5, 10, 15), (1, 6, 11, 12), (2, 7, 8, 13), (3, 4, 9, 14)]

/-- Mixes two words of a block into four words of the state. -/
def mix (v : Array Word) (at_ : Nat × Nat × Nat × Nat) (x y : Word) : Array Word :=
  let (i, j, k, l) := at_
  let (a, b, c, d) := (v.getD i 0, v.getD j 0, v.getD k 0, v.getD l 0)
  let a := a + b + x
  let d := turnRight (d ^^^ a) 32
  let c := c + d
  let b := turnRight (b ^^^ c) 24
  let a := a + b + y
  let d := turnRight (d ^^^ a) 16
  let c := c + d
  let b := turnRight (b ^^^ c) 63
  (((v.setIfInBounds i a).setIfInBounds j b).setIfInBounds k c).setIfInBounds l d

/-- One round with an order of the words of a block. -/
def mixRound (block : Array Word) (v : Array Word) (order : List Nat) : Array Word :=
  let steps := quarters.zip (List.range 8)
  steps.foldl (fun v (at_, i) =>
    let word := fun k => block.getD (order.getD (2 * i + k) 0) 0
    mix v at_ (word 0) (word 1)) v

/-- Takes in a block, given how many bytes came up to its end and whether it is the last one. -/
def mixBlock (state block : Array Word) (count : Nat) (last : Bool) : Array Word :=
  let roots := squareRoots 0
  let v := state ++ roots
  let v := v.modify 12 (· ^^^ count.toUInt64)
  let v := if last then v.modify 14 fun w => ~~~w else v
  let v := (orders ++ orders.take 2).foldl (mixRound block) v
  ((List.range 8).map fun i => state.getD i 0 ^^^ v.getD i 0 ^^^ v.getD (i + 8) 0).toArray

/-- Goes through a message, given how many bytes came before. -/
def mixAll : Nat → Nat → List UInt8 → Array Word → Array Word
  | 0, _, _, state => state
  | fuel + 1, before, bytes, state =>
    let here := bytes.take 128
    let rest := bytes.drop 128
    let filled := here ++ List.replicate (128 - here.length) 0
    let (block, _) := { scheme 64 #[] with big := false }.takeWords 16 filled #[]
    let state := mixBlock state block (before + here.length) rest.isEmpty
    if rest.isEmpty then state else mixAll fuel (before + 128) rest state

/-- The digest of so many bytes that is mixed by orders. -/
def mixed (size : Nat) (message : List UInt8) : List UInt8 :=
  let start := (squareRoots 0).modify 0 (· ^^^ (0x01010000 + size.toUInt64))
  let state := mixAll (message.length + 1) 0 message start
  (state.toList.flatMap fun w => littleBytes 8 w.toNat).take size

end Wide
end Digest
end LineShell
