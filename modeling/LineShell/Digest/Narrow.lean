import LineShell.Digest.Blocks

/-!
# Digests of narrow words

These digests work on words of 32 bits: the one of 16 bytes and the one of 20 bytes that are no
longer thought safe, the two that begin with the roots of primes, and one that mixes the words of a
block in pairs.
-/

namespace LineShell
namespace Digest
namespace Narrow

abbrev Word := UInt32

def turnLeft (x : Word) (n : Nat) : Word :=
  let n := n.toUInt32
  (x <<< n) ||| (x >>> (32 - n))

def turnRight (x : Word) (n : Nat) : Word :=
  let n := n.toUInt32
  (x >>> n) ||| (x <<< (32 - n))

/-- Adds states word by word. -/
def add (a b : Array Word) : Array Word := Array.zipWith (· + ·) a b

/-- A scheme of words of 32 bits. -/
def scheme (big : Bool) (size : Nat) (start : Array Word)
    (compress : Array Word → Array Word → Array Word) : Scheme Word :=
  { ofNat := Nat.toUInt32, toNat := UInt32.toNat, width := 4, big, start, compress, size }

/-! ## Sixteen bytes -/

/-- What is added in each round: the whole parts of the sines of one, two and so on, times two to
the power of 32. -/
def sines : Array Word :=
  #[0xd76aa478, 0xe8c7b756, 0x242070db, 0xc1bdceee, 0xf57c0faf, 0x4787c62a, 0xa8304613, 0xfd469501,
    0x698098d8, 0x8b44f7af, 0xffff5bb1, 0x895cd7be, 0x6b901122, 0xfd987193, 0xa679438e, 0x49b40821,
    0xf61e2562, 0xc040b340, 0x265e5a51, 0xe9b6c7aa, 0xd62f105d, 0x02441453, 0xd8a1e681, 0xe7d3fbc8,
    0x21e1cde6, 0xc33707d6, 0xf4d50d87, 0x455a14ed, 0xa9e3e905, 0xfcefa3f8, 0x676f02d9, 0x8d2a4c8a,
    0xfffa3942, 0x8771f681, 0x6d9d6122, 0xfde5380c, 0xa4beea44, 0x4bdecfa9, 0xf6bb4b60, 0xbebfbc70,
    0x289b7ec6, 0xeaa127fa, 0xd4ef3085, 0x04881d05, 0xd9d4d039, 0xe6db99e5, 0x1fa27cf8, 0xc4ac5665,
    0xf4292244, 0x432aff97, 0xab9423a7, 0xfc93a039, 0x655b59c3, 0x8f0ccc92, 0xffeff47d, 0x85845dd1,
    0x6fa87e4f, 0xfe2ce6e0, 0xa3014314, 0x4e0811a1, 0xf7537e82, 0xbd3af235, 0x2ad7d2bb, 0xeb86d391]

/-- How far words are turned in each round. -/
def turns : Array Nat :=
  #[7, 12, 17, 22, 5, 9, 14, 20, 4, 11, 16, 23, 6, 10, 15, 21]

/-- A round of the digest of sixteen bytes. -/
def shortRound (block : Array Word) (state : Word × Word × Word × Word) (i : Nat) :
    Word × Word × Word × Word :=
  let (a, b, c, d) := state
  let (mixed, k) := match i / 16 with
    | 0 => ((b &&& c) ||| (~~~b &&& d), i)
    | 1 => ((d &&& b) ||| (~~~d &&& c), 5 * i + 1)
    | 2 => (b ^^^ c ^^^ d, 3 * i + 5)
    | _ => (c ^^^ (b ||| ~~~d), 7 * i)
  let sum := a + mixed + sines.getD i 0 + block.getD (k % 16) 0
  (d, b + turnLeft sum (turns.getD (i / 16 * 4 + i % 4) 0), b, c)

def shortCompress (state block : Array Word) : Array Word :=
  let from_ := fun i => state.getD i 0
  let (a, b, c, d) := (List.range 64).foldl (shortRound block) (from_ 0, from_ 1, from_ 2, from_ 3)
  add state #[a, b, c, d]

def shortStart : Array Word := #[0x67452301, 0xefcdab89, 0x98badcfe, 0x10325476]

/-- The digest of sixteen bytes. -/
def short : Scheme Word := scheme false 16 shortStart shortCompress

/-! ## Twenty bytes -/

/-- The words of a block and those that follow from them, by a rule on all words so far. -/
def schedule (next : Array Word → Nat → Word) (rounds : Nat) (block : Array Word) : Array Word :=
  (List.range (rounds - 16)).foldl (fun words i => words.push (next words (i + 16))) block

/-- A round of the digest of twenty bytes. -/
def middleRound (words : Array Word) (state : Word × Word × Word × Word × Word) (i : Nat) :
    Word × Word × Word × Word × Word :=
  let (a, b, c, d, e) := state
  let (mixed, constant) := match i / 20 with
    | 0 => ((b &&& c) ||| (~~~b &&& d), 0x5a827999)
    | 1 => (b ^^^ c ^^^ d, 0x6ed9eba1)
    | 2 => ((b &&& c) ||| (b &&& d) ||| (c &&& d), 0x8f1bbcdc)
    | _ => (b ^^^ c ^^^ d, (0xca62c1d6 : Word))
  (turnLeft a 5 + mixed + e + constant + words.getD i 0, a, turnLeft b 30, c, d)

def middleCompress (state block : Array Word) : Array Word :=
  let next := fun (words : Array Word) (i : Nat) =>
    let at_ := fun back => words.getD (i - back) 0
    turnLeft (at_ 3 ^^^ at_ 8 ^^^ at_ 14 ^^^ at_ 16) 1
  let words := schedule next 80 block
  let from_ := fun i => state.getD i 0
  let (a, b, c, d, e) :=
    (List.range 80).foldl (middleRound words) (from_ 0, from_ 1, from_ 2, from_ 3, from_ 4)
  add state #[a, b, c, d, e]

/-- The digest of twenty bytes. -/
def middle : Scheme Word :=
  scheme true 20 (shortStart.push 0xc3d2e1f0) middleCompress

/-! ## Up to 32 bytes -/

/-- What is added in each round. -/
def cubeRoots : Array Word :=
  ((primes 64).map fun n => (rootBits 3 32 n).toUInt32).toArray

/-- What counts of a state of eight words. -/
structure Eight where
  (a b c d e f g h : Word)

def longRound (words : Array Word) (s : Eight) (i : Nat) : Eight :=
  let high := turnRight s.e 6 ^^^ turnRight s.e 11 ^^^ turnRight s.e 25
  let choice := (s.e &&& s.f) ^^^ (~~~s.e &&& s.g)
  let first := s.h + high + choice + cubeRoots.getD i 0 + words.getD i 0
  let low := turnRight s.a 2 ^^^ turnRight s.a 13 ^^^ turnRight s.a 22
  let most := (s.a &&& s.b) ^^^ (s.a &&& s.c) ^^^ (s.b &&& s.c)
  { a := first + (low + most), b := s.a, c := s.b, d := s.c
    e := s.d + first, f := s.e, g := s.f, h := s.g }

def longCompress (state block : Array Word) : Array Word :=
  let next := fun (words : Array Word) (i : Nat) =>
    let at_ := fun back => words.getD (i - back) 0
    let near := at_ 2
    let far := at_ 15
    at_ 16 + (turnRight far 7 ^^^ turnRight far 18 ^^^ (far >>> 3)) + at_ 7 +
      (turnRight near 17 ^^^ turnRight near 19 ^^^ (near >>> 10))
  let words := schedule next 64 block
  let from_ := fun i => state.getD i 0
  let s := (List.range 64).foldl (longRound words)
    ⟨from_ 0, from_ 1, from_ 2, from_ 3, from_ 4, from_ 5, from_ 6, from_ 7⟩
  add state #[s.a, s.b, s.c, s.d, s.e, s.f, s.g, s.h]

/-- The digest of 32 bytes. -/
def long : Scheme Word :=
  scheme true 32 ((primes 8).map fun n => (rootBits 2 32 n).toUInt32).toArray longCompress

/-- The digest of 28 bytes, which begins with bits of other roots. -/
def longCut : Scheme Word :=
  scheme true 28 (((primes 16).drop 8).map fun n => (rootBits 2 64 n).toUInt32).toArray longCompress

/-! ## Pairs of words -/

/-- A round that takes in a word and its pair. -/
def pairRound (words : Array Word) (s : Eight) (i : Nat) : Eight :=
  let word := words.getD i 0
  let pair := word ^^^ words.getD (i + 4) 0
  let early := i < 16
  let constant : Word := if early then 0x79cc4519 else 0x7a879d8a
  let turned := turnLeft s.a 12
  let first := turnLeft (turned + s.e + turnLeft constant (i % 32)) 7
  let high := if early then s.a ^^^ s.b ^^^ s.c
    else (s.a &&& s.b) ||| (s.a &&& s.c) ||| (s.b &&& s.c)
  let low := if early then s.e ^^^ s.f ^^^ s.g else (s.e &&& s.f) ||| (~~~s.e &&& s.g)
  let next := low + s.h + first + word
  { a := high + s.d + (first ^^^ turned) + pair, b := s.a, c := turnLeft s.b 9, d := s.c
    e := next ^^^ turnLeft next 9 ^^^ turnLeft next 17, f := s.e, g := turnLeft s.f 19, h := s.g }

def pairCompress (state block : Array Word) : Array Word :=
  let next := fun (words : Array Word) (i : Nat) =>
    let at_ := fun back => words.getD (i - back) 0
    let x := at_ 16 ^^^ at_ 9 ^^^ turnLeft (at_ 3) 15
    x ^^^ turnLeft x 15 ^^^ turnLeft x 23 ^^^ turnLeft (at_ 13) 7 ^^^ at_ 6
  let words := schedule next 68 block
  let from_ := fun i => state.getD i 0
  let s := (List.range 64).foldl (pairRound words)
    ⟨from_ 0, from_ 1, from_ 2, from_ 3, from_ 4, from_ 5, from_ 6, from_ 7⟩
  Array.zipWith (· ^^^ ·) state #[s.a, s.b, s.c, s.d, s.e, s.f, s.g, s.h]

/-- The digest of 32 bytes that mixes pairs of words. -/
def paired : Scheme Word :=
  scheme true 32
    #[0x7380166f, 0x4914b2b9, 0x172442d7, 0xda8a0600, 0xa96f30bc, 0x163138aa, 0xe38dee4d,
      0xb0fb0e4e]
    pairCompress

end Narrow
end Digest
end LineShell
