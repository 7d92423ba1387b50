import LineShell.Shell.Formatting

/-!
# Filling formats

A format is filled with operands, and again as long as operands are left.  Backslashes begin
escapes, in the format and in some operands.
-/

namespace LineShell
namespace Shell

/-! ## Escapes -/

namespace Escape

def letters : List (Char × Char) :=
  [('\\', '\\'), ('a', '\x07'), ('b', '\x08'), ('e', '\x1b'), ('f', '\x0c'), ('n', '\n'),
   ('r', '\r'), ('t', '\t'), ('v', '\x0b')]

def isOctal (c : Char) : Bool := '0' ≤ c && c ≤ '7'

/-- What comes of reading behind a backslash. -/
inductive Outcome where
  | bytes (text rest : List Char)
  /-- Nothing more is written. -/
  | ends
  | refused (reason : String)

/-- Reads what follows a backslash.  What has no meaning leaves the backslash and is left itself. -/
def read (text : List Char) : Outcome :=
  match text with
  | c :: rest =>
    match letters.lookup c with
    | some byte => .bytes [byte] rest
    | none =>
      if isOctal c then
        let digits := (text.take 3).takeWhile isOctal
        .bytes [Char.ofNat (ofDigits 8 digits % 256)] (text.drop digits.length)
      else .bytes ['\\'] text
  | [] => .bytes ['\\'] []

/-- Reads what follows a backslash where three digits may follow a zero, and where `c` ends all. -/
def readInOperand (read : List Char → Outcome) (text : List Char) : Outcome :=
  match text with
  | 'c' :: _ => .ends
  | '0' :: c :: rest => read (if isOctal c then c :: rest else text)
  | _ => read text

/-- Replaces the escapes in an operand, and says how it ended before its end. -/
def replaced (read : List Char → Outcome) : Nat → List Char → List Char × Option Outcome
  | 0, _ | _, [] => ([], none)
  | fuel + 1, '\\' :: rest =>
    match read rest with
    | .bytes text rest =>
      let (others, ends) := replaced read fuel rest
      (text ++ others, ends)
    | outcome => ([], some outcome)
  | fuel + 1, c :: rest =>
    let (others, ends) := replaced read fuel rest
    (c :: others, ends)

end Escape

/-! ## Filling -/

/-- What may differ between those who fill formats. -/
structure Manner where
  /-- Tells a complaint. -/
  tell : Octets → Run Unit
  /-- Reads what follows a backslash in a format. -/
  escape : List Char → Escape.Outcome := Escape.read
  /-- Reads what follows a backslash in an operand. -/
  operandEscape : List Char → Escape.Outcome := Escape.readInOperand Escape.read
  /-- How complaints show an operand. -/
  quote : Octets → Octets
  /-- How an operand is written so that a script could hold it. -/
  quoteOperand : Octets → Octets := id
  noNumber : String
  notWhole : String
  /-- The complaint about a directive without a letter. -/
  noLetter : Octets → Octets
  badDirective : Octets → Octets
  /-- The flags. -/
  marks : List Char := "#-+ 0".toList
  /-- The letters that tell the size of a number and do not count. -/
  sizes : List Char := []
  allows : Directive → Char → Bool
  /-- The status after a directive that is not known. -/
  failure : Nat := 2
  /-- How many binary digits numbers with a fraction have. -/
  bits : Nat := 53
  /-- Whether a number that is too large matters more than what follows it. -/
  rangeFirst : Bool := false
  /-- The warning about what follows a quoted byte. -/
  surplus : Octets → Option Octets := fun _ => none

/-- What is known while a format is filled. -/
structure Filling where
  manner : Manner
  operands : List Octets
  /-- What was written, the last part first. -/
  written : List Octets := []
  status : Nat := 0
  /-- Whether nothing more is done. -/
  givenUp : Bool := false

abbrev Fill := StateT Filling Run

namespace Fill

def put (text : Octets) : Fill Unit := modify fun f => { f with written := text :: f.written }

def operand? : Fill (Option Octets) := modifyGet fun f =>
  (f.operands.head?, { f with operands := f.operands.tail })

def complain (text : Octets) : Fill Unit := do
  (← get).manner.tell text
  modify fun f => { f with status := 1 }

/-- Complains, and gives up; the answer is not to go on. -/
def refuse (text : Octets) : Fill Bool := do
  complain text
  modify fun f => { f with givenUp := true, status := f.manner.failure }
  return false

def stop (outcome : Escape.Outcome) : Fill Bool := do
  match outcome with
  | .refused reason => refuse reason
  | _ =>
    modify fun f =>
      { f with givenUp := true, status := if f.manner.failure = 1 then 0 else f.status }
    return false

/-- Complains about an operand that is not a number as a whole. -/
def check (whole : Octets) (rest : List Char) (inRange : Bool) : Fill Unit := do
  let manner := (← get).manner
  let shown := manner.quote whole ++ ": "
  if !inRange && manner.rangeFirst then complain (shown ++ Fault.outOfRange.description)
  else if !rest.isEmpty then
    if rest.length = whole.length then complain (shown ++ manner.noNumber)
    else complain (shown ++ manner.notWhole)
  else if !inRange then complain (shown ++ Fault.outOfRange.description)

/-- The byte behind a quotation mark, which stands for its number. -/
def quotedByte? (word : Octets) : Fill (Option Nat) := do
  match word.toList with
  | '"' :: rest | '\'' :: rest =>
    let manner := (← get).manner
    match rest with
    | [] => return if manner.rangeFirst then none else some 0
    | c :: rest =>
      if !rest.isEmpty then
        match manner.surplus (String.ofList rest) with
        | some text => manner.tell text
        | none => pure ()
      return some c.toNat
  | _ => return none

/-- The largest number of 64 bits without a sign. -/
def largestWhole : Nat := 18446744073709551615

def whole (least most : Int) : Fill Int := do
  match ← operand? with
  | none => return 0
  | some word =>
    match ← quotedByte? word with
    | some n => return n
    | none =>
      match readNumeral 0 word.toList with
      | none =>
        check word word.toList true
        return 0
      | some (n, rest) =>
        check word rest (least ≤ n && n ≤ most && n.natAbs ≤ largestWhole)
        return max least (min most n)

def fraction : Fill Fraction := do
  match ← operand? with
  | none => return .finite false 0 1
  | some word =>
    match ← quotedByte? word with
    | some n => return .finite false n 1
    | none =>
      match Fraction.read? (← get).manner.bits word.toList with
      | none =>
        check word word.toList true
        return .finite false 0 1
      | some (value, rest) =>
        let infinite := match value with
          | .infinite _ =>
            (Fraction.takeWord? "inf" (takeSign (word.toList.dropWhile isSpace)).2).isNone
          | _ => false
        check word rest (!infinite)
        return value

def largestAmount : Int := 2147483647

/-- The number of a directive.  What it is called is given. -/
def amount (what : Octets) : Amount → Fill (Option Int)
  | .absent => return none
  | .written n => return some n
  | .taken => do
    let manner := (← get).manner
    let word := ((← get).operands.head?).getD ""
    let n ← whole smallestInt largestInt
    if manner.rangeFirst && (largestAmount < n || n < -largestAmount && what != "precision") then
      let _ ← refuse ("invalid " ++ what ++ ": " ++ manner.quote word)
      return none
    return some (max (-largestAmount) (min largestAmount n))

def fitting (d : Directive) : Fill Fitting := do
  let width := (← amount "field width" d.width).getD 0
  let precision ← amount "precision" d.precision
  return { flags := if width < 0 then '-' :: d.flags else d.flags
           width := width.natAbs
           precision := precision.bind fun n => if n < 0 then none else some n.toNat }

/-- The largest number without a sign. -/
def largest : Int := largestWhole

/-- Fills a directive; the answer is whether to go on. -/
def directive (d : Directive) (letter : Char) : Fill Bool := do
  let f ← fitting d
  let manner := (← get).manner
  if (← get).givenUp then return false
  match letter with
  | 'b' =>
    let word := (← operand?).getD ""
    let (text, ends) := Escape.replaced manner.operandEscape (word.length + 1) word.toList
    put (f.text (String.ofList text))
    match ends with
    | none => return true
    | some outcome => stop outcome
  | 'c' =>
    let word := (← operand?).getD ""
    put (f.pad (String.singleton (word.toList.headD '\x00')))
    return true
  | 's' =>
    put (f.text ((← operand?).getD ""))
    return true
  | 'q' =>
    match ← operand? with
    | some word => put (f.text (manner.quoteOperand word))
    | none => pure ()
    return true
  | 'd' | 'i' =>
    put (f.signed (← whole smallestInt largestInt))
    return true
  | 'a' | 'A' | 'e' | 'E' | 'f' | 'F' | 'g' | 'G' =>
    put (f.fraction manner.bits letter (← fraction))
    return true
  | _ =>
    let n ← whole (-largest - 1) (largest + 1)
    let n := if largest < n || n < -largest then largest else n % (largest + 1)
    put (f.unsigned letter n.toNat)
    return true

/-- Fills a format once; the answer is whether to go on. -/
def once : Nat → List Char → Fill Bool
  | 0, _ | _, [] => return true
  | fuel + 1, '\\' :: rest => do
    match (← get).manner.escape rest with
    | .bytes text rest =>
      put (String.ofList text)
      once fuel rest
    | outcome => stop outcome
  | fuel + 1, '%' :: '%' :: rest => do
    put "%"
    once fuel rest
  | fuel + 1, '%' :: rest => do
    let manner := (← get).manner
    let (d, after) := Directive.take manner.marks rest
    let after := after.dropWhile manner.sizes.contains
    match after with
    | [] => refuse (manner.noLetter ("%" ++ String.ofList rest))
    | letter :: after =>
      if manner.allows d letter then
        if ← directive d letter then once fuel after else return false
      else
        let typed := rest.take (rest.length - after.length)
        refuse (manner.badDirective ("%" ++ String.ofList typed))
  | fuel + 1, c :: rest => do
    put (String.singleton c)
    once fuel rest

/-- Fills a format as long as it takes operands and there are any. -/
def all (format : List Char) : Nat → Fill Unit
  | 0 => return
  | fuel + 1 => do
    let before := (← get).operands.length
    if ← once (format.length + 1) format then
      let left := (← get).operands.length
      if 0 < left && left < before then all format fuel

end Fill

end Shell
end LineShell
