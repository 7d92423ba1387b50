import LineShell.Shell.Pattern

/-!
# Regular expressions

Two ways to write them are known: one in which brackets and operators need a backslash, and one in
which they need none.  A match is the leftmost one, and of those the longest.
-/

namespace LineShell
namespace Shell

inductive Regex where
  | empty
  | char (c : Char)
  /-- Any byte. -/
  | any
  | oneOf (negated : Bool) (spans : List Span)
  | lineStart
  | lineEnd
  /-- Between a byte of a word and another one: at a start, at an end, at both, or neither. -/
  | boundary (start finish negated : Bool)
  | seq (first second : Regex)
  | either (first second : Regex)
  | many (body : Regex) (least : Nat) (most : Option Nat)
  | group (number : Nat) (body : Regex)
  /-- The text of a group again. -/
  | again (number : Nat)
  deriving Repr, Inhabited

namespace Regex

/-! ## Matching -/

/-- A place in a text and the groups so far, the last one first. -/
structure Position where
  place : Nat
  groups : List (Nat × Nat × Nat) := []
  deriving Inhabited

def isWordByte (c : Char) : Bool := c.isAlphanum || c = '_'

def wordAt (text : Array Char) (place : Nat) : Bool := text[place]?.any isWordByte

def wordBefore (text : Array Char) (place : Nat) : Bool :=
  0 < place && wordAt text (place - 1)

/-- Keeps the first of positions at the same place. -/
def distinct (positions : List Position) : List Position :=
  positions.foldl (fun (kept : List Position) p =>
    if kept.any fun q => q.place = p.place then kept else kept ++ [p]) []

def sameByte (folds : Bool) (c d : Char) : Bool :=
  c = d || folds && c.toUpper = d.toUpper

def inSpans (folds : Bool) (spans : List Span) (c : Char) : Bool :=
  spans.any fun span => span.has c || folds && (span.has c.toUpper || span.has c.toLower)

def groupText (text : Array Char) (p : Position) (number : Nat) : Option (List Char) :=
  (p.groups.lookup number).map fun (start, finish) =>
    (text.extract start finish).toList

/-- The positions after a match that begins at a position, the preferred ones first. -/
def ends (folds : Bool) (text : Array Char) : Regex → Position → List Position
  | .empty, p => [p]
  | .char c, p =>
    if text[p.place]?.any (sameByte folds c) then [{ p with place := p.place + 1 }] else []
  | .any, p => if p.place < text.size then [{ p with place := p.place + 1 }] else []
  | .oneOf negated spans, p =>
    if text[p.place]?.any fun c => inSpans folds spans c != negated then
      [{ p with place := p.place + 1 }]
    else []
  | .lineStart, p => if p.place = 0 then [p] else []
  | .lineEnd, p => if p.place = text.size then [p] else []
  | .boundary start finish negated, p =>
    let before := wordBefore text p.place
    let after := wordAt text p.place
    let found := start && !before && after || finish && before && !after
    if found != negated then [p] else []
  | .seq first second, p => distinct ((ends folds text first p).flatMap (ends folds text second))
  | .either first second, p => distinct (ends folds text first p ++ ends folds text second p)
  | .group number body, p =>
    (ends folds text body p).map fun q =>
      { q with groups := (number, p.place, q.place) :: q.groups }
  | .again number, p =>
    match groupText text p number with
    | none => []
    | some chars =>
      let found := (text.extract p.place (p.place + chars.length)).toList
      if found.length = chars.length && (found.zip chars).all fun (c, d) => sameByte folds c d then
        [{ p with place := p.place + chars.length }]
      else []
  | .many body least most, p =>
    let step := ends folds text body
    let rec go (fuel count : Nat) (p : Position) : List Position :=
      match fuel with
      | 0 => if least ≤ count then [p] else []
      | fuel + 1 =>
        if most.any (· ≤ count) then [p]
        else
          let further := (step p).filter fun q => p.place < q.place || count < least
          let deeper := distinct (further.flatMap (go fuel (count + 1)))
          if least ≤ count then distinct (deeper ++ [p]) else deeper
    go (text.size + least + 1) 0 p

def matchAt (folds : Bool) (re : Regex) (text : Array Char) (place : Nat) : Option Position :=
  (ends folds text re { place }).foldl (fun best p =>
    match best with
    | none => some p
    | some q => if q.place < p.place then some p else best) none

/-- The first match from a place on: where it begins, and the position after it. -/
def find? (folds : Bool) (re : Regex) (text : Array Char) (from' : Nat) :
    Option (Nat × Position) :=
  ((List.range (text.size + 1)).drop from').findSome? fun place =>
    (matchAt folds re text place).map fun p => (place, p)

/-! ## Reading -/

/-- Why an expression cannot be read. -/
inductive Fault where
  /-- A bracket that nothing follows. -/
  | loneBracket
  | unmatchedBracket
  | unmatchedParenthesis
  | unmatchedClosing
  | unmatchedBrace
  | badRange
  | badContent
  /-- The largest number of repetitions is smaller than the smallest one. -/
  | badOrder
  | badReference
  | trailingBackslash
  | badRepetition
  | badClass
  deriving DecidableEq, Repr

def Fault.message : Fault → String
  | .loneBracket => "Invalid regular expression"
  | .unmatchedBracket => "Unmatched [, [^, [:, [., or [="
  | .unmatchedParenthesis => "Unmatched ( or \\("
  | .unmatchedClosing => "Unmatched ) or \\)"
  | .unmatchedBrace => "Unmatched \\\x7b"
  | .badRange => "Invalid range end"
  | .badContent | .badOrder => "Invalid content of \\\x7b\\\x7d"
  | .badReference => "Invalid back reference"
  | .trailingBackslash => "Trailing backslash"
  | .badRepetition => "Invalid preceding regular expression"
  | .badClass => "Invalid character class name"

/-- A lexeme of an expression, in which the two ways to write it do not differ any more. -/
inductive Sign where
  | item (re : Regex)
  | open_
  | close
  | bar
  | repeats (least : Nat) (most : Option Nat)
  deriving Inhabited

def setMembers : Nat → Bool → List Char → Except Fault (List Span × List Char)
  | 0, _, _ | _, _, [] => .error .unmatchedBracket
  | fuel + 1, first, c :: rest =>
    if c = ']' && !first then .ok ([], rest)
    else
      match c, rest with
      | '[', ':' :: more =>
        let name := more.takeWhile Char.isAlpha
        match more.drop name.length with
        | ':' :: ']' :: after =>
          let text := String.ofList name
          if (namedClasses.lookup text).isNone then .error .badClass
          else do
            let (spans, rest) ← setMembers fuel false after
            return (.named text :: spans, rest)
        | _ => .error .unmatchedBracket
      | '[', '=' :: d :: '=' :: ']' :: after | '[', '.' :: d :: '.' :: ']' :: after => do
        let (spans, rest) ← setMembers fuel false after
        return (.range d d :: spans, rest)
      | _, '-' :: high :: after =>
        if high = ']' then do
          let (spans, rest) ← setMembers fuel false rest
          return (.range c c :: spans, rest)
        else if high < c then .error .badRange
        else do
          let (spans, rest) ← setMembers fuel false after
          return (.range c high :: spans, rest)
      | _, _ => do
        let (spans, rest) ← setMembers fuel false rest
        return (.range c c :: spans, rest)

def set (text : List Char) : Except Fault (Regex × List Char) := do
  let negated := text.head? = some '^'
  let text := if negated then text.drop 1 else text
  if text.isEmpty then throw .loneBracket
  let (spans, rest) ← setMembers (text.length + 1) true text
  return (.oneOf negated spans, rest)

def repetition (extended : Bool) (text : List Char) : Except Fault (Sign × List Char) := do
  let number := fun digits : List Char =>
    digits.foldl (fun n c => 10 * n + (c.toNat - '0'.toNat)) 0
  let low := text.takeWhile Char.isDigit
  let rest := text.drop low.length
  let (most, rest) := match rest with
    | ',' :: rest =>
      let high := rest.takeWhile Char.isDigit
      (if high.isEmpty then none else some (number high), rest.drop high.length)
    | _ => (some (number low), rest)
  let rest ← match extended, rest with
    | true, '}' :: rest | false, '\\' :: '}' :: rest => .ok rest
    | _, [] => .error .unmatchedBrace
    | _, _ => .error .badContent
  if most.any (· < number low) then .error .badOrder
  return (.repeats (number low) most, rest)

def escapes : List (Char × Regex) :=
  let word : List Span := [.named "alnum", .range '_' '_']
  [('w', .oneOf false word), ('W', .oneOf true word), ('s', .oneOf false [.named "space"]),
   ('S', .oneOf true [.named "space"]), ('b', .boundary true true false),
   ('B', .boundary true true true), ('<', .boundary true false false),
   ('>', .boundary false true false), ('\x60', .lineStart), ('\'', .lineEnd)]

/-- Cuts an expression into signs.  Whether a sign may begin here that could only be an operator
elsewhere is given.  If that is tolerated, a brace that begins no repetition means itself. -/
def signs (extended tolerant : Bool) : Nat → Bool → List Char → Except Fault (List Sign)
  | 0, _, _ | _, _, [] => .ok []
  | fuel + 1, start, c :: rest =>
    let plain := do return .item (.char c) :: (← signs extended tolerant fuel false rest)
    match extended, c, rest with
    | _, '[', _ => do
      let (re, rest) ← set rest
      return .item re :: (← signs extended tolerant fuel false rest)
    | _, '.', _ => do return .item .any :: (← signs extended tolerant fuel false rest)
    | _, '*', _ =>
      if start && !extended then plain
      else if start then signs extended tolerant fuel true rest
      else do return .repeats 0 none :: (← signs extended tolerant fuel false rest)
    | true, '+', _ | false, '\\', '+' :: _ =>
      if start then plain
      else do
        let rest := if extended then rest else rest.drop 1
        return .repeats 1 none :: (← signs extended tolerant fuel false rest)
    | true, '?', _ | false, '\\', '?' :: _ =>
      if start then plain
      else do
        let rest := if extended then rest else rest.drop 1
        return .repeats 0 (some 1) :: (← signs extended tolerant fuel false rest)
    | true, '{', _ =>
      match start, repetition true rest with
      | false, .ok (sign, rest) => do
        return sign :: (← signs extended tolerant fuel false rest)
      | false, .error fault =>
        if tolerant && fault != .badOrder then plain else .error fault
      | true, _ => if tolerant then plain else .error .badRepetition
    | false, '\\', '{' :: more =>
      if start then .error .badRepetition
      else do
        let (sign, rest) ← repetition false more
        return sign :: (← signs extended tolerant fuel false rest)
    | true, '(', _ => do return .open_ :: (← signs extended tolerant fuel true rest)
    | false, '\\', '(' :: more => do return .open_ :: (← signs extended tolerant fuel true more)
    | true, ')', _ => do return .close :: (← signs extended tolerant fuel false rest)
    | false, '\\', ')' :: more => do return .close :: (← signs extended tolerant fuel false more)
    | true, '|', _ => do return .bar :: (← signs extended tolerant fuel true rest)
    | false, '\\', '|' :: more => do return .bar :: (← signs extended tolerant fuel true more)
    | _, '^', _ =>
      if start || extended then do
        return .item .lineStart :: (← signs extended tolerant fuel true rest)
      else plain
    | true, '$', _ => do return .item .lineEnd :: (← signs extended tolerant fuel false rest)
    | false, '$', [] => .ok [.item .lineEnd]
    | false, '$', '\\' :: ')' :: _ | false, '$', '\\' :: '|' :: _ => do
      return .item .lineEnd :: (← signs extended tolerant fuel false rest)
    | _, '\\', d :: more =>
      if d.isDigit && d != '0' then do
        return .item (.again (d.toNat - '0'.toNat)) :: (← signs extended tolerant fuel false more)
      else
        match escapes.lookup d with
        | some re => do return .item re :: (← signs extended tolerant fuel false more)
        | none => do
          let d := if d = 'n' then '\n' else if d = 't' then '\t' else d
          return .item (.char d) :: (← signs extended tolerant fuel false more)
    | _, '\\', [] => .error .trailingBackslash
    | _, _, _ => plain

def repeated : Regex → List Sign → Regex × List Sign
  | re, .repeats least most :: rest => repeated (.many re least most) rest
  | re, rest => (re, rest)

/-- Reads alternatives up to a closing parenthesis or the end.  The number of groups so far goes
along. -/
def alternatives (extended : Bool) :
    Nat → Nat → Bool → List Sign → Except Fault (Regex × Nat × List Sign)
  | 0, groups, _, signs => .ok (.empty, groups, signs)
  | fuel + 1, groups, nested, signs =>
    let rec branch (again : Nat → Bool → List Sign → Except Fault (Regex × Nat × List Sign))
        (fuel groups : Nat) (done : Regex) (signs : List Sign) :
        Except Fault (Regex × Nat × List Sign) :=
      match fuel, signs with
      | 0, _ | _, [] => .ok (done, groups, signs)
      | fuel + 1, .item re :: rest =>
        let (re, rest) := repeated re rest
        branch again fuel groups (.seq done re) rest
      | fuel + 1, .open_ :: rest => do
        let number := groups + 1
        let (body, groups, rest) ← again number true rest
        match rest with
        | .close :: rest =>
          let (re, rest) := repeated (.group number body) rest
          branch again fuel groups (.seq done re) rest
        | _ => .error .unmatchedParenthesis
      | _, .bar :: _ => .ok (done, groups, signs)
      | fuel + 1, .close :: rest =>
        if nested then .ok (done, groups, signs)
        else if extended then branch again fuel groups (.seq done (.char ')')) rest
        else .error .unmatchedClosing
      | fuel + 1, .repeats .. :: rest => branch again fuel groups done rest
    do
      let (first, groups, rest) ←
        branch (alternatives extended fuel) (signs.length + 1) groups .empty signs
      match rest with
      | .bar :: rest => do
        let (second, groups, rest) ← alternatives extended fuel groups nested rest
        return (.either first second, groups, rest)
      | _ => return (first, groups, rest)

def largestReference : Regex → Nat
  | .again n => n
  | .seq a b | .either a b => max a.largestReference b.largestReference
  | .many body _ _ | .group _ body => body.largestReference
  | _ => 0

/-- Reads an expression, in which brackets need no backslash if it is extended. -/
def ofText (extended tolerant : Bool) (text : List Char) : Except Fault Regex := do
  let signs ← signs extended tolerant (text.length + 1) true text
  let (re, groups, _) ← alternatives extended (2 * signs.length + 2) 0 false signs
  if groups < re.largestReference then .error .badReference
  return re

def literal (text : List Char) : Regex := text.foldr (fun c re => .seq (.char c) re) .empty

end Regex
end Shell
end LineShell
