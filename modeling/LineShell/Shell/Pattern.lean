import LineShell.Shell.Script

/-!
# Patterns

A pattern stands for texts: a star for any text, a question mark for any byte, and brackets for
one byte of a set.  What is quoted, and what follows a backslash, stands for itself.
`Pattern.accepts` is the matching of whole texts.
-/

namespace LineShell
namespace Shell

/-- A character of an expanded word. -/
structure Mark where
  char : Char
  /-- Whether it only stands for itself. -/
  quoted : Bool := false
  /-- Whether a field may end here. -/
  splits : Bool := false
  deriving DecidableEq, Repr, Inhabited

/-- A member of a set of bytes. -/
inductive Span where
  | range (first last : Char)
  | named (name : String)
  deriving DecidableEq, Repr

def namedClasses : List (String × (Char → Bool)) :=
  [("alnum", Char.isAlphanum), ("alpha", Char.isAlpha), ("blank", fun c => c = ' ' || c = '\t'),
   ("cntrl", fun c => c.toNat < 32 || c.toNat = 127), ("digit", Char.isDigit),
   ("graph", fun c => 32 < c.toNat && c.toNat < 127), ("lower", Char.isLower),
   ("print", fun c => 31 < c.toNat && c.toNat < 127),
   ("punct", fun c => 32 < c.toNat && c.toNat < 127 && !c.isAlphanum),
   ("space", fun c => c = ' ' || 9 ≤ c.toNat && c.toNat ≤ 13), ("upper", Char.isUpper),
   ("xdigit", fun c => c.isDigit || 'a' ≤ c && c ≤ 'f' || 'A' ≤ c && c ≤ 'F')]

def Span.has (span : Span) (c : Char) : Bool :=
  match span with
  | .range first last => first ≤ c && c ≤ last
  | .named name => (namedClasses.lookup name).any fun belongs => belongs c

inductive PatternItem where
  | char (c : Char)
  | one
  | some
  | oneOf (negated : Bool) (spans : List Span)
  deriving DecidableEq, Repr

abbrev Pattern := List PatternItem

namespace Pattern

def Mark.isBare (mark : Mark) (c : Char) : Bool := mark.char = c && !mark.quoted

def className? (marks : List Mark) : Option (String × List Mark) :=
  match marks with
  | { char := ':', .. } :: rest =>
    let name := rest.takeWhile fun mark => mark.char.isAlpha
    match rest.drop name.length with
    | { char := ':', .. } :: { char := ']', .. } :: rest =>
      let text := String.ofList (name.map (·.char))
      if (namedClasses.lookup text).isSome then some (text, rest) else none
    | _ => none
  | _ => none

def member? : List Mark → Option (Char × List Mark)
  | { char := '\\', quoted := false, .. } :: mark :: rest => some (mark.char, rest)
  | mark :: rest => some (mark.char, rest)
  | [] => none

/-- Reads the members of a set up to its closing bracket; none if there is none. -/
def spans : Nat → Bool → List Mark → Option (List Span × List Mark)
  | 0, _, _ => none
  | _, _, [] => none
  | fuel + 1, first, mark :: rest =>
    if Mark.isBare mark ']' && !first then some ([], rest)
    else
      match if Mark.isBare mark '[' then className? rest else none with
      | some (name, rest) => (spans fuel false rest).map fun (s, rest) => (.named name :: s, rest)
      | none =>
        match member? (mark :: rest) with
        | none => none
        | some (low, rest) =>
          match rest with
          | dash :: high :: after =>
            if Mark.isBare dash '-' && !Mark.isBare high ']' then
              match member? (high :: after) with
              | some (high, rest) =>
                (spans fuel false rest).map fun (s, rest) => (.range low high :: s, rest)
              | none => none
            else (spans fuel false rest).map fun (s, rest) => (.range low low :: s, rest)
          | _ => (spans fuel false rest).map fun (s, rest) => (.range low low :: s, rest)

def ofMarksWith (negations : List Char) : Nat → List Mark → Pattern
  | 0, _ => []
  | _, [] => []
  | fuel + 1, mark :: rest =>
    if mark.quoted then .char mark.char :: ofMarksWith negations fuel rest
    else
      match mark.char, rest with
      | '*', _ => .some :: ofMarksWith negations fuel rest
      | '?', _ => .one :: ofMarksWith negations fuel rest
      | '\\', next :: rest => .char next.char :: ofMarksWith negations fuel rest
      | '[', _ =>
        let negated := rest.head?.any fun mark => !mark.quoted && negations.contains mark.char
        match spans (rest.length + 1) true (if negated then rest.tail else rest) with
        | some (s, rest) => .oneOf negated s :: ofMarksWith negations fuel rest
        | none => .char '[' :: ofMarksWith negations fuel rest
      | c, _ => .char c :: ofMarksWith negations fuel rest

def ofMarks (marks : List Mark) : Pattern := ofMarksWith ['!'] (marks.length + 1) marks

def ofText (text : Octets) : Pattern := ofMarks (text.toList.map fun c => { char := c })

def accepts : Pattern → List Char → Bool
  | [], text => text.isEmpty
  | .some :: rest, text =>
    accepts rest text ||
      match text with
      | _ :: others => accepts (.some :: rest) others
      | [] => false
  | .one :: rest, _ :: text => accepts rest text
  | .char c :: rest, d :: text => c = d && accepts rest text
  | .oneOf negated spans :: rest, d :: text => (spans.any (·.has d) != negated) && accepts rest text
  | _ :: _, [] => false
termination_by items text => items.length + text.length

/-- The shortest or the longest part at the start of a text that a pattern stands for. -/
def front? (longest : Bool) (pattern : Pattern) (text : List Char) : Option Nat :=
  let lengths := List.range (text.length + 1)
  (if longest then lengths.reverse else lengths).find? fun n => accepts pattern (text.take n)

/-- How much is before the shortest or the longest part at the end of a text that a pattern stands
for. -/
def back? (longest : Bool) (pattern : Pattern) (text : List Char) : Option Nat :=
  let lengths := List.range (text.length + 1)
  (if longest then lengths else lengths.reverse).find? fun n => accepts pattern (text.drop n)

def isPattern (marks : List Mark) : Bool :=
  marks.any fun mark => !mark.quoted && ['*', '?', '['].contains mark.char

end Pattern
end Shell
end LineShell
