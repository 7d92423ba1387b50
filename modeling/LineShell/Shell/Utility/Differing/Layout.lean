import LineShell.Shell.Utility.Differing.Comparison

/-!
# Writing differences

Every style writes the hunks one after the other.  A line that has no end is followed by a remark
that says so.
-/

namespace LineShell
namespace Shell
namespace Differing

/-! ## Lines -/

def Manner.textOf (m : Manner) (line : List Char) : List Char :=
  if m.expands then expandTabs m.tab 0 line else line

def Manner.flagged (m : Manner) (flag : String) (line : List Char) : Octets :=
  let bare := m.bareEmpty && line = ['\n']
  let front := if flag = "" then ""
    else if bare then (if flag = " " then "" else flag)
    else flag ++ (if m.initialTab then "\t" else " ")
  let remark := if flag != "" && !isComplete line then "\n\\ No newline at end of file\n" else ""
  front ++ String.ofList (m.textOf line) ++ remark

def Manner.marked (m : Manner) (flag : String) (line : List Char) : Octets :=
  let bare := m.bareEmpty && line = ['\n'] && flag = " "
  let tab := if m.initialTab && !(m.bareEmpty && line = ['\n']) then "\t" else ""
  let front := if bare then "" else if flag = " " && m.initialTab then "\t" else flag ++ tab
  let remark := if isComplete line then "" else "\n\\ No newline at end of file\n"
  front ++ String.ofList (m.textOf line) ++ remark

def Manner.flaggedAll (m : Manner) (flag : String) (lines : List (List Char)) : Octets :=
  String.join (lines.map (m.flagged flag))

/-! ## Places -/

/-- Writes a number of lines, where a comma stands between the first and the last. -/
def range (first count : Nat) : String :=
  let last := Numeral.decimal (first + count : Nat)
  if count ≤ 1 then last else Numeral.decimal (first + 1 : Nat) ++ "," ++ last

/-- Writes the first line and how many there are. -/
def span (first count : Nat) : String :=
  if count = 0 then Numeral.decimal (first : Nat) ++ ",0"
  else if count = 1 then Numeral.decimal (first + 1 : Nat)
  else Numeral.decimal (first + 1 : Nat) ++ "," ++ Numeral.decimal (count : Nat)

def letterOf (deleted inserted : Nat) : String :=
  if inserted = 0 then "d" else if deleted = 0 then "a" else "c"

def counts (hunk : List Edit) : Bool := !hunk.all (·.ignored)

/-! ## Styles -/

def Manner.normal (m : Manner) (x y : Side) (e : Edit) : Octets :=
  range e.line0 e.deleted ++ letterOf e.deleted e.inserted ++ range e.line1 e.inserted ++ "\n" ++
    m.flaggedAll "<" (slice x.lines e.line0 e.deleted) ++
    (if e.deleted = 0 || e.inserted = 0 then "" else "---\n") ++
    m.flaggedAll ">" (slice y.lines e.line1 e.inserted)

/-- Lines of a script, which end with a dot.  A line that is a dot itself ends them early, and
loses a second dot afterwards. -/
def Manner.inserted (m : Manner) : Bool → List (List Char) → Octets
  | open_, [] => if open_ then ".\n" else ""
  | open_, line :: rest =>
    let start := if open_ then "" else "a\n"
    if line = ['.', '\n'] then start ++ "..\n.\ns/.//\n" ++ m.inserted false rest
    else
      let stop := if isComplete line then "" else "\n"
      start ++ m.flagged "" line ++ stop ++ m.inserted true rest

def Manner.scripted (m : Manner) (_ y : Side) (e : Edit) : Octets :=
  range e.line0 e.deleted ++ letterOf e.deleted e.inserted ++ "\n" ++
    if e.inserted = 0 then "" else m.inserted true (slice y.lines e.line1 e.inserted)

def Manner.forwarded (m : Manner) (_ y : Side) (e : Edit) : Octets :=
  letterOf e.deleted e.inserted ++ (range e.line0 e.deleted).replace "," " " ++ "\n" ++
    if e.inserted = 0 then ""
    else
      String.join ((slice y.lines e.line1 e.inserted).map fun line =>
        m.flagged "" line ++ if isComplete line then "" else "\n") ++ ".\n"

def Manner.counted (m : Manner) (_ y : Side) (e : Edit) : Octets :=
  let number := fun n : Nat => Numeral.decimal (n : Nat)
  (if e.deleted = 0 then "" else "d" ++ number (e.line0 + 1) ++ " " ++ number e.deleted ++ "\n") ++
    if e.inserted = 0 then ""
    else "a" ++ number (e.line0 + e.deleted) ++ " " ++ number e.inserted ++ "\n" ++
      String.join ((slice y.lines e.line1 e.inserted).map (m.flagged ""))

/-- The text of a heading: a blank, and up to forty bytes without blanks around them. -/
def headingText (line : List Char) : Octets :=
  let body := ((line.filter (· != '\n')).dropWhile isSpace).take 40
  " " ++ String.ofList (trimEnd body)

/-- The last heading in front of a line. -/
def Manner.headingBefore (m : Manner) (x : Side) (first : Nat) : Octets :=
  match m.heading with
  | none => ""
  | some re =>
    let fits := fun line : List Char =>
      (Regex.find? false re (line.filter (· != '\n')).toArray 0).isSome
    match (x.lines.extract 0 first).toList.reverse.find? fits with
    | some line => headingText line
    | none => ""

def Manner.unifiedBody (m : Manner) (x y : Side) (i last : Nat) : List Edit → Octets
  | [] => String.join ((slice x.lines i (last - i)).map (m.marked " "))
  | e :: rest =>
    String.join ((slice x.lines i (e.line0 - i)).map (m.marked " ")) ++
      String.join ((slice x.lines e.line0 e.deleted).map (m.marked "-")) ++
      String.join ((slice y.lines e.line1 e.inserted).map (m.marked "+")) ++
      m.unifiedBody x y (e.line0 + e.deleted) last rest

def Manner.unified (m : Manner) (x y : Side) (hunk : List Edit) : Octets :=
  let e := (extentOf hunk).widen m.context x.lines.size y.lines.size
  "@@ -" ++ span e.first0 e.count0 ++ " +" ++ span e.first1 e.count1 ++ " @@" ++
    m.headingBefore x e.first0 ++ "\n" ++ m.unifiedBody x y e.first0 (e.first0 + e.count0) hunk

/-- The flag of a line in a hunk of one file; the other file's part of a change makes it a change.
-/
def flagOf (single : String) (i : Nat) (changes : List (Nat × Nat × Nat)) : String :=
  match changes.find? fun (first, count, _) => first ≤ i && i < first + count with
  | some (_, _, others) => if others = 0 then single else "!"
  | none => " "

def Manner.contextual (m : Manner) (x y : Side) (hunk : List Edit) : Octets :=
  let e := (extentOf hunk).widen m.context x.lines.size y.lines.size
  let side := fun (lines : Array (List Char)) (first count : Nat) (single : String)
      (changes : List (Nat × Nat × Nat)) =>
    String.join ((slice lines first count).zipIdx.map fun (line, i) =>
      m.flagged (flagOf single (first + i) changes) line)
  let deletes := hunk.any fun e => e.deleted != 0
  let inserts := hunk.any fun e => e.inserted != 0
  "***************" ++ m.headingBefore x e.first0 ++ "\n*** " ++ range e.first0 e.count0 ++
    " ****\n" ++
    (if deletes then side x.lines e.first0 e.count0 "-"
      (hunk.map fun e => (e.line0, e.deleted, e.inserted)) else "") ++
    "--- " ++ range e.first1 e.count1 ++ " ----\n" ++
    (if inserts then side y.lines e.first1 e.count1 "+"
      (hunk.map fun e => (e.line1, e.inserted, e.deleted)) else "")

/-! ## Columns -/

/-- How wide half a line is, and where the second half begins. -/
def Manner.halves (m : Manner) : Nat × Nat :=
  let tab := if m.expands then 1 else m.tab
  let unexpanded := (m.width + tab + 3) / (2 * tab) * tab
  let half := min (unexpanded - 3) (m.width - unexpanded)
  (half, if half = 0 then m.width else unexpanded)

/-- Tabs up to a column as far as they go, and blanks for the rest. -/
def Manner.tabTo (m : Manner) : Nat → Nat → Nat → List Char
  | 0, _, _ => []
  | fuel + 1, column, goal =>
    let stop := column + m.tab - column % m.tab
    if !m.expands && stop ≤ goal then '\t' :: m.tabTo fuel stop goal
    else List.replicate (goal - column) ' '

/-- What is known while half a line is written. -/
structure Half where
  taken : Nat := 0
  written : Nat := 0
  text : List Char := []

/-- Writes half a line up to a bound, beginning at a column; the text and the column it ends in. -/
def Manner.halfLine (m : Manner) (indent bound : Nat) (line : List Char) : List Char × Nat :=
  let step := fun (h : Half) (c : Char) =>
    match c with
    | '\t' =>
      let gap := m.tab - h.taken % m.tab
      let stop := h.written + gap
      let h' := { h with taken := h.taken + gap }
      if h.taken != h.written then h'
      else if m.expands then
        let stop := min stop bound
        { h' with text := List.replicate (stop - h.written) ' ' ++ h.text
                  written := max h.written stop }
      else if stop < bound then { h' with text := c :: h.text, written := stop } else h'
    | '\r' =>
      { text := (m.tabTo (indent + 1) 0 indent).reverse ++ c :: h.text : Half }
    | '\x08' =>
      if h.taken = 0 then h
      else
        let h := { h with taken := h.taken - 1 }
        if bound ≤ h.taken then h
        else if h.written ≤ h.taken then
          { h with text := List.replicate (h.taken - h.written) ' ' ++ h.text, written := h.taken }
        else { h with text := c :: h.text, written := h.taken }
    | '\n' => h
    | c =>
      if Quoting.prints c then
        let h' := { h with taken := h.taken + 1 }
        if h.taken < bound then { h' with text := c :: h.text, written := h'.taken } else h'
      else { h with text := c :: h.text }
  let h := line.foldl step {}
  (h.text.reverse, h.written)

/-- Writes a line of two halves with a sign between them. -/
def Manner.pair (m : Manner) (left : Option (List Char)) (sign : Char)
    (right : Option (List Char)) : Octets :=
  let (half, second) := m.halves
  let (text, column) := match left with
    | some line => m.halfLine 0 half line
    | none => ([], 0)
  let leftEnds := left.any isComplete
  let rightEnds := right.any isComplete
  let sign := if sign = '|' && leftEnds != rightEnds then (if leftEnds then '/' else '\\') else sign
  let middle := (half + second - 1) / 2
  let (text, column) := if sign = ' ' then (text, column)
    else (text ++ m.tabTo (middle + 1) column middle ++ [sign], middle + 1)
  let text := match right with
    | some line =>
      if line.head? = some '\n' then text
      else text ++ m.tabTo (second + 1) column second ++ (m.halfLine second half line).1
    | none => text
  String.ofList (text ++ if leftEnds || rightEnds then ['\n'] else [])

def Manner.commonPairs (m : Manner) (x y : Side) (i i' j j' : Nat) : Octets :=
  if m.skipsCommon then ""
  else
    let lefts := slice x.lines i (i' - i)
    let rights := slice y.lines j (j' - j)
    if m.leftColumn then String.join (lefts.map fun line => m.pair (some line) '(' none)
    else
      let both := min lefts.length rights.length
      String.join ((lefts.zip rights).map fun (a, b) => m.pair (some a) ' ' (some b)) ++
        String.join ((rights.drop both).map fun line => m.pair none ')' (some line)) ++
        String.join ((lefts.drop both).map fun line => m.pair (some line) '(' none)

def Manner.columns (m : Manner) (x y : Side) (i j : Nat) : List Edit → Octets
  | [] => m.commonPairs x y i x.lines.size j y.lines.size
  | e :: rest =>
    if e.ignored then m.columns x y i j rest
    else
      let lefts := slice x.lines e.line0 e.deleted
      let rights := slice y.lines e.line1 e.inserted
      let both := min lefts.length rights.length
      m.commonPairs x y i e.line0 j e.line1 ++
        String.join ((lefts.zip rights).map fun (a, b) => m.pair (some a) '|' (some b)) ++
        String.join ((rights.drop both).map fun line => m.pair none '>' (some line)) ++
        String.join ((lefts.drop both).map fun line => m.pair (some line) '<' none) ++
        m.columns x y (e.line0 + e.deleted) (e.line1 + e.inserted) rest

/-! ## Everything -/

/-- A name as it stands at the head of a comparison. -/
def headName (name : Octets) : Octets :=
  let chars := name.toList
  if chars.any fun c => c = ' ' || c = '"' || c = '\\' || c.toNat < 32 || c.toNat = 127 then
    let escape := fun c : Char =>
      if c = '"' || c = '\\' then ['\\', c] else if c = ' ' || Quoting.prints c then [c]
      else Quoting.escape c
    String.ofList ('"' :: chars.flatMap escape ++ ['"'])
  else name

def Manner.head (m : Manner) (x y : Side) : Octets :=
  let isUnified := m.style = .unified
  let format := if isUnified then "%Y-%m-%d %H:%M:%S.%N %z" else "%a %b %e %T %Y"
  let line := fun (mark : String) (side : Side) (label : Option Octets) =>
    mark ++ " " ++ (match label with
      | some label => label
      | none => headName side.name ++ "\t" ++ (Date.ofMoment side.stamp).format format) ++ "\n"
  let (first, second) := if isUnified then ("---", "+++") else ("***", "---")
  line first x m.labels[0]? ++ line second y m.labels[1]?

def Manner.write (m : Manner) (x y : Side) (edits : List Edit) : Octets :=
  let each := fun (write : Edit → Octets) => String.join ((edits.filter (!·.ignored)).map write)
  let hunks := (group m.context edits).filter counts
  match m.style with
  | .normal => each (m.normal x y)
  | .script => String.join (((edits.filter (!·.ignored)).reverse).map (m.scripted x y))
  | .forward => each (m.forwarded x y)
  | .counted => each (m.counted x y)
  | .unified => if hunks.isEmpty then "" else m.head x y ++ String.join (hunks.map (m.unified x y))
  | .context =>
    if hunks.isEmpty then "" else m.head x y ++ String.join (hunks.map (m.contextual x y))
  | .columns => m.columns x y 0 0 edits

end Differing
end Shell
end LineShell
