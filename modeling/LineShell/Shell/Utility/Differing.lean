import LineShell.Shell.Pattern
import LineShell.Shell.Utility.Differing.Layout
import LineShell.Shell.Utility.Quantity
import LineShell.Shell.Utility.Stamping

/-!
# The program that tells differences

This is `diff`.  It compares two files line by line, or all files of two directories.
-/

namespace LineShell
namespace Shell
namespace Differing

def tell (text : Octets) : Run Unit := Run.emitLine text

/-- What is compared: a path, and what it leads to; nothing if it stands for a file that there is
not. -/
structure Subject where
  path : Octets
  node : Option Node

def Subject.isDirectory (s : Subject) : Bool := s.node.any Node.isDirectory

def kindName : Node → String
  | .directory _ => "directory"
  | .file file => if file.content.isEmpty then "regular empty file" else "regular file"
  | .link _ => "symbolic link"
  | .device _ => "character special file"

def isBinary (octets : List Char) : Bool := octets.contains '\x00'

def blame (m : Manner) (path : Octets) (fault : Fault) : Run Nat := do
  Tool.fault m.name (Quoting.ifNeeded path) fault
  return 2

def Manner.title (m : Manner) (i : Nat) (path : Octets) : Octets := (m.labels[i]?).getD path

def Manner.tellDiffer (m : Manner) (front a b : Octets) : Run Unit :=
  tell (front ++ " " ++ m.title 0 a ++ " and " ++ m.title 1 b ++ " differ")

def Manner.isLoose (m : Manner) : Bool :=
  m.ignoresEmpty || m.folds || m.stripsReturns || !m.ignored.isEmpty || m.blanks != .count

def stripReturns : List Char → List Char
  | [] => []
  | '\r' :: '\n' :: rest => '\n' :: stripReturns rest
  | c :: rest => c :: stripReturns rest

def Manner.contents (m : Manner) (below : Bool) (a b : Subject) (x y : List Char) : Run Nat := do
  let binary := !m.texts && (isBinary x || isBinary y)
  if binary || m.brief && !m.isLoose then
    if x = y then return 0
    m.tellDiffer (if m.brief then "Files" else "Binary files") a.path b.path
    return 1
  else
    let stampOf := fun (s : Subject) =>
      match s.node with
      | some (.file file) => file.stamps.changed
      | some _ => .present
      | none => 0
    let side := fun (s : Subject) (octets : List Char) =>
      { name := s.path, stamp := stampOf s
        lines := linesOf (if m.stripsReturns then stripReturns octets else octets) : Side }
    let left := side a x
    let right := side b y
    let edits := m.edits left.lines right.lines
    let differs := edits.any (!·.ignored)
    if m.brief then
      if differs then m.tellDiffer "Files" a.path b.path
    else if differs || m.style = .columns && !m.skipsCommon then
      if below then
        tell ("diff" ++ m.options ++ " " ++ headName a.path ++ " " ++ headName b.path)
      Run.emit (m.write left right edits)
    if !m.style.tellsEnd && !m.brief then
      let incomplete := [left, right].filter fun s => lacksEnd s.lines
      for s in incomplete do
        Tool.complain m.name (s.name ++ ": No newline at end of file\n")
      if !incomplete.isEmpty then return 2
    return if differs then 1 else 0

def bytesOf (s : Subject) : Run (Except Fault (List Char)) := do
  match s.node with
  | none => return .ok []
  | some _ => Tool.input s.path

def lookUp (m : Manner) (path : Octets) : Run (Except Fault Node) := do
  if path = "-" then
    match ← Run.channel? 0 with
    | some (_, .file location ..) =>
      return ((← get).files.tree.find? location).elim (.error .badDescriptor) .ok
    | some _ => return .ok (.device .null)
    | none => return .error .badDescriptor
  else Run.nodeAt m.follows path

def areSame (follows : Bool) (a b : Octets) : Run Bool := do
  let locationOf := fun path => do
    if path = "-" then
      match ← Run.channel? 0 with
      | some (_, .file location ..) => return some location
      | _ => return none
    else
      let found : Except Fault Location ← Stamping.locationAt follows path
      return found.toOption
  match ← locationOf a, ← locationOf b with
  | some x, some y =>
    if x = y then return true
    match (← get).files.tree.find? x, (← get).files.tree.find? y with
    | some (.file p), some (.file q) => return p.twin != 0 && p.twin = q.twin
    | _, _ => return false
  | _, _ => return a = "-" && b = "-"

def inside (directory name : Octets) : Octets :=
  if directory.endsWith "/" then directory ++ name else directory ++ "/" ++ name

def Manner.namesIn (m : Manner) (s : Subject) : Run (Except Fault (List Octets)) := do
  match s.node with
  | none => return .ok []
  | some _ =>
    let skipped := fun name => m.excluded.any fun pattern =>
      Pattern.accepts (Pattern.ofText pattern) name.toList
    return (← Run.namesIn s.path).map fun names => names.filter (!skipped ·)

/-- Compares two files or directories, so deep at most.  The directories around them are given, if
they were met in directories. -/
def Manner.compare (m : Manner) : Nat → Option (Octets × Octets) → Subject → Subject → Run Nat
  | 0, _, _, _ => return 0
  | depth + 1, around, a, b => do
    match a.node, b.node with
    | none, none => return 0
    | _, _ =>
      let bothThere := a.node.isSome && b.node.isSome
      let quiet := m.style != .columns || m.skipsCommon
      if bothThere && quiet && (← areSame m.follows a.path b.path) then return ← same a b
      if a.isDirectory && b.isDirectory then
        if around.isSome && !m.recursive then
          tell ("Common subdirectories: " ++ a.path ++ " and " ++ b.path)
          return 0
        directories depth a b
      else if !bothThere && (a.isDirectory || b.isDirectory) then
        if m.recursive && (m.newFile || m.newFirst && a.node.isNone) then directories depth a b
        else
          let (x, y) := around.getD ("", "")
          only (if a.node.isNone then y else x) (lastName a.path)
      else
        match a.node, b.node with
        | some p, some q =>
          if a.isDirectory || b.isDirectory || around.isSome && !(plain p && plain q) then
            tell ("File " ++ m.title 0 a.path ++ " is a " ++ kindName p ++ " while file " ++
              m.title 1 b.path ++ " is a " ++ kindName q)
            return 1
          match p, q with
          | .link s, .link t =>
            if s = t then return ← same a b
            tell ("Symbolic links " ++ a.path ++ " and " ++ b.path ++ " differ")
            return 1
          | .link _, _ | _, .link _ =>
            tell ("File " ++ m.title 0 a.path ++ " is a " ++ kindName p ++ " while file " ++
              m.title 1 b.path ++ " is a " ++ kindName q)
            return 1
          | _, _ => files around a b
        | _, _ => files around a b
where
  plain : Node → Bool
    | .file _ | .link _ => true
    | _ => false
  lastName (path : Octets) : Octets := ((path.splitOn "/").getLast?).getD path
  only (directory name : Octets) : Run Nat := do
    tell ("Only in " ++ directory ++ ": " ++ name)
    return 1
  same (a b : Subject) : Run Nat := do
    if m.tellsSame && !a.isDirectory then
      tell ("Files " ++ m.title 0 a.path ++ " and " ++ m.title 1 b.path ++ " are identical")
    return 0
  files (around : Option (Octets × Octets)) (a b : Subject) : Run Nat := do
    let x ← bytesOf a
    let y ← if a.path = "-" && b.path = "-" then pure x else bytesOf b
    match x, y with
    | .ok x, .ok y =>
      let status ← m.contents around.isSome a b x y
      if status = 0 then same a b else return status
    | .error p, .error q =>
      let _ ← blame m a.path p
      blame m b.path q
    | .error p, _ => blame m a.path p
    | _, .error q => blame m b.path q
  directories (depth : Nat) (a b : Subject) : Run Nat := do
    match ← m.namesIn a, ← m.namesIn b with
    | .ok x, .ok y =>
      let all := ((x ++ y).mergeSort fun s t => !(t < s)).eraseDups
      let wanted := all.filter fun name => m.firstName.all fun first => !(name < first)
      let statuses ← wanted.mapM fun name => do
        let inX := x.contains name
        let inY := y.contains name
        if !(inX && inY || m.newFile || m.newFirst && inY) then
          only (if inX then a.path else b.path) name
        else
          let p := inside a.path name
          let q := inside b.path name
          let look := fun (there : Bool) (path : Octets) => do
            if there then
              let found : Except Fault Node ← lookUp m path
              return found.map some
            else return .ok none
          match ← look inX p, ← look inY q with
          | .ok n, .ok o => m.compare depth (some (a.path, b.path)) ⟨p, n⟩ ⟨q, o⟩
          | .error fault, .ok _ => blame m p fault
          | .ok _, .error fault => blame m q fault
          | .error f, .error g =>
            let _ ← blame m p f
            blame m q g
      return statuses.foldl max 0
    | .error p, .error q =>
      let _ ← blame m a.path p
      blame m b.path q
    | .error p, _ => blame m a.path p
    | _, .error q => blame m b.path q

def depthLimit : Nat := 200

def Manner.operands (m : Manner) (a b : Octets) : Run Nat := do
  let x ← lookUp m a
  let y ← if a = b then pure x else lookUp m b
  match x, y with
  | .error .notFound, .ok node =>
    if (m.newFile || m.newFirst) && !(node.isDirectory && !m.recursive) then
      m.compare depthLimit none ⟨a, none⟩ ⟨b, some node⟩
    else blame m a .notFound
  | .ok node, .error .notFound =>
    if m.newFile && !(node.isDirectory && !m.recursive) then
      m.compare depthLimit none ⟨a, some node⟩ ⟨b, none⟩
    else blame m b .notFound
  | .error p, .error q =>
    let _ ← blame m a p
    blame m b q
  | .error p, .ok _ => blame m a p
  | .ok _, .error q => blame m b q
  | .ok p, .ok q =>
    if p.isDirectory = q.isDirectory then m.compare depthLimit none ⟨a, some p⟩ ⟨b, some q⟩
    else
      let (directory, file) := if p.isDirectory then (a, b) else (b, a)
      if file = "-" then
        Tool.complain m.name "cannot compare '-' to a directory"
        return 2
      let name := ((file.splitOn "/").filter (· != "")).getLast?.getD file
      let path := inside directory name
      match ← lookUp m path with
      | .error fault => blame m path fault
      | .ok node =>
        let other : Subject := ⟨path, some node⟩
        if p.isDirectory then m.compare depthLimit none other ⟨b, some q⟩
        else m.compare depthLimit none ⟨a, some p⟩ other

/-! ## Options -/

def pointToHelp (name : Octets) : Run Unit :=
  Tool.complain name ("Try '" ++ name ++ " --help' for more information.")

def misuse {α : Type} (name text : Octets) : Run (Option α) := do
  Tool.complain name text
  pointToHelp name
  return none

structure Reading where
  manner : Manner
  style : Option Style := none
  /-- Lines of context that were asked for by digits. -/
  digits : Option Nat := none
  explicit : Bool := false
  fromFile : Option Octets := none
  toFile : Option Octets := none
  functions : Bool := false

def Reading.choose (r : Reading) (style : Style) : Run (Option Reading) := do
  match r.style with
  | some other =>
    if other = style then return some r
    misuse r.manner.name "conflicting output style options"
  | none => return some { r with style := some style }

def Reading.withContext (r : Reading) (style : Style) (least : Nat) (text : Option Octets) :
    Run (Option Reading) := do
  match text with
  | none =>
    let m := { r.manner with context := max r.manner.context least }
    Reading.choose { r with manner := m } style
  | some text =>
    match Quantity.readSigned text with
    | none => misuse r.manner.name ("invalid context length '" ++ text ++ "'")
    | some n =>
      if n < 0 then misuse r.manner.name ("invalid context length '" ++ text ++ "'")
      else
        let m := { r.manner with context := max r.manner.context (min n.toNat 1000000) }
        Reading.choose { r with manner := m, explicit := true } style

def Reading.number (r : Reading) (what : String) (least : Nat) (text : Octets)
    (set : Nat → Reading) : Run (Option Reading) :=
  match Quantity.read "" text with
  | .fine n =>
    if least ≤ n then return some (set (min n 1000000))
    else misuse r.manner.name ("invalid " ++ what ++ " '" ++ text ++ "'")
  | .tooLarge => return some (set 1000000)
  | .malformed => misuse r.manner.name ("invalid " ++ what ++ " '" ++ text ++ "'")

def Reading.expression (r : Reading) (text : Octets) (set : Regex → Reading) :
    Run (Option Reading) := do
  match Regex.ofText false true text.toList with
  | .ok re => return some (set re)
  | .error fault =>
    Tool.complain r.manner.name (text ++ ": " ++ fault.message)
    return none

/-- Takes an option in; none after a complaint. -/
def Reading.take (r : Reading) (option : GivenOption) : Run (Option Reading) := do
  let m := r.manner
  let text := option.2.getD ""
  let keep := fun (m : Manner) => return some { r with manner := m }
  let widen := fun (blanks : Blanks) =>
    keep { m with blanks := if m.blanks.rank < blanks.rank then blanks else m.blanks }
  match option.1 with
  | 'a' => keep { m with texts := true }
  | 'b' => widen .amount
  | 'Z' => widen (if m.blanks = .tabs then .tabsAndTrailing else .trailing)
  | 'E' => widen (if m.blanks = .trailing then .tabsAndTrailing else .tabs)
  | 'w' => keep { m with blanks := .all }
  | 'B' => keep { m with ignoresEmpty := true }
  | 'c' => r.withContext .context 3 none
  | 'C' => r.withContext .context 3 option.2
  | 'u' => r.withContext .unified 3 none
  | 'U' => r.withContext .unified 3 option.2
  | 'd' => keep { m with thorough := true }
  | 'e' => r.choose .script
  | 'f' => r.choose .forward
  | 'n' => r.choose .counted
  | 'y' => r.choose .columns
  | '\x10' => r.choose .normal
  | 'F' => r.expression text fun re => { r with manner := { m with heading := some re } }
  | 'p' =>
    match Regex.ofText false true "^[[:alpha:]$_]".toList with
    | .ok re => return some { r with manner := { m with heading := some re }, functions := true }
    | .error _ => return some r
  | 'i' => keep { m with folds := true }
  | 'I' => r.expression text fun re => { r with manner := { m with ignored := m.ignored ++ [re] } }
  | 'L' =>
    if 2 ≤ m.labels.length then
      Tool.complain m.name "too many file label options"
      return none
    keep { m with labels := m.labels ++ [text] }
  | 'N' => keep { m with newFile := true }
  | 'P' => keep { m with newFirst := true }
  | 'q' => keep { m with brief := true }
  | 'r' => keep { m with recursive := true }
  | 's' => keep { m with tellsSame := true }
  | 'S' => keep { m with firstName := some text }
  | 't' => keep { m with expands := true }
  | 'T' => keep { m with initialTab := true }
  | 'W' => r.number "width" 1 text fun width => { r with manner := { m with width } }
  | 'x' => keep { m with excluded := m.excluded ++ [text] }
  | 'X' =>
    match ← Tool.input text with
    | .ok octets =>
      let lines := (Tool.lines octets).map fun line => String.ofList line
      keep { m with excluded := m.excluded ++ lines.filter (· != "") }
    | .error fault =>
      let _ ← blame m text fault
      return none
  | '\x11' => r.number "tabsize" 1 text fun tab => { r with manner := { m with tab } }
  | '\x12' => keep { m with stripsReturns := true }
  | '\x13' => keep { m with bareEmpty := true }
  | '\x14' => keep { m with skipsCommon := true }
  | '\x15' => keep { m with leftColumn := true }
  | '\x16' => r.number "horizon length" 0 text fun horizon =>
      { r with manner := { m with horizon := max m.horizon horizon } }
  | '\x17' => keep { m with follows := false }
  | '\x18' => return some { r with fromFile := some text }
  | '\x19' => return some { r with toFile := some text }
  | c =>
    if c.isDigit then
      return some { r with digits := some (10 * r.digits.getD 0 + (c.toNat - '0'.toNat)) }
    else return some r

def Reading.takeAll (r : Reading) : List GivenOption → Run (Option Reading)
  | [] => return some r
  | option :: rest => do
    match ← r.take option with
    | some r => r.takeAll rest
    | none => return none

def shapes : OptionShapes :=
  ("0123456789".toList.map fun c => ⟨c, "", .no⟩) ++
  [⟨'a', "text", .no⟩, ⟨'b', "ignore-space-change", .no⟩, ⟨'B', "ignore-blank-lines", .no⟩,
   ⟨'c', "", .no⟩, ⟨'C', "context", .maybe⟩, ⟨'d', "minimal", .no⟩, ⟨'e', "ed", .no⟩,
   ⟨'E', "ignore-tab-expansion", .no⟩, ⟨'f', "forward-ed", .no⟩,
   ⟨'F', "show-function-line", .yes⟩, ⟨'h', "", .no⟩, ⟨'H', "speed-large-files", .no⟩,
   ⟨'i', "ignore-case", .no⟩, ⟨'I', "ignore-matching-lines", .yes⟩, ⟨'L', "label", .yes⟩,
   ⟨'n', "rcs", .no⟩, ⟨'N', "new-file", .no⟩, ⟨'p', "show-c-function", .no⟩,
   ⟨'P', "unidirectional-new-file", .no⟩, ⟨'q', "brief", .no⟩, ⟨'r', "recursive", .no⟩,
   ⟨'s', "report-identical-files", .no⟩, ⟨'S', "starting-file", .yes⟩, ⟨'t', "expand-tabs", .no⟩,
   ⟨'T', "initial-tab", .no⟩, ⟨'u', "", .no⟩, ⟨'U', "unified", .maybe⟩, ⟨'v', "version", .no⟩,
   ⟨'w', "ignore-all-space", .no⟩, ⟨'W', "width", .yes⟩, ⟨'x', "exclude", .yes⟩,
   ⟨'X', "exclude-from", .yes⟩, ⟨'y', "side-by-side", .no⟩, ⟨'Z', "ignore-trailing-space", .no⟩,
   ⟨'\x10', "normal", .no⟩, ⟨'\x11', "tabsize", .yes⟩, ⟨'\x12', "strip-trailing-cr", .no⟩,
   ⟨'\x13', "suppress-blank-empty", .no⟩, ⟨'\x14', "suppress-common-lines", .no⟩,
   ⟨'\x15', "left-column", .no⟩, ⟨'\x16', "horizon-lines", .yes⟩, ⟨'\x17', "no-dereference", .no⟩,
   ⟨'\x18', "from-file", .yes⟩, ⟨'\x19', "to-file", .yes⟩, ⟨'\x1a', "color", .maybe⟩,
   ⟨'\x1b', "ignore-file-name-case", .no⟩, ⟨'\x1b', "no-ignore-file-name-case", .no⟩,
   OptionShapes.help]

def optionWords (words operands : List Octets) : List Octets :=
  match words, operands with
  | [], _ => []
  | word :: words, operand :: operands =>
    if word = operand then optionWords words operands
    else word :: optionWords words (operand :: operands)
  | word :: words, [] => word :: optionWords words []

def Reading.settled (r : Reading) : Manner :=
  let style := r.style.getD (if r.functions then .context else .normal)
  let m := r.manner
  let context := if r.style.isNone && r.functions && r.digits.isNone then max m.context 3
    else m.context
  let context := match r.digits, style with
    | some n, .context | some n, .unified => if context < n || !r.explicit then n else context
    | _, _ => context
  { m with style, context, horizon := max m.horizon context }

def eachPair (pairs : List (Octets × Octets)) (m : Manner) : Run Nat := do
  let statuses ← pairs.mapM fun (a, b) => m.operands a b
  return statuses.foldl max 0

def diff : Tool := fun _ name words => do
  -- Two of the short options take a value where their long names may do without one.
  let short := shapes.map fun s => if s.letter = 'C' || s.letter = 'U' then
      { s with long := "", valued := .yes } else s
  let long : OptionShapes := [⟨'C', "context", .maybe⟩, ⟨'U', "unified", .maybe⟩]
  match OptionShapes.read (short ++ long) true (words.length + 1) words with
  | .error text =>
    let _ ← misuse (α := Nat) name text
    return 2
  | .ok given =>
    if given.has OptionShapes.help.letter then
      Tool.showUsage name
      return 0
    if given.has 'v' then
      Tool.showRelease name
      return 0
    let options := String.join ((optionWords words given.operands).map fun word =>
      " " ++ Quoting.ifSpecial word)
    let some r ← Reading.takeAll { manner := { name, options } } given.options | return 2
    let m := r.settled
    match r.fromFile, r.toFile with
    | some _, some _ =>
      Tool.complain name "--from-file and --to-file both specified"
      return 2
    | some file, none => eachPair (given.operands.map fun other => (file, other)) m
    | none, some file => eachPair (given.operands.map fun other => (other, file)) m
    | none, none =>
      match given.operands with
      | [a, b] => m.operands a b
      | _ :: _ :: extra :: _ =>
        let _ ← misuse (α := Nat) name ("extra operand '" ++ extra ++ "'")
        return 2
      | few =>
        let last := few.getLast?.getD ((optionWords words few).getLast?.getD name)
        let _ ← misuse (α := Nat) name ("missing operand after '" ++ last ++ "'")
        return 2

end Differing
end Shell
end LineShell
