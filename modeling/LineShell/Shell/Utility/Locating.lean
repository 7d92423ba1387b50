import LineShell.Shell.Paths
import LineShell.Shell.Search
import LineShell.Shell.Utility.Placing

/-!
# Programs that tell about paths

`basename` and `dirname` take paths apart as texts.  `readlink`, `realpath` and `pwd` follow
links, and `which` looks for programs.
-/

namespace LineShell
namespace Shell
namespace Locating

def lineEnd (given : Given) : Octets := if given.has 'z' then "\x00" else "\n"

/-! ## Paths as texts -/

def lastName (path : Octets) : Octets :=
  let name := Placing.baseName path
  if name.isEmpty && !path.isEmpty then "/" else name

/-- A name without an ending, unless that is all of it. -/
def withoutEnding (ending name : Octets) : Octets :=
  if name != ending && !ending.isEmpty && name.endsWith ending then
    (name.dropEnd ending.length).toString
  else name

def basename : Tool := fun _ name words => do
  let shapes : OptionShapes :=
    [⟨'a', "multiple", .no⟩, ⟨'s', "suffix", .yes⟩, ⟨'z', "zero", .no⟩]
  match shapes.read false (words.length + 1) words with
  | .error text => Tool.misuse name text 1
  | .ok given =>
    let show_ := fun (ending path : Octets) =>
      Run.emit (withoutEnding ending (lastName path) ++ lineEnd given)
    let several := given.has 'a' || given.has 's'
    match given.operands with
    | [] => Tool.misuse name "missing operand" 1
    | path :: rest =>
      if several then
        given.operands.forM (show_ ((given.value? 's').getD ""))
        return 0
      else
        match rest with
        | _ :: extra :: _ => Tool.misuse name ("extra operand " ++ Quoting.plain extra) 1
        | _ =>
          show_ (rest.headD "") path
          return 0

/-- A path without its last name. -/
def around (path : Octets) : Octets :=
  let before := ((path.toList.reverse.dropWhile (· = '/')).dropWhile (· != '/')).dropWhile (· = '/')
  if !before.isEmpty then String.ofList before.reverse
  else if path.startsWith "/" then "/" else "."

def dirname : Tool := fun _ name words =>
  Tool.withOptions [⟨'z', "zero", .no⟩] 1 name words fun given => do
    if given.operands.isEmpty then Tool.misuse name "missing operand" 1
    else
      given.operands.forM fun path => Run.emit (around path ++ lineEnd given)
      return 0

/-! ## Paths without links -/

/-- How much of a path must exist. -/
inductive Existing where
  | all
  | allButLast
  | nothing
  deriving DecidableEq, Repr

/-- Names in a row after a path, where two dots take a name away. -/
def along (names : List String) (path : List String) : List String :=
  path.foldl (fun names name =>
    if name = "." then names else if name = ".." then names.tail else name :: names) names

/-- Finds where a path leads, as far as it exists; the names after that are given. -/
def resolveUpTo (tree : Tree) (here : Place) (path : Path) : Nat → List String → Location
  | 0, after => along (Tree.start here path).live after
  | n + 1, after =>
    let front := { path with names := path.names.take (n + 1), slash := false }
    match tree.reach here front with
    | .ok (.directory place) => along place.live after
    | .ok (.leaf location _) => along location after
    | .ok (.vacant place name) => along (name :: place.live) after
    | .error _ => resolveUpTo tree here path n ((path.names[n]?.getD "") :: after)

/-- The location of a path without links, or why there is none. -/
def resolve (existing : Existing) (text : Octets) : Run (Except Fault Location) := do
  let s ← get
  match Run.pathOf text with
  | .error fault => return .error fault
  | .ok path =>
    match existing with
    | .nothing => return .ok (resolveUpTo s.files.tree s.here path path.names.length [])
    | _ =>
      match s.files.tree.reach s.here { path with slash := path.slash && existing = .all } with
      | .error fault => return .error fault
      | .ok (.directory place) =>
        return if place.exists? then .ok place.live else .error .notFound
      | .ok (.leaf location _) =>
        return if path.slash then .error .notDirectory else .ok location
      | .ok (.vacant place name) =>
        return if existing = .all || !place.exists? then .error .notFound
          else .ok (name :: place.live)

def locationText (l : Location) : Octets := Octets.ofText (Location.text l)

def readlink : Tool := fun _ name words =>
  Tool.withOptions [⟨'f', "canonicalize", .no⟩, ⟨'e', "canonicalize-existing", .no⟩,
      ⟨'m', "canonicalize-missing", .no⟩, ⟨'n', "no-newline", .no⟩, ⟨'q', "quiet", .no⟩,
      ⟨'s', "silent", .no⟩, ⟨'v', "verbose", .no⟩, ⟨'z', "zero", .no⟩] 1 name words
      fun given => do
    let bare := given.has 'n' && given.operands.length ≤ 1
    if given.has 'n' && !bare then
      Tool.complain name "ignoring --no-newline with multiple arguments"
    let tell := fun (path : Octets) (fault : Fault) => do
      if given.has 'v' then Tool.fault name (Quoting.ifNeeded path) fault
      return false
    let showOne := fun text : Octets => do
      Run.emit (text ++ if bare then "" else lineEnd given)
      return true
    if given.operands.isEmpty then Tool.misuse name "missing operand" 1
    else
      Tool.each given.operands fun path => do
        match given.last? ['f', 'e', 'm'] with
        | some letter =>
          let existing := if letter = 'f' then Existing.allButLast
            else if letter = 'e' then .all else .nothing
          match ← resolve existing path with
          | .ok location => showOne (locationText location)
          | .error fault => tell path fault
        | none =>
          match ← Run.nodeAt false path with
          | .ok (.link target) => showOne (Octets.ofText target)
          | .ok _ => tell path .invalid
          | .error fault => tell path fault

def relative (base target : Location) : Octets :=
  let common := ((base.reverse.zip target.reverse).takeWhile fun (a, b) => a = b).length
  let up := List.replicate (base.length - common) ".."
  let names := up ++ target.reverse.drop common
  if names.isEmpty then "." else Octets.ofText ("/".intercalate names)

/-- The location of a path where links are names like all others, if it exists. -/
def resolveByNames (text : Octets) : Run (Except Fault Location) := do
  let s ← get
  match Run.pathOf text with
  | .error fault => return .error fault
  | .ok path => return .ok (along (Tree.start s.here path).live path.names)

def realpath : Tool := fun _ name words =>
  Tool.withOptions [⟨'e', "canonicalize-existing", .no⟩, ⟨'m', "canonicalize-missing", .no⟩,
      ⟨'L', "logical", .no⟩, ⟨'P', "physical", .no⟩, ⟨'q', "quiet", .no⟩, ⟨'s', "strip", .no⟩,
      ⟨'s', "no-symlinks", .no⟩, ⟨'z', "zero", .no⟩, ⟨'\x01', "relative-to", .yes⟩] 1 name words
      fun given => do
    let existing := match given.last? ['e', 'm'] with
      | some 'e' => Existing.all
      | some _ => .nothing
      | none => .allButLast
    let find := fun path : Octets =>
      if given.has 's' then resolveByNames path else resolve existing path
    let refuse := fun (path : Octets) (fault : Fault) => do
      if !given.has 'q' then Tool.fault name (Quoting.ifNeeded path) fault
      return false
    if given.operands.isEmpty then Tool.misuse name "missing operand" 1
    else
      let base ← match given.value? '\x01' with
        | none => pure none
        | some path => some <$> resolve existing path
      match base with
      | some (.error fault) =>
        let _ ← refuse ((given.value? '\x01').getD "") fault
        return 1
      | _ =>
        let write := fun location : Location =>
          match base with
          | some (.ok base) => relative base location
          | _ => locationText location
        Tool.each given.operands fun path => do
          match ← find path with
          | .ok location =>
            Run.emit (write location ++ lineEnd given)
            return true
          | .error fault => refuse path fault

def pwd : Tool := fun _ name words =>
  Tool.withOptions [⟨'L', "logical", .no⟩, ⟨'P', "physical", .no⟩] 1 name words fun given => do
    if !given.operands.isEmpty then Tool.complain name "ignoring non-option arguments"
    let here := (← get).here
    let way := (← Run.value? "PWD").getD ""
    let names := (Path.ofString way).names
    let plain := way.startsWith "/" && !names.contains "." && !names.contains ".."
    let leads := match ← Run.spotAt true way with
      | .ok (.directory place) => place = here
      | _ => false
    if given.last? ['L', 'P'] = some 'L' && plain && leads then
      Run.emitLine way
      return 0
    else if here.exists? then
      Run.emitLine (locationText here.live)
      return 0
    else
      Tool.complain name ("couldn't find directory entry in '..' with matching i-node")
      return 1

/-! ## Programs -/

def which : Tool := fun _ _ words => do
  let all := words.head? = some "-a"
  let names := if all then words.tail else words
  let results ← names.mapM fun name => do
    let paths := Search.candidates (← Search.current) name
    let found ← paths.filterM fun path => return (← Search.hindrance? path).isNone
    let found := if all then found else found.take 1
    found.forM Run.emitLine
    return !found.isEmpty
  return if results.all id && !names.isEmpty then 0 else 1

end Locating
end Shell
end LineShell
