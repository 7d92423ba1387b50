import LineShell.Shell.Formatting
import LineShell.Shell.Processes
import LineShell.Shell.Utility.Finding.Reading
import LineShell.Shell.Utility.Listing
import LineShell.Shell.Utility.Starting

/-!
# The program that finds files

`find` walks through directories from its operands on and asks an expression about whatever it
meets.
-/

namespace LineShell
namespace Shell
namespace Finding

structure Found where
  path : Octets
  /-- The operand that it was found below. -/
  start : Octets
  depth : Nat
  node : Node
  stamps : Stamps
  location : Option Location

/-- What is known while directories are walked through. -/
structure Progress where
  status : Nat := 0
  stopped : Bool := false
  /-- Whether the directory that was met last is passed over. -/
  pruned : Bool := false
  /-- The files for programs that run once, the last one first. -/
  gathered : List (Order × Octets × Octets) := []

abbrev Search := StateT Progress Run

/-! ## About files -/

def letterOf : Node → Char
  | .directory _ => 'd'
  | .file _ => 'f'
  | .link _ => 'l'
  | .device _ => 'c'

/-- The letter of a kind of file in front of the letters of its mode. -/
def modeLetter (node : Node) : Char := if letterOf node = 'f' then '-' else letterOf node

def lastName (path : Octets) : Octets :=
  let trimmed := (path.toList.reverse.dropWhile (· = '/'))
  if trimmed.isEmpty then (if path.isEmpty then "" else "/")
  else String.ofList (trimmed.takeWhile (· != '/')).reverse

/-- The last name of a path with the slashes behind it. -/
def namePart (path : Octets) : Octets :=
  let back := path.toList.reverse
  let slashes := back.takeWhile (· = '/')
  let name := (back.drop slashes.length).takeWhile (· != '/')
  if name.isEmpty then (if path.isEmpty then "" else "/")
  else String.ofList (name.reverse ++ if slashes.isEmpty then [] else ['/'])

/-- What is in front of the last name of a path. -/
def frontOf (path : Octets) : Octets :=
  if !path.toList.contains '/' then "."
  else
    let trimmed := path.toList.reverse.dropWhile (· = '/')
    let front := (trimmed.dropWhile (· != '/')).dropWhile (· = '/')
    if trimmed.isEmpty then ""
    else String.ofList front.reverse

def fitsPattern (folds : Bool) (pattern text : Octets) : Bool :=
  let fold := fun s : Octets => if folds then String.ofList (s.toList.map Char.toLower) else s
  let marks : List Mark := (fold pattern).toList.map fun c => { char := c }
  Pattern.accepts (Pattern.ofMarksWith ['!', '^'] (marks.length + 1) marks) (fold text).toList

def sizeOf : Node → Nat
  | .file file => file.content.length
  | .link target => (Octets.ofText target).length
  | .directory _ => 4096
  | .device _ => 0

def stampIn (stamp : Stamp) (f : Found) : Moment :=
  match stamp with
  | .changed => f.stamps.changed
  | .read => f.stamps.read
  | .noted => Moment.present

def Found.entry (f : Found) : Listing.Entry :=
  { name := lastName f.path, path := f.path, node := f.node, stamps := f.stamps,
    location := f.location }

/-! ## Formats -/

def fineSeconds (d : Date) : String :=
  let digits := Numeral.decimal (d.nano : Nat)
  "." ++ String.ofList (List.replicate (9 - digits.length) '0') ++ digits ++ "0"

def writeMoment (moment : Moment) (letter : Char) : String :=
  let d := Date.ofMoment moment
  let fine := fineSeconds d
  match letter with
  | '@' => d.format "%s" ++ fine
  | '+' => d.format "%Y-%m-%d+%H:%M:%S" ++ fine
  | 'S' => d.format "%S" ++ fine
  | 'T' | 'X' => d.format "%H:%M:%S" ++ fine
  | 'r' => d.format "%I:%M:%S %p"
  | c => d.format (String.ofList ['%', c])

def writePlain (moment : Moment) : String :=
  let d := Date.ofMoment moment
  d.format "%a %b %e %H:%M:%S" ++ fineSeconds d ++ d.format " %Y"

def describe (tree : Tree) (f : Found) (target : Option Node) (letter : Char)
    (second : Option Char) : Octets :=
  let number := fun n : Nat => Numeral.decimal n
  match letter with
  | 'p' => f.path
  | 'f' => namePart f.path
  | 'h' => frontOf f.path
  | 'H' => f.start
  | 'P' =>
    let below := f.path.toList.drop f.start.length
    String.ofList (if below.head? = some '/' then below.drop 1 else below)
  | 's' => number (sizeOf f.node)
  | 'b' => number (Listing.spaceOf f.node / 512)
  | 'k' => number (Listing.spaceOf f.node / 1024)
  | 'S' =>
    let size := sizeOf f.node
    if size = 0 then "1" else Fraction.general false 6 (Listing.spaceOf f.node) size
  | 'y' => String.singleton (letterOf f.node)
  | 'Y' =>
    match f.node, target with
    | .link _, some node => String.singleton (letterOf node)
    | .link _, none => "N"
    | node, _ => String.singleton (letterOf node)
  | 'l' =>
    match f.node with
    | .link target => Octets.ofText target
    | _ => ""
  | 'M' => String.singleton (modeLetter f.node) ++ FileMode.letters f.node.mode
  | 'n' => number (Listing.linkCount tree f.entry)
  | 'i' => number (Listing.inode tree f.entry)
  | 'u' | 'g' => "root"
  | 'U' | 'G' => "0"
  | 'D' => "65024"
  | 'F' => "ext4"
  | 't' => writePlain f.stamps.changed
  | 'a' => writePlain f.stamps.read
  | 'c' => writePlain Moment.present
  | 'T' => writeMoment f.stamps.changed (second.getD '@')
  | 'A' => writeMoment f.stamps.read (second.getD '@')
  | 'C' => writeMoment Moment.present (second.getD '@')
  | _ => ""

def write (tree : Tree) (f : Found) (target : Option Node) (segments : List Segment) : Octets :=
  String.join (segments.map fun segment =>
    match segment with
    | .text chars => String.ofList chars
    | .part flags width precision letter second =>
      let fitting : Fitting := { flags, width, precision }
      match letter with
      | 'd' => fitting.signed f.depth
      | 'm' => fitting.unsigned 'o' f.node.mode
      | _ => fitting.text (describe tree f target letter second))

/-- The line about a file with all that is known of it. -/
def longLine (tree : Tree) (f : Found) : Octets :=
  let number := fun (width n : Nat) => Tool.padLeft width (Numeral.decimal n)
  let link := match f.node with
    | .link target => " -> " ++ Octets.ofText target
    | _ => ""
  let d := Date.ofMoment f.stamps.changed
  let recent := f.stamps.changed ≤ Moment.present &&
    Moment.present - 15778476 * Moment.second < f.stamps.changed
  let escape := fun c : Char =>
    if c = ' ' || c = '\\' || c = '"' then ['\\', c]
    else if Quoting.prints c then [c] else Quoting.escape c
  number 9 (Listing.inode tree f.entry) ++ " " ++ number 6 (Listing.spaceOf f.node / 1024) ++ " " ++
    String.singleton (modeLetter f.node) ++ FileMode.letters f.node.mode ++ " " ++
    number 3 (Listing.linkCount tree f.entry) ++ " root     root     " ++
    number 8 (sizeOf f.node) ++ " " ++
    d.format (if recent then "%b %e %H:%M" else "%b %e  %Y") ++ " " ++
    String.ofList (f.path.toList.flatMap escape) ++ link ++ "\n"

/-! ## Actions -/

def complain (text : Octets) : Search Unit := do
  Run.complain ("find: " ++ text)
  modify fun p => { p with status := 1 }

def complainAbout (path : Octets) (fault : Fault) : Search Unit :=
  complain (Quoting.plain path ++ ": " ++ fault.description)

def emitTo (channel : Option Nat) (text : Octets) : Search Unit := do
  match channel with
  | none => Run.emit text
  | some index =>
    let write : Run Unit := do
      let before := (← get).descriptors
      Run.setDescriptor 1000 (some index)
      let _ ← Run.write 1000 text
      modify fun s => { s with descriptors := before }
    (write : Run _)

def delete (f : Found) : Search Bool := do
  if f.path = "." then return true
  let op := if f.node.isDirectory then Tree.removeDir else Tree.removeFile
  match ← (Run.edit op f.path : Run _) with
  | none => return true
  | some fault =>
    complain ("cannot delete " ++ Quoting.plain f.path ++ ": " ++ fault.description)
    return false

def fill (path word : Octets) : Octets := path.intercalate (word.splitOn "\x7b\x7d")

/-- Runs a program, maybe in a directory; whether that worked. -/
def runProgram (calls : Calls) (place : Option Octets) (words : List Octets) : Search Bool := do
  let work : Run (Except Fault Ended) := do
    let s ← get
    let lost ← match place with
      | some path => Starting.goTo path
      | none => pure none
    match lost with
    | some fault => return .error fault
    | none =>
      let answer ← calls.spawn words
      modify fun t => { t with here := Process.settled t s.moves.length s.here }
      return answer
  let answer : Except Fault Ended ← (work : Run _)
  match answer with
  | .ok ended => return ended.code = 0
  | .error fault =>
    Run.complain ("find: " ++ Quoting.plain (words.headD "") ++ ": " ++ fault.description)
    return false

/-- The directory that a file is in, and the file's name from there. -/
def whereabouts (path : Octets) : Octets × Octets :=
  let name := lastName path
  let front := frontOf path
  if name = "/" then ("/", "/") else (if front.isEmpty then "/" else front, "./" ++ name)

def confirms (words : List Octets) (path : Octets) : Run Bool := do
  Run.murmur ("< " ++ words.headD "" ++ " ... " ++ path ++ " > ? ")
  match ← answer 4096 [] with
  | first :: _ => return first = 'y' || first = 'Y'
  | [] => return false
where
  answer : Nat → List Char → Run (List Char)
    | 0, found => return found.reverse
    | fuel + 1, found => do
      match ← Run.read 0 1 with
      | .ok [c] => if c = '\n' then return found.reverse else answer fuel (c :: found)
      | _ => return found.reverse

def run (calls : Calls) (order : Order) (f : Found) : Search Bool := do
  let (place, path) := if order.there then whereabouts f.path else ("", f.path)
  let agreed ← if order.asks then (confirms order.words f.path : Run _) else pure true
  if !agreed then return false
  let words := order.words.map (fill path)
  let place := if order.there then some place else none
  if order.asks then
    let before : List (Nat × Nat) := (← (get : Run _)).descriptors
    let index ← (Run.newChannel (.device .null) : Run _)
    (Run.setDescriptor 0 (some index) : Run _)
    let worked ← runProgram calls place words
    ((modify fun s => { s with descriptors := before }) : Run _)
    return worked
  else runProgram calls place words

/-! ## Asking -/

def isEmpty (f : Found) : Search Bool := do
  match f.node with
  | .directory _ =>
    match ← (Run.namesIn f.path : Run _) with
    | .ok names => return names.isEmpty
    | .error fault =>
      complainAbout f.path fault
      return false
  | .file file => return file.content.isEmpty
  | _ => return false

/-- Where a link leads, or the link itself, in the other way than files are looked at. -/
def otherwise_ (walk : Walk) (f : Found) : Search Node := do
  let follows := walk.links != .always && !(walk.links = .operands && f.depth = 0)
  let found : Except Fault Node ← (Run.nodeAt follows f.path : Run _)
  return found.toOption.getD f.node

def fits (moment start width : Moment) : Ordering → Bool
  | .gt => start < moment
  | .lt => moment < start
  | .eq => start < moment && moment ≤ start + width

def Measure.of (tree : Tree) (f : Found) : Measure → Nat
  | .links => Listing.linkCount tree f.entry
  | .serial => Listing.inode tree f.entry
  | .owner | .group => 0

def ask (calls : Calls) (walk : Walk) (f : Found) : Query → Search Bool
  | .always answer => return answer
  | .name pattern folds => return fitsPattern folds pattern (lastName f.path)
  | .path pattern folds => return fitsPattern folds pattern f.path
  | .target pattern folds =>
    match f.node with
    | .link target => return fitsPattern folds pattern (Octets.ofText target)
    | _ => return false
  | .expression re folds =>
    let text := f.path.toList.toArray
    return (Regex.ends folds text re { place := 0 }).any fun p => p.place = text.size
  | .kind letters other => do
    if !other then return letters.contains (letterOf f.node)
    return letters.contains (letterOf (← otherwise_ walk f))
  | .empty => isEmpty f
  | .allowed right => do
    let found : Except Fault Node ← (Run.nodeAt true f.path : Run _)
    return found.toOption.any (·.grants right)
  | .measure what order n => do
    let tree := (← (get : Run _)).files.tree
    return compare (what.of tree f) n = order
  | .size unit order n => return compare ((sizeOf f.node + unit - 1) / unit) n = order
  | .mode bits ofFile ofDirectory =>
    let mode := f.node.mode
    let wanted := if f.node.isDirectory then ofDirectory else ofFile
    return match bits with
      | .exactly => mode = wanted
      | .all => mode &&& wanted = wanted
      | .any => wanted = 0 || mode &&& wanted != 0
  | .newer stamp than => return than < stampIn stamp f
  | .window stamp start width order => return fits (stampIn stamp f) start width order
  | .used start order =>
    return fits (f.stamps.read - Moment.present) start day order.swap
  | .same locations => return f.location.any locations.contains
  | .print channel lineEnd => do
    emitTo channel (f.path ++ lineEnd)
    return true
  | .format channel segments => do
    let target : Except Fault Node ← (Run.nodeAt true f.path : Run _)
    let tree := (← (get : Run _)).files.tree
    emitTo channel (write tree f target.toOption segments)
    return true
  | .list channel => do
    let tree := (← (get : Run _)).files.tree
    emitTo channel (longLine tree f)
    return true
  | .delete => delete f
  | .prune => do
    modify fun p => { p with pruned := true }
    return true
  | .quit => do
    modify fun p => { p with stopped := true }
    return true
  | .run order => run calls order f
  | .gather order => do
    let (place, path) := if order.there then whereabouts f.path else ("", f.path)
    modify fun p => { p with gathered := (order, place, path) :: p.gathered }
    return true
  | .not q => do return !(← ask calls walk f q)
  | .both a b => do
    let first ← ask calls walk f a
    if first && !(← get).stopped then ask calls walk f b else return first
  | .either a b => do
    let first ← ask calls walk f a
    if first || (← get).stopped then return first else ask calls walk f b
  | .after a b => do
    let first ← ask calls walk f a
    if (← get).stopped then return first else ask calls walk f b

/-! ## Walking -/

/-- Walks through what stands at a path.  The directories around it are given, each with its path.
-/
def visit (calls : Calls) (walk : Walk) (q : Query) (start : Octets) :
    Nat → Nat → List (Location × Octets) → Octets → Search Unit
  | 0, _, _, _ => return
  | fuel + 1, depth, around, path => do
    if (← get).stopped then return
    let follows := walk.links = .always || walk.links = .operands && depth = 0
    let node : Except Fault Node ← (Run.nodeAt follows path : Run _)
    let (node, followed) : Except Fault Node × Bool ← do
      let absent := match node with
        | .error fault => fault = .notFound || fault = .notDirectory
        | .ok _ => false
      if follows && absent then
        let own : Except Fault Node ← (Run.nodeAt false path : Run _)
        pure (own, false)
      else pure (node, follows)
    match node with
    | .error fault => complainAbout path fault
    | .ok node =>
      let place : Except Fault Location ← (Stamping.locationAt followed path : Run _)
      let location := place.toOption
      match around.find? fun entry => node.isDirectory && some entry.1 = location with
      | some (_, other) =>
        complain ("File system loop detected; " ++ Quoting.plain path ++
          " is part of the same file system loop as " ++ Quoting.plain other ++ ".")
      | none =>
        let stamps : Stamps ← (Stamping.stampsOf location node : Run _)
        let f : Found := { path, start, depth, node, stamps, location }
        modify fun p => { p with pruned := false }
        let here : Search Unit := do
          if walk.least ≤ depth then
            let _ ← ask calls walk f q
        if !walk.inner then here
        let descends := node.isDirectory && walk.most.all (depth < ·) &&
          (walk.inner || !(← get).pruned)
        if descends && !(← get).stopped then
          match ← (Run.namesIn path : Run _) with
          | .error fault => complainAbout path fault
          | .ok names =>
            let around := match location with
              | some l => (l, path) :: around
              | none => around
            for name in names do
              let inside := if path.endsWith "/" then path ++ name else path ++ "/" ++ name
              visit calls walk q start fuel (depth + 1) around inside
        if walk.inner && !(← get).stopped then here

/-- Runs the programs that run once for all files, or once for each directory. -/
def runGathered (calls : Calls) : Search Unit := do
  let all := (← get).gathered.reverse
  for (order, place) in (all.map fun entry => (entry.1, entry.2.1)).eraseDups do
    let paths := all.filterMap fun (other, where_, path) =>
      if other = order && where_ = place then some path else none
    let place := if order.there then some place else none
    if !(← runProgram calls place (order.words ++ paths)) then
      modify fun p => { p with status := 1 }

/-! ## The program -/

/-- What the options in front of the operands say about links, and the words after them. -/
def cutOptions : Links → List Octets → Except (List Octets) (Links × List Octets)
  | links, [] => .ok (links, [])
  | links, word :: words =>
    match word with
    | "-L" => cutOptions .always words
    | "-P" => cutOptions .never words
    | "-H" => cutOptions .operands words
    | "--" => .ok (links, words)
    | "-D" =>
      match words with
      | _ :: words => cutOptions links words
      | [] => .error ["Missing argument after the -D option."]
    | _ =>
      if word.startsWith "-O" then
        let level := word.toList.drop 2
        match Numeral.natural? level with
        | some n =>
          if n ≤ 65535 then cutOptions links words
          else
            .error ["Optimisation level " ++ String.ofList level ++ " is too high.  If you want " ++
              "to find files very quickly, consider using GNU locate."]
        | none =>
          if level.isEmpty then
            .error ["The -O option must be immediately followed by a decimal integer"]
          else .error ["Please specify a decimal number immediately after -O"]
      else .ok (links, word :: words)

def depthLimit : Nat := 1000

/-- The moment at which the program starts: a little after everything before it. -/
def startMoment : Moment := Moment.present + Moment.second / 100

def find : Tool := fun calls name words => do
  match cutOptions .never words with
  | .error lines =>
    for line in lines do Tool.complain name line
    if words.getLast? = some "-D" then Tool.pointToHelp name
    return 1
  | .ok (links, words) =>
    let paths := words.takeWhile fun word => !isExpression true word
    let rest := words.drop paths.length
    if rest.any fun word => word = "--help" || word = "-help" then
      Tool.showUsage name
      return 0
    if rest.any fun word => word = "--version" || word = "-version" then
      Tool.showRelease name
      return 0
    let start : Words := { rest, walk := { links }, now := startMoment }
    let read : Reading Query := do
      readAll (rest.length + 1)
      let r ← get
      if r.deletes && r.prunes && !r.walk.innerChosen then
        refuse ("The -delete action automatically turns on -depth, but -prune does nothing when " ++
          "-depth is in effect.  If you want to carry on anyway, just explicitly use the " ++
          "-depth option.")
      match buildAll r.tokens.reverse with
      | .ok q => return q
      | .error text => refuse text
    match ← (read.run start).run with
    | .error lines =>
      for line in lines do Tool.complain name line
      return 1
    | .ok (q, r) =>
      let all : Search Unit := do
        for path in (if paths.isEmpty then ["."] else paths) do
          visit calls r.walk q path depthLimit 0 [] path
        runGathered calls
      let ((), p) ← all.run {}
      return p.status

end Finding
end Shell
end LineShell
