import LineShell.Shell.Pattern
import LineShell.Shell.Utility.Listing.Layout
import LineShell.Shell.Utility.Magnitude
import LineShell.Shell.Utility.Quantity
import LineShell.Shell.Utility.Stamping
import LineShell.Shell.Utility.VersionOrder

/-!
# The program that lists directories

This is `ls`.  Operands that are no directories come first, then what each directory holds.  Names
stand in a column, in rows, or in a table with what is known of them.
-/

namespace LineShell
namespace Shell
namespace Listing

/-! ## What is asked for -/

inductive Format where
  | column
  /-- As many columns as fit; the names go down or along. -/
  | table (down : Bool)
  | commas
  | long
  deriving DecidableEq, Repr

inductive Sorting where
  | name
  | nothing
  | time
  | size
  | ending
  | version
  | width
  deriving DecidableEq, Repr

inductive Stamp where
  | changed
  | read
  /-- When anything about it was last changed. -/
  | altered
  deriving DecidableEq, Repr

/-- Which names that start with a dot are listed. -/
inductive Dotted where
  | none
  | proper
  /-- Those of a directory and of the one around it too. -/
  | all
  deriving DecidableEq, Repr

inductive Following where
  | never
  | operandDirectories
  | operands
  | always
  deriving DecidableEq, Repr

/-- How moments are written: if they are old, and if they are recent. -/
structure Moments where
  old : Octets := "%b %e  %Y"
  recent : Octets := "%b %e %H:%M"

structure Wish where
  format : Option Format := none
  marking : Marking := .none
  style : Style := .literal
  masks : Bool := false
  dotted : Dotted := .none
  /-- Patterns of names that are not listed. -/
  ignored : List Octets := []
  /-- Patterns of names that are not listed unless names with dots are. -/
  concealed : List Octets := []
  /-- Whether directories are listed like other things. -/
  asThings : Bool := false
  deep : Bool := false
  reversed : Bool := false
  sorting : Option Sorting := none
  stamp : Option Stamp := none
  directoriesFirst : Bool := false
  following : Option Following := none
  owner : Bool := true
  group : Bool := true
  author : Bool := false
  numbers : Bool := false
  inodes : Bool := false
  blocks : Bool := false
  contexts : Bool := false
  width : Nat := 80
  tab : Nat := 8
  stop : Char := '\n'
  colours : Bool := false
  moments : Moments := {}
  sizes : Option Magnitude.Scale := none
  blockSizes : Option Magnitude.Scale := none

/-- The bytes of names that are escaped although they print. -/
def blanks : List Char := [' ']

namespace Wish

def layout (w : Wish) : Format := w.format.getD .column

def isLong (w : Wish) : Bool := w.layout = .long

/-- What entries are sorted by: a stamp that is asked for and not shown is sorted by. -/
def order (w : Wish) : Sorting :=
  w.sorting.getD (if w.stamp.isSome && !w.isLong then .time else .name)

def follows (w : Wish) : Following :=
  w.following.getD
    (if w.asThings || w.marking = .full || w.isLong then .never else .operandDirectories)

def lists (w : Wish) (name : Octets) : Bool :=
  let matched := fun (patterns : List Octets) => patterns.any fun pattern =>
    (pattern.startsWith "." || !name.startsWith ".") &&
      Pattern.accepts (Pattern.ofText pattern) name.toList
  let dot := name.startsWith "." && (w.dotted = .none ||
    w.dotted = .proper && (name = "." || name = ".."))
  !dot && !(w.dotted = .none && matched w.concealed) && !matched w.ignored

end Wish

/-! ## Order -/

def sizeOf : Node → Nat
  | .directory _ => 4096
  | .file file => file.content.length
  | .link target => (Octets.ofText target).length
  | .device _ => 0

def spaceOf (node : Node) : Nat :=
  match node with
  | .link _ => 0
  | node => (sizeOf node + 4095) / 4096 * 4096

/-- What follows the last dot of a name. -/
def endingOf (name : Octets) : Octets :=
  let rest := name.toList.reverse
  let ending := rest.takeWhile (· != '.')
  if ending.length = rest.length then "" else String.ofList ('.' :: ending.reverse)

def stampOf (w : Wish) (entry : Entry) : Moment :=
  match w.stamp.getD .changed with
  | .changed => entry.stamps.changed
  | .read => entry.stamps.read
  | .altered => .present

def precedes (w : Wish) (a b : Entry) : Bool :=
  let byName := !(b.name < a.name)
  match w.order with
  | .name => byName
  | .nothing => true
  | .time => stampOf w b < stampOf w a || stampOf w a = stampOf w b && byName
  | .size => sizeOf b.node < sizeOf a.node || sizeOf a.node = sizeOf b.node && byName
  | .ending =>
    let x := endingOf a.name
    let y := endingOf b.name
    x < y || x = y && byName
  | .version =>
    match VersionOrder.compareNames a.name.toList b.name.toList with
    | .lt => true
    | .eq => byName
    | .gt => false
  | .width =>
    let x := columns (w.style.write blanks a.name)
    let y := columns (w.style.write blanks b.name)
    x < y || x = y && byName

def sorted (w : Wish) (entries : List Entry) : List Entry :=
  let all := entries.mergeSort (precedes w)
  let all := if w.reversed && w.order != .nothing then all.reverse else all
  if w.directoriesFirst && w.order != .nothing then
    all.filter (·.node.isDirectory) ++ all.filter (!·.node.isDirectory)
  else all

/-! ## Names -/

/-- A listing in progress; whether a colour was used already is known. -/
abbrev Step := StateT Bool Run

def switchOn (colour : String) : Octets := "\x1b[" ++ colour ++ "m"

def switchOff : Octets := switchOn "0"

def say (spans : List Span) : Step Unit :=
  spans.forM fun span => do
    match span.colour with
    | none => Run.emit span.text
    | some colour =>
      let used ← get
      set true
      Run.emit ((if used then "" else switchOff) ++ switchOn colour ++ span.text ++ switchOff)

def sayText (text : Octets) : Step Unit := say [{ text }]

def written (w : Wish) (name : Octets) : Octets :=
  let text := w.style.write blanks name
  if w.masks then text.map fun c => if Quoting.prints c then c else '?' else text

/-- Whether names get a blank in front where others have a quotation mark. -/
def pads (w : Wish) (entries : List Entry) : Bool :=
  let aligned := match w.layout with
    | .long => true
    | .table _ => w.width != 0
    | _ => false
  aligned && w.style.varies &&
    entries.any fun entry => w.style.write blanks entry.name != entry.name

def nameSpans (w : Wish) (padded : Bool) (entry : Entry) : List Span :=
  let text := written w entry.name
  let front : List Span :=
    if padded && w.style.write blanks entry.name = entry.name then [{ text := " " }] else []
  front ++ [{ text, colour := if w.colours then colourOf entry.node else none }]

def shown (w : Wish) (padded : Bool) (entry : Entry) : List Span :=
  let mark := w.marking.mark entry.node
  nameSpans w padded entry ++ if mark.isEmpty then [] else [{ text := mark }]

def linkSpans (w : Wish) (entry : Entry) (target : String) : Step (List Span) := do
  let name := Octets.ofText target
  let directory := (entry.path.toList.reverse.dropWhile (· != '/')).reverse
  let path := if name.startsWith "/" then name else String.ofList directory ++ name
  let node := (← Run.nodeAt true path).toOption
  let colour := if w.colours then node.bind colourOf else none
  let mark := (node.map w.marking.mark).getD ""
  return [{ text := " -> " }, { text := written w name, colour }, { text := mark }]

/-! ## What stands in front of names -/

def linkCount (tree : Tree) (entry : Entry) : Nat :=
  match entry.node with
  | .directory _ =>
    let inside := (entry.location.map fun l => (tree.names l).filter fun name =>
      (tree.find? (name :: l)).any Node.isDirectory).getD []
    2 + inside.length
  | .file file =>
    if file.twin = 0 then 1
    else (tree.entries.filter fun entry =>
      match entry.2 with
      | .file other => other.twin = file.twin
      | _ => false).length
  | _ => 1

def inode (tree : Tree) (entry : Entry) : Nat :=
  match entry.node with
  | .file { twin := n + 1, .. } => 3000000 + n
  | _ =>
    let place := tree.entries.findIdx? fun other => some other.1 = entry.location
    2000000 + (tree.entries.length - place.getD tree.entries.length)

def frontFields (w : Wish) (entry : Entry) : Run (List Field) := do
  let tree := (← get).files.tree
  let scale := w.blockSizes.getD (.fixed 1024 "")
  return (if w.inodes then [(true, Numeral.decimal (inode tree entry : Nat))] else []) ++
    (if w.blocks then [(true, scale.write (spaceOf entry.node))] else [])

def halfYear : Int := 31556952 / 2

def momentText (w : Wish) (moment : Moment) : Octets :=
  let recent := Moment.present - halfYear * Moment.second < moment && moment ≤ .present
  (Date.ofMoment moment).format (if recent then w.moments.recent else w.moments.old)

def longFields (w : Wish) (entry : Entry) : Run (List Field) := do
  let tree := (← get).files.tree
  let who : Field := if w.numbers then (true, "0") else (false, "root")
  let letter := match entry.node with
    | .directory _ => "d"
    | .file _ => "-"
    | .link _ => "l"
    | .device _ => "c"
  let size := (w.sizes.getD (.fixed 1 "")).write (sizeOf entry.node)
  return (← frontFields w entry) ++
    [(false, letter ++ FileMode.letters entry.node.mode),
     (true, Numeral.decimal (linkCount tree entry : Nat))] ++
    (if w.owner then [who] else []) ++ (if w.group then [who] else []) ++
    (if w.author then [who] else []) ++ (if w.contexts then [(false, "?")] else []) ++
    [(true, size), (false, momentText w (stampOf w entry))]

/-- The pieces of entries that are not long, with their fields in front. -/
def cells (w : Wish) (padded : Bool) (entries : List Entry) : Run (List Cell) := do
  let rows ← entries.mapM fun entry => do
    let context : List Field := if w.contexts then [(true, "?")] else []
    return (← frontFields w entry) ++ context
  let fronts := if w.layout = .commas then
      rows.map fun row => " ".intercalate (row.map (·.2))
    else align rows
  return (fronts.zip entries).map fun (front, entry) =>
    let spans := shown w padded entry
    let spans : List Span :=
      if front.isEmpty then spans else { text := front ++ " " } :: spans
    (spans, width spans)

def writeEntries (w : Wish) (entries : List Entry) : Step Unit := do
  let padded := pads w entries
  let stop := String.singleton w.stop
  let lines := fun (rows : List (List Span)) =>
    rows.forM fun row => say (row ++ [{ text := stop }])
  if entries.isEmpty then return
  match w.layout with
  | .column => lines ((← cells w padded entries).map (·.1))
  | .table down =>
    let cells ← cells w padded entries
    if w.width = 0 then lines [sequence " " stop 0 cells]
    else lines (table down w.tab w.width cells)
  | .commas => lines [sequence "," stop w.width (← cells w padded entries)]
  | .long =>
    let rows ← entries.mapM fun entry => (longFields w entry : Step (List Field))
    ((align rows).zip entries).forM fun (front, entry) => do
      let name ← match entry.node with
        | .link target => pure (nameSpans w padded entry ++ (← linkSpans w entry target))
        | _ => pure (shown w padded entry)
      say ({ text := front ++ " " } :: name ++ [{ text := stop }])

/-! ## Directories -/

def joined (directory name : Octets) : Octets :=
  if directory.endsWith "/" then directory ++ name else directory ++ "/" ++ name

def entryOf (follow : Bool) (name path : Octets) (node : Node) : Run Entry := do
  let location := (← Stamping.locationAt follow path).toOption
  return { name, path, node, stamps := ← Stamping.stampsOf location node, location }

/-- What a path leads to, where a last link is followed if asked for and possible. -/
def entryAt (follow : Bool) (name path : Octets) : Run (Option Entry) := do
  let follow ← if follow then pure (← Run.nodeAt true path).toOption.isSome else pure false
  match ← Run.nodeAt follow path with
  | .error _ => return none
  | .ok node => return some (← entryOf follow name path node)

def inside (w : Wish) (directory : Octets) : Run (Except Fault (List Entry)) := do
  match ← Run.namesIn directory with
  | .error fault => return .error fault
  | .ok names =>
    let entries ← (("." :: ".." :: names).filter w.lists).filterMapM fun name =>
      entryAt (w.follows = .always) name (joined directory name)
    return .ok entries

/-- The sum of what entries take on a disk, as it stands above them. -/
def totalLine (w : Wish) (entries : List Entry) : Octets :=
  let scale := w.blockSizes.getD (.fixed 1024 "")
  let space := entries.foldl (fun sum entry => sum + spaceOf entry.node) 0
  "total " ++ scale.write space ++ String.singleton w.stop

/-- Lists directories, and what is below them if that is wanted.  Whether anything was written
before, whether names of directories are shown, and how bad it is if one cannot be read, is given.
-/
def listDirectories (program : Octets) (w : Wish) :
    Nat → Bool → Bool → Nat → List Octets → Step Nat
  | 0, _, _, _, _ | _, _, _, _, [] => return 0
  | fuel + 1, later, titled, trouble, directory :: others => do
    match ← inside w directory with
    | .error fault =>
      Tool.complain program
        ("cannot open directory " ++ Quoting.always directory ++ ": " ++ fault.description)
      return max trouble (← listDirectories program w fuel later titled trouble others)
    | .ok entries =>
      if later then sayText "\n"
      if titled then sayText (w.style.write [':'] directory ++ ":\n")
      let entries := sorted w entries
      if w.isLong || w.blocks then sayText (totalLine w entries)
      writeEntries w entries
      let below := if !w.deep then [] else entries.filterMap fun entry =>
        if entry.node.isDirectory && entry.name != "." && entry.name != ".." then some entry.path
        else none
      let status ← listDirectories program w fuel true titled 1 below
      return max status (← listDirectories program w fuel true titled trouble others)

/-- Looks an operand up; none after a complaint. -/
def operandEntry (program : Octets) (w : Wish) (path : Octets) : Run (Option Entry) := do
  let follow ← match w.follows with
    | .always | .operands => pure true
    | .operandDirectories => pure ((← Run.nodeAt true path).toOption.any Node.isDirectory)
    | .never => pure false
  match ← Run.nodeAt follow path with
  | .ok node => return some (← entryOf follow path path node)
  | .error fault =>
    Tool.complain program
      ("cannot access " ++ Quoting.always path ++ ": " ++ fault.description)
    return none

def directoryBound : Nat := 1000000

def list (program : Octets) (w : Wish) (operands : List Octets) : Step Nat := do
  let found ← (if operands.isEmpty then ["."] else operands).mapM fun path =>
    (operandEntry program w path : Step (Option Entry))
  let entries := sorted w (found.filterMap id)
  let isDirectory := fun entry : Entry => !w.asThings && entry.node.isDirectory
  let things := entries.filter fun entry => !isDirectory entry
  let directories := (entries.filter isDirectory).map (·.path)
  writeEntries w things
  let titled := 1 < operands.length || w.deep || !things.isEmpty
  let status ← listDirectories program w directoryBound (!things.isEmpty) titled 2 directories
  return if found.any (·.isNone) then 2 else status

/-! ## Options -/

def shapes : OptionShapes :=
  [⟨'a', "all", .no⟩, ⟨'b', "escape", .no⟩, ⟨'d', "directory", .no⟩, ⟨'D', "dired", .no⟩,
   ⟨'\x10', "full-time", .no⟩, ⟨'\x11', "group-directories-first", .no⟩,
   ⟨'h', "human-readable", .no⟩, ⟨'i', "inode", .no⟩, ⟨'k', "kibibytes", .no⟩,
   ⟨'n', "numeric-uid-gid", .no⟩, ⟨'G', "no-group", .no⟩, ⟨'q', "hide-control-chars", .no⟩,
   ⟨'r', "reverse", .no⟩, ⟨'s', "size", .no⟩, ⟨'w', "width", .yes⟩, ⟨'A', "almost-all", .no⟩,
   ⟨'B', "ignore-backups", .no⟩, ⟨'F', "", .no⟩, ⟨'\x1a', "classify", .maybe⟩,
   ⟨'\x12', "file-type", .no⟩, ⟨'\x13', "si", .no⟩, ⟨'H', "dereference-command-line", .no⟩,
   ⟨'\x14', "dereference-command-line-symlink-to-dir", .no⟩, ⟨'\x15', "hide", .yes⟩,
   ⟨'I', "ignore", .yes⟩, ⟨'\x16', "indicator-style", .yes⟩, ⟨'L', "dereference", .no⟩,
   ⟨'N', "literal", .no⟩, ⟨'Q', "quote-name", .no⟩, ⟨'\x17', "quoting-style", .yes⟩,
   ⟨'R', "recursive", .no⟩, ⟨'\x18', "format", .yes⟩, ⟨'\x19', "show-control-chars", .no⟩,
   ⟨'\x01', "sort", .yes⟩, ⟨'T', "tabsize", .yes⟩, ⟨'\x02', "time", .yes⟩,
   ⟨'\x03', "time-style", .yes⟩, ⟨'\x04', "zero", .no⟩, ⟨'\x05', "color", .maybe⟩,
   ⟨'\x06', "hyperlink", .maybe⟩, ⟨'\x07', "block-size", .yes⟩, ⟨'Z', "context", .no⟩,
   ⟨'\x08', "author", .no⟩, ⟨'c', "", .no⟩, ⟨'C', "", .no⟩, ⟨'f', "", .no⟩, ⟨'g', "", .no⟩,
   ⟨'l', "", .no⟩, ⟨'m', "", .no⟩, ⟨'o', "", .no⟩, ⟨'p', "", .no⟩, ⟨'S', "", .no⟩, ⟨'t', "", .no⟩,
   ⟨'u', "", .no⟩, ⟨'U', "", .no⟩, ⟨'v', "", .no⟩, ⟨'x', "", .no⟩, ⟨'X', "", .no⟩, ⟨'1', "", .no⟩]

def sortingNames : List (List String × Sorting) :=
  [(["none"], .nothing), (["time"], .time), (["size"], .size), (["extension"], .ending),
   (["version"], .version), (["width"], .width)]

def stampNames : List (List String × Stamp) :=
  [(["atime", "access", "use"], .read), (["ctime", "status"], .altered),
   (["birth", "creation"], .altered)]

def formatNames : List (List String × Format) :=
  [(["verbose", "long"], .long), (["commas"], .commas), (["horizontal", "across"], .table false),
   (["vertical"], .table true), (["single-column"], .column)]

/-- The words for whether something is done, also where it hangs on a terminal. -/
def whenNames : List (List String × Bool) :=
  [(["always", "yes", "force"], true), (["never", "no", "none"], false),
   (["auto", "tty", "if-tty"], false)]

def momentNames : List (String × Moments) :=
  let same := fun (format : Octets) => ({ old := format, recent := format } : Moments)
  [("full-iso", same "%Y-%m-%d %H:%M:%S.%N %z"), ("long-iso", same "%Y-%m-%d %H:%M"),
   ("iso", { old := "%Y-%m-%d ", recent := "%m-%d %H:%M" }), ("locale", {})]

/-- Reads the style of moments; none after a complaint. -/
def momentStyle (name word : Octets) : Run (Option Moments) := do
  if word.startsWith "+" then
    match (word.drop 1).toString.splitOn "\n" with
    | [format] => return some { old := format, recent := format }
    | [old, recent] => return some { old, recent }
    | _ =>
      Tool.complain name ("invalid time style format " ++ Quoting.plain (word.drop 1).toString)
      return none
  else
    let plain := if word.startsWith "posix-" then (word.drop 6).toString else word
    let found := momentNames.filter fun style => style.1.startsWith plain
    match momentNames.lookup plain, found with
    | some style, _ => return some (if plain = word then style else {})
    | none, [(_, style)] => return some (if plain = word then style else {})
    | none, _ =>
      let blame := if found.isEmpty then "invalid" else "ambiguous"
      Tool.complain name (blame ++ " argument " ++ Quoting.plain word ++ " for 'time style'")
      Run.complain "Valid arguments are:"
      momentNames.forM fun style => Run.complain ("  - [posix-]" ++ style.1)
      Run.complain "  - +FORMAT (e.g., +%H:%M) for a 'date'-style format"
      Tool.pointToHelp name
      return none

/-- Reads a number that is the value of an option, or complains. -/
def number (name what text : Octets) : Run (Except Nat Nat) := do
  match Quantity.readIn 0 "" text with
  | .fine n => return .ok n
  | .tooLarge => return .ok (Quantity.limit - 1)
  | _ =>
    Tool.complain name (what ++ ": " ++ Quoting.plain text)
    return .error 2

def Wish.add (name : Octets) (w : Wish) (option : GivenOption) : Run (Except Nat Wish) := do
  let word := option.2.getD ""
  let fine := fun (w : Wish) => (return .ok w : Run (Except Nat Wish))
  match option.1 with
  | 'a' => fine { w with dotted := .all }
  | 'A' => fine { w with dotted := .proper }
  | 'b' => fine { w with style := .escape }
  | 'N' => fine { w with style := .literal }
  | 'Q' => fine { w with style := .c }
  | 'B' => fine { w with ignored := w.ignored ++ ["*~", ".*~"] }
  | 'c' => fine { w with stamp := some .altered }
  | 'u' => fine { w with stamp := some .read }
  | 'C' => fine { w with format := some (.table true) }
  | 'x' => fine { w with format := some (.table false) }
  | 'm' => fine { w with format := some .commas }
  | 'l' => fine { w with format := some .long }
  | 'g' => fine { w with format := some .long, owner := false }
  | 'o' => fine { w with format := some .long, group := false }
  | 'n' => fine { w with format := some .long, numbers := true }
  | '1' => fine (if w.isLong then w else { w with format := some .column })
  | 'd' => fine { w with asThings := true }
  | 'f' =>
    fine { w with
      dotted := .all, sorting := some .nothing, blocks := false, colours := false
      format := if w.isLong then none else w.format }
  | 'F' => fine { w with marking := .full }
  | 'p' => fine { w with marking := .slash }
  | '\x12' => fine { w with marking := .kind }
  | 'G' => fine { w with group := false }
  | 'h' => fine { w with sizes := some (.powers 1024), blockSizes := some (.powers 1024) }
  | '\x13' => fine { w with sizes := some (.powers 1000), blockSizes := some (.powers 1000) }
  | 'H' => fine { w with following := some .operands }
  | '\x14' => fine { w with following := some .operandDirectories }
  | 'L' => fine { w with following := some .always }
  | 'i' => fine { w with inodes := true }
  | 's' => fine { w with blocks := true }
  | 'Z' => fine { w with contexts := true }
  | '\x08' => fine { w with author := true }
  | 'I' => fine { w with ignored := w.ignored ++ [word] }
  | '\x15' => fine { w with concealed := w.concealed ++ [word] }
  | 'q' => fine { w with masks := true }
  | '\x19' => fine { w with masks := false }
  | 'r' => fine { w with reversed := true }
  | 'R' => fine { w with deep := true }
  | 'S' => fine { w with sorting := some .size }
  | 't' => fine { w with sorting := some .time }
  | 'U' => fine { w with sorting := some .nothing }
  | 'v' => fine { w with sorting := some .version }
  | 'X' => fine { w with sorting := some .ending }
  | '\x11' => fine { w with directoriesFirst := true }
  | '\x04' =>
    fine { w with
      stop := '\x00', style := .literal, masks := false, colours := false
      format := if w.isLong then w.format else some .column }
  | '\x10' =>
    fine { w with
      format := some .long
      moments := ((momentNames.lookup "full-iso").getD {}) }
  | 'w' => return (← number name "invalid line width" word).map fun n => { w with width := n }
  | 'T' => return (← number name "invalid tab size" word).map fun n => { w with tab := n }
  | '\x07' =>
    match Magnitude.Scale.read? word with
    | some scale => fine { w with sizes := some scale, blockSizes := some scale }
    | none =>
      Tool.complain name ("invalid --block-size argument " ++ Quoting.plain word)
      return .error 2
  | '\x03' =>
    match ← momentStyle name word with
    | some moments => fine { w with moments }
    | none => return .error 2
  | '\x16' =>
    match ← Tool.choose name "--indicator-style" word markingNames with
    | some marking => fine { w with marking }
    | none => return .error 1
  | '\x17' =>
    match ← Tool.choose name "--quoting-style" word styleNames with
    | some style => fine { w with style }
    | none => return .error 1
  | '\x18' =>
    match ← Tool.choose name "--format" word formatNames with
    | some format => fine { w with format := some format }
    | none => return .error 1
  | '\x01' =>
    match ← Tool.choose name "--sort" word sortingNames with
    | some sorting => fine { w with sorting := some sorting }
    | none => return .error 1
  | '\x02' =>
    match ← Tool.choose name "--time" word stampNames with
    | some stamp => fine { w with stamp := some stamp }
    | none => return .error 1
  | '\x1a' =>
    if option.2.isNone then fine { w with marking := .full }
    else
      match ← Tool.choose name "--classify" word whenNames with
      | some true => fine { w with marking := .full }
      | some false => fine w
      | none => return .error 1
  | '\x05' =>
    if option.2.isNone then fine { w with colours := true }
    else
      match ← Tool.choose name "--color" word whenNames with
      | some colours => fine { w with colours }
      | none => return .error 1
  | '\x06' =>
    if option.2.isNone then fine w
    else
      match ← Tool.choose name "--hyperlink" word whenNames with
      | some _ => fine w
      | none => return .error 1
  | _ => fine w

def Wish.addAll (name : Octets) : Wish → List GivenOption → Run (Except Nat Wish)
  | w, [] => return .ok w
  | w, option :: others => do
    match ← w.add name option with
    | .ok w => Wish.addAll name w others
    | .error status => return .error status

def ls : Tool := fun _ name words =>
  Tool.withOptions shapes 2 name words fun given => do
    match ← Wish.addAll name {} given.options with
    | .error status => return status
    | .ok w =>
      let terminal := (← Run.value? "TERM").getD ""
      let colours := w.colours && knowsColours terminal
      let (status, _) ← (list name { w with colours, deep := w.deep && !w.asThings }
        given.operands).run false
      return status

def dir : Tool := fun calls name words => ls calls name ("-C" :: "-b" :: words)

def vdir : Tool := fun calls name words => ls calls name ("-l" :: "-b" :: words)

end Listing
end Shell
end LineShell
