import LineShell.Calendar.Reading
import LineShell.Shell.Utility.FileMode
import LineShell.Shell.Utility.Finding.Query
import LineShell.Shell.Utility.Quantity
import LineShell.Shell.Utility.Stamping
import LineShell.Text.Fraction

/-!
# Reading questions about files

The words of an expression are read one after the other.  Some of them change how directories are
walked through, some open files, and the first one that cannot be read ends the program.
-/

namespace LineShell
namespace Shell
namespace Finding

inductive Links where
  | never
  | operands
  | always
  deriving DecidableEq, Repr

structure Walk where
  least : Nat := 0
  most : Option Nat := none
  /-- Whether what is in a directory comes before it. -/
  inner : Bool := false
  /-- Whether that was asked for by its own word. -/
  innerChosen : Bool := false
  links : Links := .never
  deriving Inhabited

inductive Writing where
  | emacs
  | basic
  | extended
  deriving DecidableEq, Repr

structure Words where
  rest : List Octets
  walk : Walk
  dialect : Writing := .emacs
  /-- The moment that ages are counted from, and whether it is the end of a day. -/
  now : Moment
  fullDays : Bool := false
  tokens : List Token := []
  /-- Files that were opened, with their channels. -/
  files : List (Octets × Nat) := []
  prunes : Bool := false
  deletes : Bool := false

/-- A step of reading; complaints end it. -/
abbrev Reading := StateT Words (ExceptT (List Octets) Run)

def refuseAll {α : Type} (lines : List Octets) : Reading α := throw lines

def refuse {α : Type} (text : Octets) : Reading α := refuseAll [text]

def quoted (word : Octets) : Octets := "\x60" ++ word ++ "'"

def next? : Reading (Option Octets) := return (← get).rest.head?

def advance : Reading Unit := modify fun r => { r with rest := r.rest.drop 1 }

def operand (word : Octets) : Reading Octets := do
  match ← next? with
  | some value =>
    advance
    return value
  | none => refuse ("missing argument to " ++ quoted word)

def badValue {α : Type} (word value : Octets) : Reading α :=
  refuse ("invalid argument " ++ quoted value ++ " to " ++ quoted word)

/-- The sign in front of a number, and what is behind it. -/
def comparison (text : List Char) : Ordering × List Char :=
  match text with
  | '+' :: rest => (.gt, rest)
  | '-' :: rest => (.lt, rest)
  | rest => (.eq, rest)

def compared? (text : List Char) : Option (Ordering × Nat) :=
  let (order, rest) := comparison text
  let digits := rest.dropWhile isSpace
  let digits := if digits.head? = some '+' then digits.tail else digits
  match Numeral.natural? digits with
  | some n => if n < UInt64.size then some (order, n) else none
  | none => none

/-! ## Single tests -/

def depth (word : Octets) : Reading Nat := do
  let value ← operand word
  match Numeral.natural? value.toList with
  | some n => return n
  | none =>
    refuse ("Expected a positive decimal integer argument to " ++ word ++ ", but got " ++
      Quoting.plain value)

def kindLetters (word : Octets) : List Char → List Char → Reading (List Char)
  | [], found => return found
  | c :: rest, found => do
    if !"bcdflpsD".toList.contains c then
      refuse ("Unknown argument to " ++ word ++ ": " ++ String.singleton c)
    if found.contains c then
      refuse ("Duplicate file type '" ++ String.singleton c ++ "' in the argument list to " ++
        word ++ ".")
    match rest with
    | [] => return found ++ [c]
    | ',' :: [] =>
      refuse ("Last file type in list argument to " ++ word ++
        " is missing, i.e., list is ending on: ','")
    | ',' :: more => kindLetters word more (found ++ [c])
    | _ => refuse ("Must separate multiple arguments to " ++ word ++ " using: ','")

def kinds (word : Octets) : Reading (List Char) := do
  let value ← operand word
  if value.isEmpty then refuse ("Arguments to " ++ word ++ " should contain at least one letter")
  kindLetters word value.toList []

def size : Reading Query := do
  let value ← operand "-size"
  let chars := value.toList
  match chars.getLast? with
  | none => refuse "invalid null argument to -size"
  | some last =>
    let units := [('b', 512), ('c', 1), ('w', 2), ('k', 1024), ('M', 1048576), ('G', 1073741824)]
    match units.lookup last with
    | none =>
      if !last.isDigit then refuse ("invalid -size type " ++ quoted (String.singleton last))
      match compared? chars with
      | some (order, n) => return .size 512 order n
      | none =>
        refuse ("Invalid argument " ++ quoted (value ++ String.singleton last) ++ " to -size")
    | some unit =>
      match compared? chars.dropLast with
      | some (order, n) => return .size unit order n
      | none => refuse ("Invalid argument " ++ quoted value ++ " to -size")

def mode : Reading Query := do
  let value ← operand "-perm"
  let (bits, text) := match value.toList with
    | '-' :: rest => (Bits.all, String.ofList rest)
    | '/' :: rest => (.any, String.ofList rest)
    | _ => (.exactly, value)
  match FileMode.read text with
  | none => refuse ("invalid mode " ++ Quoting.plain value)
  | some change =>
    let ofFile := FileMode.adjust change 0 false 0
    let ofDirectory := FileMode.adjust change 0 true 0
    let every := bits = .any && ofFile = 0 && ofDirectory = 0
    if every then
      let warning := "find: warning: you have specified a mode pattern " ++ value ++ " (which " ++
        "is equivalent to /000). The meaning of -perm /000 has now been changed to be " ++
        "consistent with -perm -000; that is, while it used to match no files, it now matches " ++
        "all files."
      (Run.complain warning : Run _)
    let bits := if every then .all else bits
    return .mode bits ofFile ofDirectory

def measure (word : Octets) (what : Measure) : Reading Query := do
  let value ← operand word
  match compared? value.toList with
  | some (order, n) => return .measure what order n
  | none => badValue word value

/-- The moments around an age: how the moment of a file is compared, and with which moment. -/
def age? (text : Octets) (origin unit : Moment) : Option (Ordering × Moment) :=
  let (order, rest) := comparison text.toList
  match Fraction.read? 53 rest with
  | some (.finite negative n d, []) =>
    let span := (n * unit.toNat / d : Nat)
    some (order.swap, if negative then origin + (span : Int) else origin - (span : Int))
  | _ => none

def day : Moment := 86400 * Moment.second

def minutes (word : Octets) (stamp : Stamp) : Reading Query := do
  let value ← operand word
  let unit := 60 * Moment.second
  match age? value (← get).now unit with
  | some (order, start) => return .window stamp start unit order
  | none => badValue word value

def days (word : Octets) (stamp : Stamp) : Reading Query := do
  let value ← operand word
  let origin := (← get).now - day
  -- A day has to be over before a file counts as older than it.
  let origin := if (comparison value.toList).1 = .lt then origin + day - Moment.second else origin
  match age? value origin day with
  | some (order, start) => return .window stamp start day order
  | none => badValue word value

/-- The moment at which a file was changed that is named, or read. -/
def referenceStamp (stamp : Stamp) (path : Octets) : Reading Moment := do
  let follows := (← get).walk.links != .never
  let found : Except Fault Stamps ← (Stamping.stampsAt follows path : Run _)
  match found with
  | .ok stamps =>
    return match stamp with
      | .changed => stamps.changed
      | .read => stamps.read
      | .noted => Moment.present
  | .error fault => refuse (Quoting.plain path ++ ": " ++ fault.description)

def newer (word : Octets) (stamp : Stamp) : Reading Query := do
  let path ← operand word
  return .newer stamp (← referenceStamp .changed path)

def stampOf : Char → Option Stamp
  | 'a' => some .read
  | 'c' => some .noted
  | 'm' => some .changed
  | _ => none

/-- Takes a file or a date that others are compared with, where two letters say which moments. -/
def newerBy (word : Octets) : Reading Query := do
  let bad := "invalid predicate " ++ quoted word
  match word.toList.drop 6 with
  | [x, y] =>
    if !"aBcm".toList.contains x || !"aBcmt".toList.contains y then refuse bad
    if x = 'B' || y = 'B' then
      refuseAll ["This system does not provide a way to find the birth time of a file.", bad]
    let stamp := (stampOf x).getD .changed
    match ← next? with
    | none => refuse ("The " ++ Quoting.plain word ++ " test needs an argument")
    | some value =>
      advance
      match stampOf y with
      | some other => return .newer stamp (← referenceStamp other value)
      | none =>
        match Calendar.read? Moment.present value with
        | some moment => return .newer stamp moment
        | none =>
          refuse ("I cannot figure out how to interpret " ++ Quoting.plain value ++
            " as a date or time")
  | _ => refuse bad

def dialects : List (Octets × Writing) :=
  [("findutils-default", .emacs), ("ed", .basic), ("emacs", .emacs), ("gnu-awk", .extended),
   ("grep", .basic), ("posix-awk", .extended), ("awk", .extended), ("posix-basic", .basic),
   ("posix-egrep", .extended), ("egrep", .extended), ("posix-extended", .extended),
   ("posix-minimal-basic", .basic), ("sed", .basic)]

/-- An expression in which grouping takes a backslash and repeating does not, in the extended
form. -/
def extendedForm : List Char → List Char
  | [] => []
  | '\\' :: c :: rest =>
    if c = '(' || c = ')' || c = '|' then c :: extendedForm rest
    else '\\' :: c :: extendedForm rest
  | '[' :: rest =>
    -- A set is left as it is.
    let front := if rest.head? = some '^' then ['^'] else []
    let inner := rest.drop front.length
    let front := if inner.head? = some ']' then front ++ [']'] else front
    let body := (rest.drop front.length).takeWhile (· != ']')
    '[' :: front ++ body ++ extendedForm (rest.drop (front.length + body.length))
  | c :: rest =>
    if "(|)\x7b\x7d".toList.contains c then '\\' :: c :: extendedForm rest
    else c :: extendedForm rest
termination_by chars => chars.length
decreasing_by all_goals simp only [List.length_cons, List.length_drop]; omega

def expression (word : Octets) (folds : Bool) : Reading Query := do
  let value ← operand word
  let text := value.toList
  let dialect := (← get).dialect
  let read := match dialect with
    | .emacs => Regex.ofText true true (extendedForm text)
    | .basic => Regex.ofText false true text
    | .extended => Regex.ofText true true text
  match read with
  | .ok re => return .expression re folds
  | .error fault =>
    refuse ("failed to compile regular expression '" ++ value ++ "': " ++ fault.message)

def users : List (Octets × Nat) :=
  [("root", 0), ("daemon", 1), ("bin", 2), ("sys", 3), ("sync", 4), ("games", 5), ("man", 6),
   ("lp", 7), ("mail", 8), ("news", 9), ("uucp", 10), ("proxy", 13), ("www-data", 33),
   ("backup", 34), ("list", 38), ("irc", 39), ("nobody", 65534)]

def groups : List (Octets × Nat) :=
  [("root", 0), ("daemon", 1), ("bin", 2), ("sys", 3), ("adm", 4), ("tty", 5), ("disk", 6),
   ("lp", 7), ("mail", 8), ("news", 9), ("uucp", 10), ("man", 12), ("proxy", 13), ("kmem", 15),
   ("dialout", 20), ("fax", 21), ("voice", 22), ("cdrom", 24), ("floppy", 25), ("tape", 26),
   ("sudo", 27), ("audio", 29), ("dip", 30), ("www-data", 33), ("backup", 34), ("operator", 37),
   ("list", 38), ("irc", 39), ("src", 40), ("shadow", 42), ("utmp", 43), ("video", 44),
   ("sasl", 45), ("plugdev", 46), ("staff", 50), ("games", 60), ("users", 100),
   ("nogroup", 65534)]

def member (word : Octets) (what : Measure) (known : List (Octets × Nat)) (title : String) :
    Reading Query := do
  let value ← operand word
  match known.lookup value, Numeral.natural? value.toList with
  | some n, _ | none, some n => return .measure what .eq n
  | none, none =>
    if value.isEmpty then refuse ("The argument to " ++ word ++ " should not be empty")
    refuse (Quoting.plain value ++ " is not the name of " ++ title)

/-! ## Formats -/

def plainLetters : List Char := "abcdDfFgGhHiklmMnpPsStuUyYZ".toList

/-- Reads a format: its segments, with warnings and what is wrong with it. -/
def segments : Nat → List Char → List Segment × List Octets × Option Octets
  | 0, _ | _, [] => ([], [], none)
  | fuel + 1, '\\' :: rest =>
    let go := fun (text : List Char) (rest : List Char) =>
      let (others, warnings, fault) := segments fuel rest
      (Segment.text text :: others, warnings, fault)
    let digits := (rest.take 3).takeWhile FileMode.isOctal
    if !digits.isEmpty then
      go [Char.ofNat (FileMode.ofOctal digits % 256)] (rest.drop digits.length)
    else
      match rest with
      | [] => ([.text ['\\']], ["warning: escape \x60\\' followed by nothing at all"], none)
      | 'c' :: _ => ([], [], none)
      | c :: rest =>
        let known := [('a', '\x07'), ('b', '\x08'), ('f', '\x0c'), ('n', '\n'), ('r', '\r'),
          ('t', '\t'), ('v', '\x0b'), ('\\', '\\')]
        match known.lookup c with
        | some byte => go [byte] rest
        | none =>
          let (others, warnings, fault) := segments fuel rest
          (.text ['\\', c] :: others,
            ("warning: unrecognized escape " ++ quoted (String.ofList ['\\', c])) :: warnings,
            fault)
  | fuel + 1, '%' :: rest =>
    let flags := rest.takeWhile fun c => "-+ #0".toList.contains c
    let after := rest.drop flags.length
    let digits := after.takeWhile Char.isDigit
    let after := after.drop digits.length
    let (precision, after) := match after with
      | '.' :: more =>
        let places := more.takeWhile Char.isDigit
        (some (Numeral.value places), more.drop places.length)
      | _ => (none, after)
    let part := fun letter second =>
      Segment.part flags (Numeral.value digits) precision letter second
    let reserved := fun (c : Char) =>
      ([], [], some ("error: the format directive " ++ quoted (String.ofList ['%', c]) ++
        " is reserved for future use"))
    match rest, after with
    | [], _ => ([], [], some "error: % at end of format string")
    | '%' :: rest, _ =>
      let (others, warnings, fault) := segments fuel rest
      (.text ['%'] :: others, warnings, fault)
    | _, [] => reserved '\x00'
    | _, c :: more =>
      if ['(', '[', '\x7b'].contains c then reserved c
      else if ['A', 'B', 'C', 'T'].contains c then
        match more with
        | [] =>
          ([.text ['%', c]], ["warning: format directive " ++ quoted (String.ofList ['%', c]) ++
            " should be followed by another character"], none)
        | second :: more =>
          let (others, warnings, fault) := segments fuel more
          (part c (some second) :: others, warnings, fault)
      else if plainLetters.contains c then
        let (others, warnings, fault) := segments fuel more
        (part c none :: others, warnings, fault)
      else
        let shown := '%' :: rest.take (rest.length - more.length)
        let (others, warnings, fault) := segments fuel more
        (.text shown :: others,
          ("warning: unrecognized format directive " ++ quoted (String.ofList ['%', c])) ::
            warnings, fault)
  | fuel + 1, c :: rest =>
    let run := (c :: rest).takeWhile fun c => c != '\\' && c != '%'
    let (others, warnings, fault) := segments fuel ((c :: rest).drop run.length)
    (.text run :: others, warnings, fault)

def format (channel : Option Nat) (value : Octets) : Reading Query := do
  let (parts, warnings, fault) := segments (value.length + 1) value.toList
  let _ ← (warnings.mapM fun line => Run.complain ("find: " ++ line) : Run _)
  match fault with
  | some text => refuse text
  | none => return .format channel parts

/-- Opens a file that is written to, unless it was opened before. -/
def openFile (word : Octets) : Reading Nat := do
  let path ← operand word
  match (← get).files.lookup path with
  | some channel => return channel
  | none =>
    let how : Run.Opening := { writes := true, creates := true, truncates := true }
    let opened : Except Fault Nat ← (Run.openPath how path : Run _)
    match opened with
    | .ok channel =>
      modify fun r => { r with files := (path, channel) :: r.files }
      return channel
    | .error fault => refuse (Quoting.plain path ++ ": " ++ fault.description)

/-! ## Programs -/

/-- The number of words up to the one that ends a program's, and whether that one is a plus sign. -/
def programEnd : List Octets → Bool → Nat → Option (Nat × Bool)
  | [], _, _ => none
  | word :: rest, braced, n =>
    if word = ";" then some (n, false)
    else if word = "+" && braced then some (n, true)
    else programEnd rest ((word.splitOn "\x7b\x7d").length != 1) (n + 1)

def program (word : Octets) (there asks : Bool) : Reading Query := do
  let rest := (← get).rest
  let found := if asks then
      (rest.findIdx? (· = ";")).map fun n => (n, false)
    else programEnd rest false 0
  match found with
  | none => refuse ("missing argument to " ++ quoted word)
  | some (0, _) => badValue word ";"
  | some (n, gathers) =>
    let words := rest.take n
    modify fun r => { r with rest := rest.drop (n + 1) }
    if !gathers then return .run { words, there, asks }
    let braces := words.filter fun w => (w.splitOn "\x7b\x7d").length != 1
    if 1 < braces.length then
      refuse ("Only one instance of \x7b\x7d is supported with " ++ word ++ " ... +")
    let last := words.getLast?.getD ""
    if last != "\x7b\x7d" then
      refuse ("In " ++ Quoting.plain (word ++ " ... \x7b\x7d +") ++ " the " ++
        Quoting.plain "\x7b\x7d" ++ " must appear by itself, but you specified " ++
        Quoting.plain last)
    return .gather { words := words.dropLast, there }

/-! ## Words -/

/-- Changes how directories are walked through, which any file answers with yes. -/
def changeWalk (change : Walk → Walk) : Reading Query := do
  modify fun r => { r with walk := change r.walk }
  return .always true

def primary (word : Octets) : Reading Query := do
  match word with
  | "-name" => return .name (← operand word) false
  | "-iname" => return .name (← operand word) true
  | "-path" | "-wholename" => return .path (← operand word) false
  | "-ipath" | "-iwholename" => return .path (← operand word) true
  | "-lname" => return .target (← operand word) false
  | "-ilname" => return .target (← operand word) true
  | "-regex" => return ← expression word false
  | "-iregex" => return ← expression word true
  | "-regextype" =>
    let value ← operand word
    match dialects.lookup value with
    | some dialect =>
      modify fun r => { r with dialect }
      return .always true
    | none =>
      refuse ("Unknown regular expression type " ++ Quoting.plain value ++ "; valid types are " ++
        ", ".intercalate (dialects.map fun entry => Quoting.plain entry.1) ++ ".")
  | "-type" => return .kind (← kinds word) false
  | "-xtype" => return .kind (← kinds word) true
  | "-empty" => return .empty
  | "-readable" => return .allowed .read
  | "-writable" => return .allowed .write
  | "-executable" => return .allowed .pass
  | "-size" => return ← size
  | "-perm" => return ← mode
  | "-links" => return ← measure word .links
  | "-inum" => return ← measure word .serial
  | "-uid" => return ← measure word .owner
  | "-gid" => return ← measure word .group
  | "-user" => return ← member word .owner users "a known user"
  | "-group" => return ← member word .group groups "an existing group"
  | "-nouser" | "-nogroup" => return .always false
  | "-fstype" =>
    let _ ← operand word
    return .always false
  | "-context" => refuse "invalid predicate -context: SELinux is not enabled."
  | "-newer" => return ← newer word .changed
  | "-anewer" => return ← newer word .read
  | "-cnewer" => return ← newer word .noted
  | "-mtime" => return ← days word .changed
  | "-atime" => return ← days word .read
  | "-ctime" => return ← days word .noted
  | "-mmin" => return ← minutes word .changed
  | "-amin" => return ← minutes word .read
  | "-cmin" => return ← minutes word .noted
  | "-used" =>
    let value ← operand word
    match age? value 0 (-day) with
    | some (order, start) => return .used (-start) order
    | none => refuse ("Invalid argument " ++ value ++ " to -used")
  | "-daystart" =>
    modify fun r =>
      if r.fullDays then r
      else { r with fullDays := true, now := Int.fdiv r.now day * day + day }
    return .always true
  | "-samefile" =>
    let path ← operand word
    let follows := (← get).walk.links != .never
    let found : Except Fault Location ← (Stamping.locationAt follows path : Run _)
    match found with
    | .ok location =>
      let tree := (← (get : Run _)).files.tree
      let twins := match tree.find? location with
        | some (.file file) =>
          if file.twin = 0 then []
          else tree.entries.filterMap fun entry =>
            match entry.2 with
            | .file other => if other.twin = file.twin then some entry.1 else none
            | _ => none
        | _ => []
      return .same (location :: twins)
    | .error fault => refuse (Quoting.plain path ++ ": " ++ fault.description)
  | "-print" => return .print none "\n"
  | "-print0" => return .print none "\x00"
  | "-fprint" => return .print (some (← openFile word)) "\n"
  | "-fprint0" => return .print (some (← openFile word)) "\x00"
  | "-printf" =>
    let value ← operand word
    return ← format none value
  | "-fprintf" =>
    let path := (← next?).getD ""
    let channel ← openFile word
    if (← next?).isNone then badValue word path
    let value ← operand word
    return ← format (some channel) value
  | "-ls" => return .list none
  | "-fls" => return .list (some (← openFile word))
  | "-delete" =>
    modify fun r => { r with walk := { r.walk with inner := true }, deletes := true }
    return .delete
  | "-prune" =>
    modify fun r => { r with prunes := true }
    return .prune
  | "-quit" => return .quit
  | "-true" => return .always true
  | "-false" => return .always false
  | "-exec" => return ← program word false false
  | "-execdir" => return ← program word true false
  | "-ok" => return ← program word false true
  | "-okdir" => return ← program word true true
  | "-maxdepth" =>
    let most ← depth word
    changeWalk fun walk => { walk with most := some most }
  | "-mindepth" =>
    let least ← depth word
    changeWalk fun walk => { walk with least }
  | "-depth" | "-d" => changeWalk fun walk => { walk with inner := true, innerChosen := true }
  | "-follow" => changeWalk fun walk => { walk with links := .always }
  | "-xdev" | "-mount" | "-noleaf" | "-warn" | "-nowarn" | "-ignore_readdir_race"
  | "-noignore_readdir_race" => return .always true
  | _ =>
    if word.startsWith "-newer" then return ← newerBy word
    refuse ("unknown predicate " ++ quoted word)

/-- Adds a piece, after an operator if it stands right behind a query. -/
def push (piece : Piece) (word : Octets) : Reading Unit := modify fun r =>
  let starts := match piece with
    | .query _ | .not | .open_ => true
    | _ => false
  let follows := r.tokens.head?.any fun token =>
    match token.piece with
    | .query _ | .close => true
    | _ => false
  let tokens := if starts && follows then { piece := .joint .and, word := "-a" } :: r.tokens
    else r.tokens
  { r with tokens := { piece, word } :: tokens }

/-- Whether a word belongs to an expression.  Whether it may be a path is given. -/
def isExpression (leads : Bool) (word : Octets) : Bool :=
  match word.toList with
  | '-' :: rest => !rest.isEmpty
  | [')'] | [','] => !leads
  | ['!'] | ['('] => true
  | _ => false

def readAll : Nat → Reading Unit
  | 0 => return
  | fuel + 1 => do
    match ← next? with
    | none => return
    | some word =>
      if !isExpression false word then
        let there : Except Fault Node ← (Run.nodeAt true word : Run _)
        let last := (← get).tokens.head?
        let hint := match last, there with
          | some token, .ok _ =>
            ["possible unquoted pattern after predicate " ++ quoted token.word ++ "?"]
          | _, _ => []
        refuseAll (["paths must precede expression: " ++ quoted word] ++ hint)
      advance
      match word with
      | "!" | "-not" => push .not word
      | "(" => push .open_ word
      | ")" => push .close word
      | "," => push (.joint .comma) word
      | "-a" | "-and" => push (.joint .and) word
      | "-o" | "-or" => push (.joint .or) word
      | _ =>
        push (.query (← primary word)) word
      readAll fuel

end Finding
end Shell
end LineShell
