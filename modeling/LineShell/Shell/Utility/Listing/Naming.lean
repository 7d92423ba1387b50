import LineShell.Shell.Search
import LineShell.Shell.Utility.FileMode
import LineShell.Shell.Utility.Quoting

/-!
# Names in listings

A name is written as it is, or in quotes of some kind.  A mark behind it may tell what has that
name, and so may a colour.
-/

namespace LineShell
namespace Shell
namespace Listing

structure Entry where
  name : Octets
  path : Octets
  /-- What is shown: what a link leads to, if links are followed. -/
  node : Node
  stamps : Stamps
  location : Option Location := none

inductive Style where
  | literal
  | shell
  | shellAlways
  | shellEscape
  | shellEscapeAlways
  | c
  | cMaybe
  | escape
  | locale
  | clocale
  deriving DecidableEq, Repr

def styleNames : List (List String × Style) :=
  [(["literal"], .literal), (["shell"], .shell), (["shell-always"], .shellAlways),
   (["shell-escape"], .shellEscape), (["shell-escape-always"], .shellEscapeAlways), (["c"], .c),
   (["c-maybe"], .cMaybe), (["escape"], .escape), (["locale"], .locale), (["clocale"], .clocale)]

/-- A byte that is escaped where it does not print, and where it is among some others. -/
def escapeByte (extra : List Char) (c : Char) : List Char :=
  if c = '\\' then ['\\', '\\']
  else if extra.contains c then ['\\', c]
  else if Quoting.prints c then [c]
  else Quoting.escape c

def inShellQuotes (name : Octets) : Octets :=
  let chars := name.toList
  if chars.contains '\'' && chars.all Quoting.isMild then "\"" ++ name ++ "\""
  else String.ofList
    ('\'' :: chars.flatMap (fun c => if c = '\'' then "'\\''".toList else [c]) ++ ['\''])

/-- Whether a name could stand in a script without quotes. -/
def isShellPlain (name : Octets) : Bool :=
  Quoting.isPlain (name.map fun c => if Quoting.prints c && c != ':' then c else 'x') &&
    !name.toList.any fun c => c = '\n' || c = '\t'

/-- A name as it is written in a style, where some bytes are escaped as well; blanks are escaped
only outside of quotes. -/
def Style.write (style : Style) (special : List Char) (name : Octets) : Octets :=
  let extra := special.filter (· != ' ')
  let marked := name.toList.any extra.contains
  let double := fun (extra : List Char) =>
    String.ofList ('"' :: name.toList.flatMap (escapeByte ('"' :: extra)) ++ ['"'])
  match style with
  | .literal => name
  | .shell => if isShellPlain name && !marked then name else inShellQuotes name
  | .shellAlways => inShellQuotes name
  | .shellEscape => if marked then Quoting.always name else Quoting.ifSpecial name
  | .shellEscapeAlways => Quoting.always name
  | .c | .clocale => double extra
  | .cMaybe =>
    let needs := name.toList.any fun c => !Quoting.prints c || c = '"' || extra.contains c
    if needs then double [] else name
  | .escape => String.ofList (name.toList.flatMap (escapeByte special))
  | .locale =>
    String.ofList ('\'' :: name.toList.flatMap (escapeByte ('\'' :: extra)) ++ ['\''])

/-- Whether the quotes of a style are left out where they are not needed. -/
def Style.varies (style : Style) : Bool :=
  style = .shell || style = .shellEscape || style = .cMaybe

inductive Marking where
  | none
  | slash
  | kind
  /-- Programs are marked as well. -/
  | full
  deriving DecidableEq, Repr

def markingNames : List (List String × Marking) :=
  [(["none"], .none), (["slash"], .slash), (["file-type"], .kind), (["classify"], .full)]

def mayRun (mode : Nat) : Bool := mode &&& 0o111 != 0

def Marking.mark (marking : Marking) (node : Node) : String :=
  match marking, node with
  | .none, _ => ""
  | _, .directory _ => "/"
  | .kind, .link _ | .full, .link _ => "@"
  | .full, .file file => if mayRun file.mode then "*" else ""
  | _, _ => ""

/-! ## Colours -/

def colourOf (node : Node) : Option String :=
  match node with
  | .directory folder =>
    let sticky := folder.mode &&& 0o1000 != 0
    let open_ := folder.mode &&& 0o002 != 0
    some (if sticky && open_ then "30;42" else if open_ then "34;42"
      else if sticky then "37;44" else "01;34")
  | .file file =>
    if file.mode &&& 0o4000 != 0 then some "37;41"
    else if file.mode &&& 0o2000 != 0 then some "30;43"
    else if mayRun file.mode then some "01;32" else none
  | .link _ => some "01;36"
  | .device _ => some "01;33"

def colourTerminals : List String :=
  ["Eterm", "ansi", "con", "cygwin", "dtterm", "gnome", "hurd", "jfbterm", "konsole", "kterm",
   "linux", "mlterm", "putty", "rxvt", "screen", "terminator", "tmux", "vt100", "vt220", "xterm"]

def knowsColours (terminal : Octets) : Bool :=
  terminal = "st" || (colourTerminals.any fun start => terminal.startsWith start) ||
    1 < (terminal.splitOn "color").length || 1 < (terminal.splitOn "direct").length

/-- A piece of a listing, which may have a colour. -/
structure Span where
  text : Octets
  colour : Option String := none

def columns (text : Octets) : Nat := (text.toList.filter Quoting.prints).length

def width (spans : List Span) : Nat :=
  spans.foldl (fun sum span => sum + columns span.text) 0

end Listing
end Shell
end LineShell
