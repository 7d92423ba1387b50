import LineShell.Text.Numeral
import LineShell.Text.Octets

/-!
# Names in messages of programs

A name in a message is quoted so that a script could hold it.  It stands in single quotes, a single
quote itself makes them double quotes if nothing in the name has a meaning there, and bytes that do
not print are escaped between quotes of their own.  Another kind of message escapes inside one pair
of single quotes.
-/

namespace LineShell
namespace Shell
namespace Quoting

def prints (c : Char) : Bool := 0x20 ≤ c.toNat && c.toNat < 0x7f

/-- The letters that escape bytes which do not print. -/
def letters : List (Char × Char) :=
  [('\x07', 'a'), ('\x08', 'b'), ('\t', 't'), ('\n', 'n'), ('\x0b', 'v'), ('\x0c', 'f'),
   ('\r', 'r')]

def octal (c : Char) : List Char :=
  let digit := fun n => Char.ofNat ('0'.toNat + n % 8)
  ['\\', digit (c.toNat / 64), digit (c.toNat / 8), digit c.toNat]

/-- How a byte that does not print is escaped. -/
def escape (c : Char) : List Char :=
  match letters.lookup c with
  | some letter => ['\\', letter]
  | none => octal c

/-- The bytes that mean the same in double quotes as outside of quotes, or need quotes of any
kind. -/
def isMild (c : Char) : Bool := c.isAlphanum || " %'+,-./:@]_".toList.contains c

/-- Writes bytes inside single quotes.  Whether the last one was escaped is given. -/
def body : Bool → List Char → List Char
  | _, [] => []
  | escaping, c :: rest =>
    if !prints c then
      (if escaping then [] else "'$'".toList) ++ escape c ++ body true rest
    else if c = '\'' then "'\\''".toList ++ body false rest
    else (if escaping then "''".toList else []) ++ c :: body false rest

def always (name : Octets) : Octets :=
  let chars := name.toList
  let quotes := chars.contains '\''
  if quotes && chars.all isMild then "\"" ++ name ++ "\""
  else
    let escaping := quotes && chars.getLast?.any fun c => !prints c
    String.ofList ('\'' :: body escaping chars ++ ['\''])

def isPlain (name : Octets) : Bool :=
  let chars := name.toList
  let first := chars.head?
  !chars.isEmpty && name != "\x7b" && name != "\x7d" && first != some '#' && first != some '~' &&
    chars.all fun c => prints c && !" !\"$&'()*:;<=>?[\\^\x60|".toList.contains c

/-- The name, in quotes if it needs them, where a colon does not count. -/
def ifSpecial (name : Octets) : Octets :=
  if isPlain (name.map fun c => if c = ':' then '.' else c) then name else always name

/-- The name, in quotes if it needs them; also if it has a colon, as one follows it in messages. -/
def ifNeeded (name : Octets) : Octets := if isPlain name then name else always name

def plain (name : Octets) : Octets :=
  let inside := name.toList.flatMap fun c =>
    if c = '\'' || c = '\\' then ['\\', c] else if prints c then [c] else escape c
  String.ofList ('\'' :: inside ++ ['\''])

/-- The name, in double quotes where backslashes escape if it needs that. -/
def doubleIfNeeded (name : Octets) : Octets :=
  let chars := name.toList
  if chars.all fun c => prints c && c != '"' && c != ':' then name
  else
    let inside := chars.flatMap fun c =>
      if c = '"' || c = '\\' then ['\\', c] else if prints c then [c] else escape c
    String.ofList ('"' :: inside ++ ['"'])

end Quoting
end Shell
end LineShell
