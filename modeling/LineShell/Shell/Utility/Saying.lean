import LineShell.Shell.Filling
import LineShell.Shell.Utility.Options

/-!
# Programs that say what they are told

These are `echo`, `printf` and `yes`, and the two that only give a status.
-/

namespace LineShell
namespace Shell
namespace Saying

def true_ : Tool := fun _ _ _ => return 0

def false_ : Tool := fun _ _ _ => return 1

/-! ## Echo -/

def letters : List (Char × Char) := Escape.letters

/-- Takes digits of a base behind a backslash as a byte. -/
def numbered (base most : Nat) (text : List Char) : Option (Char × List Char) :=
  let digits := (text.take most).takeWhile (isDigitOf base)
  if digits.isEmpty then none
  else some (Char.ofNat (ofDigits base digits % 256), text.drop digits.length)

/-- Replaces the escapes in a text, and says whether one of them ends all output. -/
def replaced : Nat → List Char → List Char × Bool
  | 0, _ | _, [] => ([], false)
  | fuel + 1, '\\' :: c :: rest =>
    if c = 'c' then ([], true)
    else
      let byte := match letters.lookup c with
        | some byte => some (byte, rest)
        | none =>
          if c = '0' then numbered 8 3 rest <|> some ('\x00', rest)
          else if c = 'x' then numbered 16 2 rest
          else numbered 8 3 (c :: rest)
      let (front, rest) := match byte with
        | some (byte, rest) => ([byte], rest)
        | none => (['\\', c], rest)
      let (others, ends) := replaced fuel rest
      (front ++ others, ends)
  | fuel + 1, c :: rest =>
    let (others, ends) := replaced fuel rest
    (c :: others, ends)

/-- The letters of the options in front of the operands, and the operands. -/
def echoOptions : List Octets → List Char × List Octets
  | [] => ([], [])
  | word :: words =>
    match word.toList with
    | '-' :: c :: rest =>
      if (c :: rest).all "neE".toList.contains then
        let (letters, words) := echoOptions words
        (c :: rest ++ letters, words)
      else ([], word :: words)
    | _ => ([], word :: words)

def echo : Tool := fun _ _ words => do
  let (letters, words) := echoOptions words
  let text := " ".intercalate words
  let escapes := (letters.reverse.find? fun c => c = 'e' || c = 'E') = some 'e'
  let (text, ends) := if escapes then replaced (text.length + 1) text.toList
    else (text.toList, false)
  Run.emit (String.ofList text ++ if ends || letters.contains 'n' then "" else "\n")
  return 0

/-! ## Formats -/

/-- Reads a character that is written by its number, behind the letter that says how many digits
that has.  Where it has no bytes of its own, the number is shown. -/
def numberedCharacter (letter : Char) (text : List Char) : Escape.Outcome :=
  let count := if letter = 'u' then 4 else 8
  let digits := (text.take count).takeWhile (isDigitOf 16)
  if digits.length < count then .refused "missing hexadecimal number in escape"
  else
    let n := ofDigits 16 digits
    let shown := fun (upper : Bool) (least : Nat) =>
      let digits := Fitting.hexDigits least n
      if upper then digits.map Char.toUpper else digits
    if n ≤ 0x9f && n != 0x24 && n != 0x40 && n != 0x60 || 0xd800 ≤ n && n ≤ 0xdfff then
      .refused ("invalid universal character name \\" ++
        String.ofList (letter :: shown false count))
    else if n < 128 then .bytes [Char.ofNat n] (text.drop count)
    else
      let front := if n < 0x10000 then "\\u".toList ++ shown true 4
        else "\\U".toList ++ shown true 8
      .bytes front (text.drop count)

/-- Reads what follows a backslash in a format, or in an operand. -/
def escape (inOperand : Bool) (text : List Char) : Escape.Outcome :=
  match text with
  | 'c' :: _ => .ends
  | '"' :: rest => .bytes ['"'] rest
  | 'x' :: rest =>
    match numbered 16 2 rest with
    | some (c, rest) => .bytes [c] rest
    | none => .refused "missing hexadecimal number in escape"
  | 'u' :: rest => numberedCharacter 'u' rest
  | 'U' :: rest => numberedCharacter 'U' rest
  | c :: rest =>
    match letters.lookup c with
    | some byte => .bytes [byte] rest
    | none =>
      if !Escape.isOctal c then .bytes ['\\', c] rest
      else
        let digits := if inOperand && c = '0' then rest else text
        match numbered 8 3 digits with
        | some (c, rest) => .bytes [c] rest
        | none => .bytes ['\x00'] digits
  | [] => .bytes ['\\'] []

def allows (d : Directive) (letter : Char) : Bool :=
  let plain := d.flags.isEmpty && d.width = .absent && d.precision = .absent
  let without := fun (letters : String) => !letters.toList.contains letter
  "aAcdeEfFgGiosuxX".toList.contains letter &&
    (!(d.flags.contains '\'' || d.flags.contains 'I') || without "aAceEosxX") &&
    (!d.flags.contains '#' || without "cdisu") && (!d.flags.contains '0' || without "cs") &&
    (d.precision = .absent || letter != 'c') || plain && (letter = 'b' || letter = 'q')

def manner (name : Octets) : Manner where
  tell := Tool.complain name
  escape := escape false
  operandEscape := escape true
  quote := Quoting.plain
  quoteOperand := Quoting.ifSpecial
  noNumber := "expected a numeric value"
  notWhole := "value not completely converted"
  noLetter := fun typed => typed ++ ": invalid conversion specification"
  badDirective := fun typed => typed ++ ": invalid conversion specification"
  marks := "'I#-+ 0".toList
  sizes := "lLhjtz".toList
  allows
  failure := 1
  bits := 64
  rangeFirst := true
  surplus := fun rest =>
    some ("warning: " ++ rest ++ ": character(s) following character constant have been ignored")

def printf : Tool := fun _ name words => do
  if words = ["--help"] then
    Tool.showUsage name
    return 0
  if words = ["--version"] then
    Tool.showRelease name
    return 0
  let words := if words.head? = some "--" then words.tail else words
  match words with
  | [] => Tool.misuse name "missing operand" 1
  | format :: operands =>
    let (_, f) ← (Fill.all format.toList (operands.length + 1)).run
      { manner := manner name, operands }
    Run.emit (joinChunks f.written)
    if !f.givenUp && !f.operands.isEmpty then
      Tool.complain name
        ("warning: ignoring excess arguments, starting with " ++
          Quoting.plain (f.operands.headD ""))
    return f.status

/-! ## Again and again -/

/-- Writes a text again and again, as long as it can be written. -/
def repeatText (text : Octets) : Nat → Run Unit
  | 0 => return
  | fuel + 1 => do
    Run.emit text
    if (← get).writeFault.isNone then repeatText text fuel

def yes : Tool := fun _ _ words => do
  let words := if words.head? = some "--" then words.tail else words
  let line := (if words.isEmpty then "y" else " ".intercalate words) ++ "\n"
  repeatText line (2 * pipeLimit)
  return 1

end Saying
end Shell
end LineShell
