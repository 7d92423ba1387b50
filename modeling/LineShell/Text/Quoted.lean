import LineShell.Text.Property.Extending
import LineShell.Text.Property.Unseen

/-!
# Quoted text

The log writes a text in quotation marks.  The quotation mark and the backslash are escaped, the
common controls have letters of their own, and any other character that does not show is written by
its code point in hexadecimal digits.

A quoted text writes a character as it is only if a reader sees it.  A character that does not show
is not seen, and neither is one that would melt into the quotation mark before it; the two sound
marks of halfwidth kana extend a character but take a place of their own, so they are seen.
-/

namespace LineShell

/-- Whether a character takes no place of its own. -/
def melts (c : Char) : Bool :=
  extendingRanges.has c && !(0xFF9E ≤ c.toNat && c.toNat ≤ 0xFF9F)

/-- Whether a character shows as itself, also right after a quotation mark. -/
def isPrintable (c : Char) : Bool :=
  if c.toNat < 0x7F then 0x20 ≤ c.toNat else !(unseenRanges.has c || melts c)

/-- The written form of one character between quotation marks. -/
def quoteChar (c : Char) : List Char :=
  if c = '"' then ['\\', '"']
  else if c = '\\' then ['\\', '\\']
  else if c = '\n' then ['\\', 'n']
  else if c = '\r' then ['\\', 'r']
  else if c = '\t' then ['\\', 't']
  else if c = '\x00' then ['\\', '0']
  else if isPrintable c then [c]
  else ['\\', 'u', '\x7b'] ++ Nat.toDigits 16 c.toNat ++ ['\x7d']

def quote (text : String) : String :=
  String.ofList ('"' :: text.toList.flatMap quoteChar ++ ['"'])

def quoteList (texts : List String) : String :=
  "[" ++ ", ".intercalate (texts.map quote) ++ "]"

end LineShell
