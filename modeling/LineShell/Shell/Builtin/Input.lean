import LineShell.Shell.Builtin.Basic
import LineShell.Shell.Field

/-!
# The command that reads a line

A line is read byte by byte, so that what follows it is left to others, and cut into as many
fields as there are variables.  A backslash quotes the byte after it, and joins two lines, unless
that was switched off.
-/

namespace LineShell
namespace Shell
namespace Builtin

/-- Reads a line: its bytes, the last one first, and whether it was complete. -/
def readLine (raw : Bool) : Nat → Bool → Field → Run (Field × Bool)
  | 0, _, line => return (line, false)
  | fuel + 1, escaping, line => do
    match ← Run.read 0 1 with
    | .ok [c] =>
      if c = '\x00' then readLine raw fuel escaping line
      else if escaping then
        let line := if c = '\n' then line else { char := c, quoted := true } :: line
        readLine raw fuel false line
      else if c = '\\' && !raw then readLine raw fuel true line
      else if c = '\n' then return (line, true)
      else readLine raw fuel false ({ char := c, splits := true } :: line)
    | _ => return (line, false)

def lineBound : Nat := 1000000000000

def read : Builtin := plain fun _ words => do
  let (options, operands) ← readOptions [('p', true), ('r', false)] (words.length + 1) words
  if operands.isEmpty then Run.fail "arg count"
  let (line, complete) ← readLine (options.has 'r') lineBound false []
  let separators ← Expansion.separators
  let fields := Field.distribute separators operands.length line.reverse
  for (name, field) in operands.zip fields do assign name (some (Field.text field)) false
  return if complete then 0 else 1

end Builtin
end Shell
end LineShell
