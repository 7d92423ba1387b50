import LineShell.Shell.Builtin.Basic
import LineShell.Shell.Filling

/-!
# Commands that write

`echo` writes its operands and knows escapes in them.  `printf` fills a format with its operands,
and fills it again as long as operands are left.
-/

namespace LineShell
namespace Shell
namespace Builtin

/-- Replaces the escapes in operands and joins them, up to one that ends all output. -/
def joinEscaped : List Octets → List Char × Bool
  | [] => ([], false)
  | word :: words =>
    let read := Escape.readInOperand Escape.read
    let (text, ends) := Escape.replaced read (word.length + 1) word.toList
    if ends.isSome then (text, true)
    else if words.isEmpty then (text, false)
    else
      let (others, ends) := joinEscaped words
      (text ++ ' ' :: others, ends)

def echo : Builtin := plain fun _ words => do
  let bare := words.head? = some "-n"
  let (text, ends) := joinEscaped (if bare then words.tail else words)
  Run.emit (String.ofList text ++ if bare || ends then "" else "\n")
  return 0

def manner : Manner where
  tell := Run.warn
  quote := id
  noNumber := "expected numeric value"
  notWhole := "not completely converted"
  noLetter := fun _ => "missing format character"
  badDirective := fun typed => typed ++ ": invalid directive"
  allows := fun _ letter => "bcsdiaAeEfFgGouxX".toList.contains letter

def printf : Builtin := plain fun _ words => do
  match ← operands words with
  | [] => Run.fail "usage: printf format [arg ...]"
  | format :: operands =>
    let (_, f) ← (Fill.all format.toList (operands.length + 1)).run { manner, operands }
    Run.emit (joinChunks f.written)
    return f.status

end Builtin
end Shell
end LineShell
