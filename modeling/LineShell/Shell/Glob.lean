import LineShell.Shell.Field
import LineShell.Shell.Paths

/-!
# Patterns for paths

A field with unquoted pattern characters stands for the paths of files that it matches, in order.  A
pattern matches names one by one between slashes, and a name that starts with a dot only if the
pattern starts with one.  A field that matches nothing stands for itself.
-/

namespace LineShell
namespace Shell
namespace Glob

/-- The paths of all files that marks match below a directory, whose path is given. -/
def below : Nat → Octets → Field → Run (List Octets)
  | 0, _, _ => return []
  | fuel + 1, start, marks => do
    if !Pattern.isPattern marks then
      let path := start ++ Field.text marks
      return if (← Run.nodeAt false path).toOption.isSome then [path] else []
    let component := marks.takeWhile (·.char != '/')
    let after := marks.drop component.length
    let slashes := after.takeWhile (·.char = '/')
    let rest := after.drop slashes.length
    if !Pattern.isPattern component then
      below fuel (start ++ Field.text (component ++ slashes)) rest
    else
      match ← Run.namesIn (if start.isEmpty then "." else start) with
      | .error _ => return []
      | .ok names =>
        let dotted := component.head?.any (·.char = '.')
        let pattern := Pattern.ofMarks component
        let candidates := if dotted then "." :: ".." :: names else
          names.filter fun name => !name.startsWith "."
        let found := candidates.filter fun name => Pattern.accepts pattern name.toList
        if slashes.isEmpty then return found.map (start ++ ·)
        let inside ← found.mapM fun name => below fuel (start ++ name ++ Field.text slashes) rest
        return inside.flatten

def paths (field : Field) : Run (List Octets) := do
  if !Pattern.isPattern field || (← get).switches.noPatterns then return [Field.text field]
  let found ← below (field.length + 1) "" field
  return if found.isEmpty then [Field.text field] else found.mergeSort fun a b => !(b < a)

end Glob
end Shell
end LineShell
