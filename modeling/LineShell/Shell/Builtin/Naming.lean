import LineShell.Shell.Builtin.Basic
import LineShell.Shell.Search

/-!
# Commands that say what a name means

A name may be a keyword, stand for other text, or name a function, a command of the shell or a
program, in this order.
-/

namespace LineShell
namespace Shell
namespace Builtin

inductive Meaning where
  | function (line : Nat) (body : Script)
  | builtin (builtin : Builtin)
  | other

/-- Looks up what a name means as a command, where functions may not count. -/
def meaning (builtins : Builtins) (functions : Bool) (name : Octets) : Run Meaning := do
  if name.toList.contains '/' then return .other
  let s ← get
  match if functions then s.functions.lookup name else none with
  | some (line, body) => return .function line body
  | none =>
    let spoken := fun builtin : Builtin => !builtin.extended || s.dialect = .extended
    return ((builtins.lookup name).filter spoken).elim .other .builtin

def describeProgram (searchPath : Option Octets) (verbose : Bool) (name : Octets) : Run Nat := do
  let s ← get
  let tracked := if searchPath.isNone then s.found.lookup name else none
  let found ← match tracked with
    | some path => pure (some path)
    | none =>
      if name.toList.contains '/' then
        pure (if (← Run.nodeAt true name).toOption.isSome then some name else none)
      else
        let usual ← Search.current
        pure (← Search.find (searchPath.getD usual) name).toOption
  match found with
  | some path =>
    let role := if tracked.isSome then " a tracked alias for " else " "
    Run.emitLine (if verbose then name ++ " is" ++ role ++ path else path)
    return 0
  | none =>
    if verbose then Run.emitLine (name ++ ": not found")
    return 127

def describe (builtins : Builtins) (searchPath : Option Octets) (verbose : Bool) (name : Octets) :
    Run Nat := do
  let s ← get
  let tell := fun long short : Octets => do
    Run.emitLine (if verbose then name ++ " is " ++ long else short)
    return 0
  if s.dialect.keywords.contains name then tell "a shell keyword" name
  else
    match s.aliases.lookup name with
    | some text =>
      let text := String.ofList text
      tell ("an alias for " ++ text) ("alias " ++ name ++ "=" ++ quoted text)
    | none =>
      match ← meaning builtins true name with
      | .function .. => tell "a shell function" name
      | .builtin builtin =>
        tell ((if builtin.special then "a special " else "a ") ++ "shell builtin") name
      | .other => describeProgram searchPath verbose name

def type (builtins : Builtins) : Builtin := plain fun _ words => do
  let answers ← words.mapM (describe builtins none true)
  return answers.foldl (· ||| ·) 0

/-- The command that runs another one under its own name, as far as it only describes it. -/
def command (builtins : Builtins) : Builtin := plain fun _ words => do
  let (options, operands) ← options "pvV" words
  let verbose := options.has 'V'
  match operands with
  | name :: _ =>
    if verbose || options.has 'v' then
      describe builtins (if options.has 'p' then some Search.hostPath else none) verbose name
    else return 0
  | [] => return 0

def hash (builtins : Builtins) : Builtin := plain fun _ words => do
  let (options, operands) ← options "r" words
  if options.has 'r' then
    Search.forgetAll
    return 0
  if operands.isEmpty then
    let entries := (← get).found
    for (_, path) in entries.mergeSort (fun a b => group a.1 ≤ group b.1) do Run.emitLine path
    return 0
  let known ← operands.mapM fun name => do
    match ← meaning builtins true name with
    | .other =>
      if name.toList.contains '/' then return true
      match ← Search.find (← Search.current) name with
      | .ok path =>
        Search.remember name path
        return true
      | .error fault =>
        Run.warn (name ++ ": " ++ (← Search.faultText name fault))
        return false
    | _ => return true
  return if known.all id then 0 else 1
where
  group (name : String) : Nat :=
    let codes := name.toList.map Char.toNat
    (16 * codes.headD 0 + codes.foldl (· + ·) 0) % Search.groupCount

end Builtin
end Shell
end LineShell
