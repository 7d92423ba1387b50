import LineShell.Shell.Builtin.Table
import LineShell.Shell.Program

/-!
# Running scripts

A command is expanded first, then its redirections are made, its variables are set, and it is
shown if that is wanted; then it runs.  A command of the shell runs in the shell's process, a
function too, and a program in a process of its own, unless nothing is left to do after it.
-/

namespace LineShell
namespace Shell
namespace Evaluation

def atLine (line : Nat) : Run Unit := modify fun s => { s with line }

/-! ## Loops -/

inductive Round where
  | whole
  | cutShort
  | left
  /-- And so is what it stands in. -/
  | leftAll
  deriving DecidableEq, Repr

def endRound : Run Round := do
  match (← get).skipping with
  | .nothing => return .whole
  | .returns _ => return .leftAll
  | .breaks n =>
    modify fun s => { s with skipping := if n ≤ 1 then .nothing else .breaks (n - 1) }
    return .left
  | .continues n =>
    modify fun s => { s with skipping := if n ≤ 1 then .nothing else .continues (n - 1) }
    return if n ≤ 1 then .cutShort else .left

def roundBound : Nat := 1000000000000000

def asLoop (body : Run Nat) : Run Nat := do
  modify fun s => { s with loops := s.loops + 1 }
  let status ← body
  modify fun s => { s with loops := s.loops - 1 }
  return status

/-- Runs rounds as long as a condition has the wanted outcome. -/
def rounds (condition body : Run Nat) (wanted : Bool) : Nat → Nat → Run Nat
  | 0, status => return status
  | fuel + 1, status => do
    let outcome ← condition
    match ← endRound with
    | .leftAll => return outcome
    | .left => return status
    | .cutShort => rounds condition body wanted fuel status
    | .whole =>
      if (outcome = 0) != wanted then return status
      let status ← body
      match ← endRound with
      | .left | .leftAll => return status
      | _ => rounds condition body wanted fuel status

/-- Runs rounds as long as a test holds, with a step after each one. -/
def roundsCounted (test : Run Bool) (step body : Run Nat) : Nat → Nat → Run Nat
  | 0, status => return status
  | fuel + 1, status => do
    if !(← test) then return status
    let status ← body
    match ← endRound with
    | .left | .leftAll => return status
    | _ =>
      let _ ← step
      roundsCounted test step body fuel status

def roundsFor (name : String) (body : Run Nat) : Nat → List Octets → Run Nat
  | status, [] => return status
  | _, value :: values => do
    Run.setVariable name (some value) false
    let status ← body
    match ← endRound with
    | .left | .leftAll => return status
    | _ => roundsFor name body status values

/-- Does something whose failure is a status and no end of the script. -/
def sparing (body : Run Nat) : Run Nat :=
  tryCatch body fun halt => if halt = .failed then return 1 else throw halt

/-! ## Words of a command -/

/-- A command as far as it was expanded. -/
structure Line where
  words : List Octets := []
  /-- The words that are still to be expanded. -/
  rest : List Word := []

def Line.grow (e : Engine) : List Octets → List Word → Run Line
  | words, [] => return { words }
  | words, word :: rest => do
    let more ← Expansion.fields e.substitute .atStart word
    if more.isEmpty then grow e words rest else return { words := words ++ more, rest }

/-- What the words in front of a command's own name ask for. -/
structure Manner where
  functions : Bool := true
  /-- Whether programs are looked for on the host's search path. -/
  hostPath : Bool := false

/-- What the words behind `command` are: options that describe, or another command. -/
inductive Behind where
  | itself (line : Line)
  | other (line : Line) (hostPath : Bool)

/-- Reads the words behind `command`, those that were passed first. -/
def readBehind (e : Engine) (hostPath : Bool) : Nat → List Octets → Line → Run Behind
  | 0, passed, line => return .itself { line with words := passed ++ line.words }
  | fuel + 1, passed, line => do
    let line ← if line.words.isEmpty then Line.grow e [] line.rest else pure line
    let itself : Behind := .itself { line with words := passed ++ line.words }
    match line.words with
    | [] => return itself
    | word :: words =>
      let passed := passed ++ [word]
      match word.toList with
      | ['-', '-'] =>
        let line ← if words.isEmpty then Line.grow e [] line.rest else pure { line with words }
        return if line.words.isEmpty then .itself { line with words := passed }
          else .other line hostPath
      | '-' :: c :: letters =>
        if (c :: letters).all (· = 'p') then readBehind e true fuel passed { line with words }
        else return itself
      | _ => return .other line hostPath

/-- What a command turned out to be. -/
structure Found where
  line : Line
  meaning : Builtin.Meaning
  manner : Manner
  /-- Whether the first name belongs to the language, and whether that is known. -/
  special : Option Bool

/-- Finds out what a command is; `command` gives way to the command behind it. -/
def findOut (e : Engine) : Nat → Manner → Option Bool → Line → Run Found
  | 0, manner, special, line => return { line, meaning := .other, manner, special }
  | fuel + 1, manner, special, line => do
    let name := line.words.headD ""
    match ← Builtin.meaning Builtin.table manner.functions name with
    | .builtin builtin =>
      let found : Found :=
        { line, meaning := .builtin builtin, manner
          special := some (special.getD builtin.special) }
      if name != "command" then return found
      match ← readBehind e manner.hostPath (line.words.length + line.rest.length + 1) [name]
          { line with words := line.words.tail } with
      | .itself line => return { found with line }
      | .other line hostPath =>
        findOut e fuel { functions := false, hostPath } found.special line
    | meaning => return { line, meaning, manner, special }

def operand (e : Engine) (assigns : Bool) (word : Word) : Run (List Octets) := do
  match if assigns then assignment? .plain word else none with
  | some (.scalar name _ _ value) =>
    return [name ++ "=" ++ (← Expansion.text e.substitute .afterColons value)]
  | _ => Expansion.fields e.substitute .atStart word

/-! ## Variables on a command's line -/

/-- Puts aside what a variable was, until the command ends. -/
def putAside (name : String) : Run Unit := modify fun s =>
  match s.frames with
  | [] => s
  | frame :: frames =>
    let entry := (name, s.vars.lookup name)
    { s with frames := { frame with vars := entry :: frame.vars } :: frames }

/-- Takes back what was put aside, down to a number of frames. -/
def takeBack (depth : Nat) : Run Unit := do
  let s ← get
  let done := s.frames.take (s.frames.length - depth)
  done.forM fun frame => do
    frame.vars.forM fun (name, before) => Run.putVariable name before
    if let some switches := frame.switches then modify fun s => { s with switches }
  modify fun s => { s with frames := s.frames.drop (s.frames.length - depth) }

def putValues (old : List Octets) (place : Nat) (values : List Octets) : List Octets :=
  let padded := old ++ List.replicate (place - old.length) ""
  padded.take place ++ values ++ padded.drop (place + values.length)

/-- Sets a variable as a word on a command's line asks for, and gives the text of that word. -/
def assignOne (e : Engine) (aside exported : Bool) (a : Assignment) : Run Octets := do
  match a with
  | .scalar name none false value =>
    let value ← Expansion.text e.substitute .afterColons value
    if aside then putAside name
    Run.setVariable name (some value) (aside || exported)
    return name ++ "=" ++ value
  | .scalar name none true value =>
    let more ← Expansion.text e.substitute .afterColons value
    let value := ((← Run.value? name).getD "") ++ more
    if aside then putAside name
    Run.setVariable name (some value) (aside || exported)
    return name ++ "=" ++ value
  | .scalar name (some index) appends value =>
    let place ← Calculation.evaluate (← Expansion.text e.substitute .nowhere index)
    let value ← Expansion.text e.substitute .afterColons value
    modify fun s =>
      let old := (s.arrays.lookup name).getD []
      let n := place.toNatClampNeg
      let value := if appends then old.getD n "" ++ value else value
      { s with arrays := (name, putValues old n [value]) :: s.arrays.filter (·.1 != name) }
    return name ++ "=" ++ value
  | .array name appends words =>
    let values := (← words.mapM (Expansion.fields e.substitute .atStart)).flatten
    modify fun s =>
      let old := if appends then (s.arrays.lookup name).getD [] else []
      { s with arrays := (name, old ++ values) :: s.arrays.filter (·.1 != name) }
    return name ++ "=" ++ "(" ++ " ".intercalate values ++ ")"

/-- Shows a command before it runs, on the stream of errors as it was. -/
def trace (e : Engine) (errors : Option Nat) (words : List Octets) : Run Unit := do
  if (← get).switches.traces then
    let sign := (← Run.value? "PS4").getD ""
    modify fun s => { s with switches := { s.switches with traces := false } }
    let start ← e.expandText sign
    modify fun s => { s with switches := { s.switches with traces := true } }
    let now := (← get).descriptors.lookup 2
    Run.setDescriptor 2 errors
    Run.complain (start ++ " ".intercalate words)
    Run.setDescriptor 2 now

/-! ## What commands do -/

def runBuiltin (e : Engine) (at_ : Standpoint) (builtin : Builtin) (words : List Octets) :
    Run Nat := do
  let name := words.headD ""
  let speaker := (← get).speaker
  let restore : Run Unit := modify fun s => { s with speaker, writeFault := none }
  modify fun s => { s with speaker := some name, writeFault := none }
  let status ← tryCatch (builtin.run e at_ name words.tail) fun halt => do
    restore
    throw halt
  modify fun s => { s with speaker := some name }
  let failed := (← get).writeFault.isSome
  if failed then Run.warn (name ++ ": I/O error")
  restore
  let status := if failed then status ||| 1 else status
  Engine.settle status
  return status

def callLimit : Nat := 1000

def callFunction (e : Engine) (at_ : Standpoint) (body : Script) (operands : List Octets) :
    Run Nat := do
  let s ← get
  if callLimit ≤ s.functionDepth then
    Run.fail ("Maximum function recursion depth (" ++ Numeral.decimal callLimit ++ ") reached")
  set { s with operands, loops := 0, functionDepth := s.functionDepth + 1
               optionIndex := 1, optionOffset := none }
  let restore : Run Unit := modify fun t =>
    { t with
      operands := s.operands
      loops := s.loops
      functionDepth := s.functionDepth
      optionIndex := s.optionIndex
      optionOffset := s.optionOffset
      skipping := match t.skipping with
        | .returns _ => .nothing
        | other => other }
  let status ← tryCatch (e.evaluate { tested := at_.tested } body) fun halt => do
    restore
    throw halt
  restore
  return status

/-- Runs a program in place of the process, or complains and ends the process. -/
def become (e : Engine) (searchPath : Octets) (words : List Octets) : Run Nat := do
  match ← Program.locate searchPath words with
  | .ok (image, words) =>
    modify fun s => { s with vars := Builtin.inGroups s.vars }
    Program.start e image words
  | .error fault =>
    let absent := Search.isAbsence fault || fault = .tooManyLinks || fault = .nameTooLong
    let status := if absent then 127 else 126
    Run.warn (words.headD "" ++ ": " ++ (← Search.faultText (words.headD "") fault))
    Engine.settle status
    throw .done

/-- Runs a program in place of the process, which ends with it. -/
def becomeForGood (e : Engine) (searchPath : Octets) (words : List Octets) : Run Nat := do
  let status ← become e searchPath words
  Engine.settle status
  throw .replaced

/-- Finds a program; the answer is whether there is one, which is remembered. -/
def findProgram (hostPath : Option Octets) (name : Octets) : Run Bool := do
  if name.toList.contains '/' then return true
  let usual ← Search.current
  match ← Search.find (hostPath.getD usual) name with
  | .ok path =>
    if hostPath.isNone then Search.remember name path
    return true
  | .error fault =>
    Run.warn (name ++ ": " ++ (← Search.faultText name fault))
    return false

def runProgram (e : Engine) (at_ : Standpoint) (manner : Manner) (words : List Octets) :
    Run Nat := do
  let hostPath := if manner.hostPath then some Search.hostPath else none
  if !(← findProgram hostPath (words.headD "")) then return 127
  let searchPath := hostPath.getD (← Search.current)
  if at_.exits && !(← Process.hasTraps) then becomeForGood e searchPath words
  else Process.run (become e searchPath words)

def runFound (e : Engine) (at_ : Standpoint) (found : Found) (words : List Octets) : Run Nat := do
  match found.meaning with
  | .function _ body => callFunction e at_ body words.tail
  | .other => runProgram e at_ found.manner words
  | .builtin builtin =>
    if words.head? = some "exec" then
      runBuiltin e at_
        { builtin with run := fun e _ _ words => do
            match ← Builtin.operands words with
            | [] => return 0
            | words =>
              modify fun s => { s with switches := { s.switches with interactive := false } }
              becomeForGood e (← Search.current) words }
        words
    else runBuiltin e at_ builtin words

def command (e : Engine) (at_ : Standpoint) (line : Nat) (assignments : List Assignment)
    (words : List Word) (redirections : List Redirection) : Run Nat := do
  atLine line
  modify fun s => { s with substituted := 0 }
  let first ← Line.grow e [] words
  let nothing : Found := { line := first, meaning := .other, manner := {}, special := none }
  let found ← if first.words.isEmpty then pure nothing
    else findOut e (words.length + 1) {} none first
  let assigns := match found.meaning with
    | .builtin builtin => builtin.assigns
    | _ => false
  let more ← found.line.rest.mapM (operand e assigns)
  let all := found.line.words ++ more.flatten
  let isEmpty := all.isEmpty
  let special := found.special = some true
  let aside := !isEmpty && !special
  let isExec := found.line.words.head? = some "exec" && found.special.isSome
  let depth := (← get).frames.length
  if aside then modify fun s => { s with frames := {} :: s.frames }
  let errors := (← get).descriptors.lookup 2
  let requests ← redirections.mapM (Redirecting.request e.substitute)
  let refused : Run Nat := do
    Engine.settle 2
    if special then throw .failed
    return 2
  let body : Run Nat := do
    let texts ← assignments.mapM (assignOne e aside (isExec && 1 < all.length))
    if !isEmpty || !texts.isEmpty then trace e errors (texts ++ all)
    if isEmpty then return (← get).substituted
    tryCatch (runFound e at_ found all) fun halt => do
      let isBuiltin := match found.meaning with
        | .builtin _ => true
        | _ => false
      if halt = .failed && isBuiltin && !special then return (← get).status else throw halt
  let status ← Redirecting.during isExec requests body refused
  takeBack depth
  return status

/-! ## Conditions of the extended language -/

def condition (e : Engine) : Condition → Run Bool
  | .word operand => return !(← Expansion.text e.substitute .atStart operand).isEmpty
  | .unary operator operand => do
    Builtin.Condition.testUnary operator (← Expansion.text e.substitute .atStart operand)
  | .binary operator left right => do
    let a ← Expansion.text e.substitute .atStart left
    let matched : Run Bool := do
      return Pattern.accepts (← Expansion.pattern e.substitute right) a.toList
    match operator with
    | "=" | "==" => matched
    | "!=" => return !(← matched)
    | _ =>
      let b ← Expansion.text e.substitute .atStart right
      let value := fun text => do return (← Calculation.evaluate text).toInt
      if Builtin.Condition.binaryOperators.contains operator && operator.startsWith "-" &&
          !(["-nt", "-ot", "-ef"].contains operator) then
        Builtin.Condition.testBinary operator (Numeral.decimal (← value a))
          (Numeral.decimal (← value b))
      else Builtin.Condition.testBinary operator a b
  | .negation inner => return !(← condition e inner)
  | .both first second => do if ← condition e first then condition e second else return false
  | .either first second => do if ← condition e first then return true else condition e second

/-! ## Scripts -/

def lookAhead (stages : List Script) : Run Unit := stages.forM fun stage => do
  match stage with
  | .simple _ _ (word :: _) _ =>
    if let some chars := plain? word then
      let name := String.ofList chars
      if let .other := ← Builtin.meaning Builtin.table true name then
        if !name.toList.contains '/' then
          if let .ok path := ← Search.find (← Search.current) name then Search.remember name path
  | _ => return

/-- Runs the stages of a pipeline from the first to the last, each on the output of the one before,
and gives the status of the last one. -/
def pipeline (e : Engine) (at_ : Standpoint) : Option Nat → List Script → Run Nat
  | _, [] => return 0
  | input, stage :: others => do
    let output ← if others.isEmpty then pure none
      else some <$> Run.newChannel (.sink [] 0 (some pipeLimit))
    let status ← e.fork do
      if let some index := input then Run.setDescriptor 0 (some index)
      if let some index := output then Run.setDescriptor 1 (some index)
      e.evaluate { at_ with exits := true } stage
    match output with
    | none => return status
    | some index =>
      if let some (.sink chunks _ _) := (← get).channels[index]? then
        Run.setChannel index (.source (joinChunks chunks).toList)
      pipeline e at_ output others

def chooseArm (e : Engine) (subject : Octets) :
    List (List Word × Script) → Run (Option Script)
  | [] => return none
  | (patterns, body) :: arms => do
    match ← firstMatch patterns with
    | true => return some body
    | false => chooseArm e subject arms
where
  firstMatch : List Word → Run Bool
    | [] => return false
    | pattern :: others => do
      if Pattern.accepts (← Expansion.pattern e.substitute pattern) subject.toList then return true
      else firstMatch others

/-- What a script came to: whether its status was set, and whether its failure is looked at. -/
structure Outcome where
  status : Option Nat
  checked : Bool := false

def body (e : Engine) (at_ : Standpoint) : Script → Run Outcome
  | .skip => return { status := none }
  | .simple line assignments words redirections => do
    return { status := some (← command e at_ line assignments words redirections), checked := true }
  | .pipeline stages => do
    lookAhead stages
    return { status := some (← pipeline e at_ none stages), checked := true }
  | .beside line inner => do
    atLine line
    let _ ← Engine.putOff inner
    return { status := some 0, checked := true }
  | .subshell line inner redirections => do
    atLine line
    let requests ← redirections.mapM (Redirecting.request e.substitute)
    let inside : Run Nat := do
      requests.forM Redirecting.perform
      e.evaluate { at_ with exits := true } inner
    let status ← if at_.exits && !(← Process.hasTraps) then inside else e.fork inside
    return { status := some status, checked := true }
  | .redirected line inner redirections => do
    atLine line
    let requests ← redirections.mapM (Redirecting.request e.substitute)
    let status ← Redirecting.during false requests (e.evaluate { tested := at_.tested } inner)
      (return 2)
    return { status := some status }
  | .negate inner => do
    let status ← e.evaluate { tested := true } inner
    return { status := some (if status = 0 then 1 else 0) }
  | .sequence first second => do
    let _ ← e.evaluate { tested := at_.tested } first
    if (← get).skipping != .nothing then return { status := none }
    return { status := some (← e.evaluate at_ second) }
  | .both first second => do
    let status ← e.evaluate { tested := true } first
    let skipping := (← get).skipping
    if status != 0 || skipping != .nothing then return { status := none }
    return { status := some (← e.evaluate at_ second) }
  | .either first second => do
    let status ← e.evaluate { tested := true } first
    let skipping := (← get).skipping
    if status = 0 || skipping != .nothing then return { status := none }
    return { status := some (← e.evaluate at_ second) }
  | .branch test yes no => do
    let status ← e.evaluate { tested := true } test
    if (← get).skipping != .nothing then return { status := none }
    if status = 0 then return { status := some (← e.evaluate at_ yes) }
    match no with
    | .skip => return { status := some 0 }
    | no => return { status := some (← e.evaluate at_ no) }
  | .repeated wanted test inner => do
    let status ← asLoop <|
      rounds (e.evaluate { tested := true } test) (e.evaluate { tested := at_.tested } inner)
        wanted roundBound 0
    return { status := some status }
  | .each line name words inner => do
    atLine line
    let values ← match words with
      | none => pure (← get).operands
      | some words => do
        pure (← words.mapM (Expansion.fields e.substitute .atStart)).flatten
    let status ← asLoop (roundsFor name (e.evaluate { tested := at_.tested } inner) 0 values)
    return { status := some status }
  | .counted line start test step inner => do
    atLine line
    let value := fun (text : Word) => do
      let text ← Expansion.text e.substitute .nowhere text
      if text.toList.all isSpace then return (1 : Int64) else Calculation.calculate "((: " text
    let loop : Run Nat := do
      let _ ← value start
      roundsCounted (do return (← value test) != 0) (do let _ ← value step; return 0)
        (e.evaluate { tested := at_.tested } inner) roundBound 0
    return { status := some (← asLoop (sparing loop)) }
  | .choose line subject arms => do
    atLine line
    let text ← Expansion.text e.substitute .atStart subject
    match ← chooseArm e text arms with
    | none | some .skip => return { status := some 0 }
    | some inner => return { status := some (← e.evaluate at_ inner) }
  | .define line name inner => do
    modify fun s =>
      { s with functions := (name, line, inner) :: s.functions.filter (·.1 != name) }
    return { status := some 0 }
  | .condition test => do
    return { status := some (if ← condition e test then 0 else 1), checked := true }
  | .arithmetic line text => do
    atLine line
    let outcome : Run Nat := do
      let text ← Expansion.text e.substitute .nowhere text
      return if (← Calculation.calculate "((: " text) != 0 then 0 else 1
    return { status := some (← sparing outcome), checked := true }

/-- Runs a script and gives its status, or ends the process if that is due. -/
def evaluate (e : Engine) (at_ : Standpoint) (script : Script) : Run Nat := do
  let mut failed := false
  if !(← get).switches.readsOnly then
    e.attend
    let outcome ← body e at_ script
    if let some status := outcome.status then
      Engine.settle status
      failed := outcome.checked && status != 0 && !at_.tested
  e.attend
  let s ← get
  if failed && s.switches.endsOnFailure || at_.exits then throw .done
  return s.status

def engine : Nat → Engine
  | 0 =>
    { evaluate := fun _ _ => Run.fail "too deep"
      complete := fun body => body }
  | depth + 1 =>
    { evaluate := fun at_ script => evaluate (engine depth) at_ script
      complete := fun body => (engine depth).finish body }

def depthBound : Nat := 10000000

end Evaluation

def Engine.usual : Engine := Evaluation.engine Evaluation.depthBound

end Shell
end LineShell
