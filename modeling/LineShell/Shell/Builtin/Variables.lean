import LineShell.Shell.Builtin.Basic
import LineShell.Shell.Calculation
import LineShell.Shell.Utility.Making

/-!
# Commands on what a shell remembers

Variables and their roles, operands, switches, names that stand for other text, and the bits that
new files do not get.
-/

namespace LineShell
namespace Shell
namespace Builtin

/-! ## Variables -/

/-- Shows variables in the order of their names, as a script would set them. -/
def showVariables (start : Octets) (shown : Variable → Bool) : Run Nat := do
  let entries := (← get).vars.filter fun entry => shown entry.2
  for (name, v) in entries.mergeSort (fun a b => !(b.1 < a.1)) do
    let value := match v.value with
      | some value => "=" ++ quoted value
      | none => ""
    Run.emitLine (start ++ name ++ value)
  return 0

/-- Gives variables a role, and values if there are any; without operands it shows those with the
role. -/
def giveRole (has : Variable → Bool) (give : Variable → Variable) (name : Octets)
    (words : List Octets) : Run Nat := do
  let (options, operands) ← options "p" words
  if options.has 'p' || operands.isEmpty then showVariables (name ++ " ") has
  else
    for operand in operands do
      let (target, value) := cutAssignment operand
      match ← Run.variableNamed target, value with
      | some v, none => Run.putVariable target (some (give v))
      | _, _ =>
        assign target value false
        if let some v := ← Run.variableNamed target then Run.putVariable target (some (give v))
    return 0

def export_ : Builtin :=
  { ofLanguage (giveRole (·.exported) fun v => { v with exported := true }) with assigns := true }

def readonly : Builtin :=
  { ofLanguage (giveRole (·.fixed) fun v => { v with fixed := true }) with assigns := true }

/-- Puts a variable, or all switches, aside until the function that runs ends. -/
def setAside (name : Octets) (value : Option Octets) (exported : Bool) : Run Unit := do
  let s ← get
  match s.frames with
  | [] => Run.fail "not in a function"
  | frame :: frames =>
    if name = "-" then set { s with frames := { frame with switches := some s.switches } :: frames }
    else
      demandName name
      let before := s.vars.lookup name
      let frame := { frame with vars := (name, before) :: frame.vars }
      set { s with frames := frame :: frames }
      if before.isNone || value.isSome then Run.setVariable name value exported

def local_ : Builtin :=
  { special := true, assigns := true,
    run := fun _ _ _ words => do
      if (← get).frames.isEmpty then Run.fail "not in a function"
      for operand in words do
        let (name, value) := cutAssignment operand
        setAside name value false
      return 0 }

def unset : Builtin := ofLanguage fun _ words => do
  let (options, operands) ← options "vf" words
  let functions := (options.getLast?.map (·.1)) = some 'f'
  for name in operands do
    if functions then modify fun s => { s with functions := s.functions.filter (·.1 != name) }
    else
      demandName name
      Run.unsetVariable name
  return 0

/-- Calculates expressions; the last of them says whether this succeeds. -/
def let_ : Builtin :=
  { extended := true
    run := fun _ _ _ words => do
      if words.isEmpty then
        Run.warn "expression expected"
        return 1
      let calculated : Run Nat := do
        let values ← words.mapM (Calculation.calculate "let: ")
        return if values.getLast?.all (· = 0) then 1 else 0
      tryCatch calculated fun halt => if halt = .failed then return 1 else throw halt }

/-! ## Switches and operands -/

/-- A switch: its long name, its letter, how it is read and how it is set. -/
structure Switch where
  name : String
  letter : Option Char
  get : Switches → Bool
  set : Bool → Switches → Switches

def switches : List Switch :=
  [⟨"errexit", some 'e', (·.endsOnFailure), fun b s => { s with endsOnFailure := b }⟩,
   ⟨"noglob", some 'f', (·.noPatterns), fun b s => { s with noPatterns := b }⟩,
   ⟨"ignoreeof", some 'I', (·.ignoresEnd), fun b s => { s with ignoresEnd := b }⟩,
   ⟨"interactive", some 'i', (·.interactive), fun b s => { s with interactive := b }⟩,
   ⟨"monitor", some 'm', (·.monitors), fun b s => { s with monitors := b }⟩,
   ⟨"noexec", some 'n', (·.readsOnly), fun b s => { s with readsOnly := b }⟩,
   ⟨"stdin", some 's', (·.readsInput), fun b s => { s with readsInput := b }⟩,
   ⟨"xtrace", some 'x', (·.traces), fun b s => { s with traces := b }⟩,
   ⟨"verbose", some 'v', (·.showsLines), fun b s => { s with showsLines := b }⟩,
   ⟨"vi", some 'V', (·.editsVi),
     fun b s => { s with editsVi := b, editsEmacs := s.editsEmacs && !b }⟩,
   ⟨"emacs", some 'E', (·.editsEmacs),
    fun b s => { s with editsEmacs := b, editsVi := s.editsVi && !b }⟩,
   ⟨"noclobber", some 'C', (·.keepsFiles), fun b s => { s with keepsFiles := b }⟩,
   ⟨"allexport", some 'a', (·.allExported), fun b s => { s with allExported := b }⟩,
   ⟨"notify", some 'b', (·.notifies), fun b s => { s with notifies := b }⟩,
   ⟨"nounset", some 'u', (·.demandsValues), fun b s => { s with demandsValues := b }⟩,
   ⟨"privileged", some 'p', (·.privileged), fun b s => { s with privileged := b }⟩,
   ⟨"nolog", none, (·.noLog), fun b s => { s with noLog := b }⟩,
   ⟨"debug", none, (·.debugs), fun b s => { s with debugs := b }⟩]

def setLetter (on : Bool) (c : Char) : Run Unit := do
  match switches.find? fun switch => switch.letter = some c with
  | some switch => modify fun s => { s with switches := switch.set on s.switches }
  | none => Run.fail ("Illegal option -" ++ String.singleton c)

def showSwitches (asCommands : Bool) : Run Unit := do
  let now := (← get).switches
  if !asCommands then Run.emitLine "Current option settings"
  for switch in switches do
    let on := switch.get now
    Run.emitLine <|
      if asCommands then "set " ++ (if on then "-o " else "+o ") ++ switch.name
      else Tool.padRight 16 switch.name ++ (if on then "on" else "off")

def setNamed (on : Bool) : Option Octets → Run Unit
  | none => showSwitches (!on)
  | some name => do
    match switches.find? fun switch => switch.name = name with
    | some switch => modify fun s => { s with switches := switch.set on s.switches }
    | none => Run.fail ("Illegal option -o " ++ name)

def setLetters (on : Bool) : List Char → List Octets → Run (List Octets)
  | [], words => return words
  | 'o' :: rest, words => do
    setNamed on words.head?
    setLetters on rest words.tail
  | c :: rest, words => do
    setLetter on c
    setLetters on rest words

def setOperands (operands : List Octets) : Run Unit := modify fun s =>
  { s with operands, optionIndex := 1, optionOffset := none }

def setAll : Nat → List Octets → Run Unit
  | 0, _ | _, [] => return
  | fuel + 1, word :: words => do
    match word.toList with
    | ['-'] =>
      modify fun s =>
        { s with switches := { s.switches with traces := false, showsLines := false } }
      if !words.isEmpty then setOperands words
    | ['-', '-'] => setOperands words
    | '-' :: letters => setAll fuel (← setLetters true letters words)
    | '+' :: letters => setAll fuel (← setLetters false letters words)
    | _ => setOperands (word :: words)

def set_ : Builtin := ofLanguage fun _ words => do
  if words.isEmpty then showVariables "" fun v => v.value.isSome
  else
    setAll (words.length + 1) words
    return 0

def shift : Builtin := ofLanguage fun _ words => do
  let n ← match words with
    | [] => pure 1
    | word :: _ => Run.count word
  let operands := (← get).operands
  if operands.length < n then Run.fail "can't shift that many"
  setOperands (operands.drop n)
  return 0

/-! ## Options of scripts -/

structure NextOption where
  /-- The letter, or a mark for the end or an error. -/
  letter : Char
  /-- The value that is set; none to take it away. -/
  value : Option Octets
  /-- The number of the word to read next. -/
  index : Nat
  /-- How far that word's predecessor was read, if it holds more. -/
  offset : Option Nat := none
  complaint : Option Octets := none
  ended : Bool := false

/-- Reads the next option letter, which stands at an offset in the word before the given index. -/
def optionAt (shape : List Char) (words : List Octets) (index offset : Nat) : NextOption :=
  let quiet := shape.head? = some ':'
  let shape := if quiet then shape.tail else shape
  let chars := (words[index - 2]?.getD "").toList
  let c := chars[offset]?.getD '?'
  let rest := chars.drop (offset + 1)
  let refuse (mark : Char) (text : Octets) : NextOption :=
    if quiet then { letter := mark, value := some (String.singleton c), index,
                    offset := some (offset + 1) }
    else { letter := '?', value := none, index, offset := some (offset + 1),
           complaint := some text }
  let after := shape.dropWhile (· != c)
  if c = ':' || after.isEmpty then refuse '?' ("Illegal option -" ++ String.singleton c)
  else if after[1]? = some ':' then
    if !rest.isEmpty then { letter := c, value := some (String.ofList rest), index }
    else
      match words[index - 1]? with
      | some value => { letter := c, value := some value, index := index + 1 }
      | none =>
        { refuse ':' ("No arg for -" ++ String.singleton c ++ " option") with offset := none }
  else { letter := c, value := some "", index, offset := some (offset + 1) }

def nextOption (shape : List Char) (words : List Octets) (index : Nat) (offset : Option Nat) :
    NextOption :=
  let current := if 1 < index then words[index - 2]? else none
  match offset, current with
  | some offset, some word =>
    if offset < word.length then optionAt shape words index offset else advance index
  | _, _ => advance index
where
  /-- Goes on to the word of an index. -/
  advance (index : Nat) : NextOption :=
    match (words[index - 1]?.getD "").toList with
    | ['-', '-'] => { letter := '?', value := none, index := index + 1, ended := true }
    | '-' :: _ :: _ => optionAt shape words (index + 1) 1
    | _ => { letter := '?', value := none, index, ended := true }

def getopts : Builtin := plain fun _ words => do
  match ← operands words with
  | shape :: name :: rest =>
    let s ← get
    let words := if rest.isEmpty then s.operands else rest
    let fits := s.optionIndex ≤ words.length + 1
    let index := if fits then max s.optionIndex 1 else 1
    let next := nextOption shape.toList words index (if fits then s.optionOffset else none)
    if let some complaint := next.complaint then Run.complain complaint
    if !next.ended then
      match next.value with
      | some value => Run.setVariable "OPTARG" (some value) false
      | none => Run.unsetVariable "OPTARG"
    Run.setVariable "OPTIND" (some (Numeral.decimal next.index)) false
    assign name (some (String.singleton next.letter)) false
    modify fun s => { s with optionIndex := next.index, optionOffset := next.offset }
    return if next.ended then 1 else 0
  | _ => Run.fail "Usage: getopts optstring var [arg]"

/-! ## Names that stand for other text -/

def showAlias (name : String) (text : List Char) : Run Unit :=
  Run.emitLine (name ++ "=" ++ quoted (String.ofList text))

def setAlias (name : String) (text : List Char) : Run Unit := modify fun s =>
  if (s.aliases.lookup name).isSome then
    { s with aliases := s.aliases.map fun entry => if entry.1 = name then (name, text) else entry }
  else { s with aliases := s.aliases ++ [(name, text)] }

def alias_ : Builtin :=
  { assigns := true,
    run := fun _ _ _ words => do
      if words.isEmpty then
        for (name, text) in inGroups (← get).aliases do showAlias name text
        return 0
      let known ← words.mapM fun word => do
        let first := (word.toList.take 1)
        let (rest, text) := cutAssignment (String.ofList (word.toList.drop 1))
        match text with
        | some text =>
          setAlias (String.ofList first ++ rest) text.toList
          return true
        | none =>
          match (← get).aliases.lookup word with
          | some text =>
            showAlias word text
            return true
          | none =>
            Run.complain ("alias: " ++ word ++ " not found")
            return false
      return if known.all id then 0 else 1 }

def unalias : Builtin := plain fun _ words => do
  let (options, operands) ← options "a" words
  if options.has 'a' then
    modify fun s => { s with aliases := [] }
    return 0
  let known ← operands.mapM fun name => do
    if ((← get).aliases.lookup name).isSome then
      modify fun s => { s with aliases := s.aliases.filter (·.1 != name) }
      return true
    else
      Run.complain ("unalias: " ++ name ++ " not found")
      return false
  return if known.all id then 0 else 1

/-! ## The bits that new files do not get -/

def maskLetters (mask : Nat) : String :=
  let part := fun (who : String) (shift : Nat) =>
    let bits := (0o777 ^^^ mask) >>> shift &&& 7
    let letter := fun (bit : Nat) (c : String) => if bits &&& bit = 0 then "" else c
    who ++ "=" ++ letter 4 "r" ++ letter 2 "w" ++ letter 1 "x"
  part "u" 6 ++ "," ++ part "g" 3 ++ "," ++ part "o" 0

def umask : Builtin := plain fun _ words => do
  let (options, operands) ← options "S" words
  let mask := (← get).mask
  match operands with
  | [] =>
    if options.has 'S' then Run.emitLine (maskLetters mask)
    else Run.emitLine (FileMode.digits mask)
    return 0
  | text :: _ =>
    let put := fun mask : Nat => do
      modify fun s => { s with mask := mask &&& 0o777 }
      return 0
    if text.toList.head?.any Char.isDigit then
      if text.toList.all fun c => '0' ≤ c && c < '8' then put (ofDigits 8 text.toList)
      else Run.badNumber text
    else
      match FileMode.read text with
      | some change => put (0o777 ^^^ (FileMode.adjust change 0 false (0o777 ^^^ mask) &&& 0o777))
      | none => Run.fail ("Illegal mode: " ++ text)

end Builtin
end Shell
end LineShell
