import LineShell.Shell.Surroundings

/-!
# Reading and writing

These are the steps by which a process uses its descriptors.  Writing where nobody reads any more
ends a process, unless it ignores that signal.
-/

namespace LineShell
namespace Shell

def pipeSignal : Nat := 13

namespace Run

def channel? (descriptor : Nat) : Run (Option (Nat × Channel)) := do
  let s ← get
  return (s.descriptors.lookup descriptor).bind fun index =>
    s.channels[index]?.map fun channel => (index, channel)

def setChannel (index : Nat) (channel : Channel) : Run Unit :=
  modify fun s => { s with channels := s.channels.setIfInBounds index channel }

def newChannel (channel : Channel) : Run Nat := modifyGet fun s =>
  (s.channels.size, { s with channels := s.channels.push channel })

/-- Makes a descriptor lead to a channel, or to none. -/
def setDescriptor (descriptor : Nat) (index : Option Nat) : Run Unit := modify fun s =>
  let others := s.descriptors.filter fun entry => entry.1 != descriptor
  { s with descriptors := match index with
      | some index => (descriptor, index) :: others
      | none => others }

def ignores (signal : Nat) : Run Bool := do
  let s ← get
  return s.traps.lookup signal = some "" || s.ignored.contains signal

def contentAt (location : Location) : Run Octets := do
  match (← get).files.tree.find? location with
  | some (.file file) => return file.content
  | _ => return ""

def changeContent (location : Location) (change : Octets → Octets) : Run Unit :=
  modify fun s =>
    let tree := s.files.tree.alterFile location fun file =>
      { file with
        content := change file.content, stamps := { file.stamps with changed := .present } }
    { s with files := { s.files with tree } }

/-- Writes to a descriptor; the answer is why that failed. -/
def write (descriptor : Nat) (text : Octets) : Run (Option Fault) := do
  match ← channel? descriptor with
  | none => return some .badDescriptor
  | some (index, channel) =>
    match channel with
    | .sink chunks size limit =>
      if limit.any fun limit => limit < size || chunkLimit < chunks.length then
        if ← ignores pipeSignal then return some .brokenPipe
        throw (.killed pipeSignal)
      if !text.isEmpty then
        setChannel index (.sink (text :: chunks) (size + text.length) limit)
      return none
    | .file location offset reads writes appends =>
      if !writes then return some .badDescriptor
      let content ← contentAt location
      let offset := if appends then content.length else offset
      if !text.isEmpty then
        changeContent location fun content => overlay content offset text
        setChannel index (.file location (offset + text.length) reads writes appends)
      return none
    | .device .full => return if text.isEmpty then none else some .noSpace
    | .device _ => return none
    | .source _ | .directory _ => return some .badDescriptor

/-- Reads so many bytes from a descriptor, fewer only at the end. -/
def read (descriptor count : Nat) : Run (Except Fault (List Char)) := do
  match ← channel? descriptor with
  | none => return .error .badDescriptor
  | some (index, channel) =>
    match channel with
    | .source octets =>
      setChannel index (.source (octets.drop count))
      return .ok (octets.take count)
    | .file location offset reads writes appends =>
      if !reads then return .error .badDescriptor
      let octets := ((← contentAt location).toList.drop offset).take count
      setChannel index (.file location (offset + octets.length) reads writes appends)
      return .ok octets
    | .device .null => return .ok []
    | .device _ => return .ok (List.replicate (min count pipeLimit) '\x00')
    | .sink .. => return .error .badDescriptor
    | .directory _ => return .error .isDirectory

def readAll (descriptor : Nat) : Run (Except Fault (List Char)) := do
  match ← channel? descriptor with
  | some (index, .source octets) =>
    setChannel index (.source [])
    return .ok octets
  | some (index, .file location offset true writes appends) =>
    let octets := (← contentAt location).toList.drop offset
    setChannel index (.file location (offset + octets.length) true writes appends)
    return .ok octets
  | _ => read descriptor pipeLimit

/-- Writes regular output, and remembers if that fails. -/
def emit (text : Octets) : Run Unit := do
  match ← write 1 text with
  | some fault => modify fun s => { s with writeFault := s.writeFault <|> some fault }
  | none => return

def emitLine (text : Octets) : Run Unit := emit (text ++ "\n")

def murmur (text : Octets) : Run Unit := do
  let _ ← write 2 text

def complain (text : Octets) : Run Unit := murmur (text ++ "\n")

/-! ## Complaints of a shell -/

def shellTitle : Run Octets := do
  let s ← get
  let word := if s.dialect = .extended then "line " else ""
  let place := s.name ++ ": " ++ word ++ Numeral.decimal s.line ++ ": "
  return match s.speaker with
    | some speaker => place ++ speaker ++ ": "
    | none => place

def warn (text : Octets) : Run Unit := do
  complain ((← shellTitle) ++ text)

def failWith {α : Type} (status : Nat) (text : Octets) : Run α := do
  warn text
  modify fun s => { s with status }
  throw .failed

def fail {α : Type} (text : Octets) : Run α := failWith 2 text

/-! ## Variables -/

def variableNamed (name : String) : Run (Option Variable) := do
  return (← get).vars.lookup name

def value? (name : String) : Run (Option Octets) := do
  return (← variableNamed name).bind (·.value)

/-- Puts a variable in place of the one of that name, or behind all others. -/
def putVariable (name : String) (holding : Option Variable) : Run Unit := modify fun s =>
  match holding with
  | none => { s with vars := s.vars.filter fun entry => entry.1 != name }
  | some v =>
    if (s.vars.lookup name).isSome then
      { s with vars := s.vars.map fun entry =>
          if entry.1 = name then (name, v) else entry }
    else { s with vars := s.vars ++ [(name, v)] }

def setVariable (name : String) (value : Option Octets) (exported : Bool) : Run Unit := do
  let before := (← variableNamed name).getD { value := none }
  if before.fixed then
    fail (name ++ ": is read only")
  let exported := exported || before.exported ||
    (← get).switches.allExported && value.isSome
  putVariable name (some { before with value, exported })
  if name = "OPTIND" then
    let n := (value.bind fun value => value.toNat?).getD 1
    modify fun s => { s with optionIndex := max n 1, optionOffset := none }

def unsetVariable (name : String) : Run Unit := do
  match ← variableNamed name with
  | some before =>
    if before.fixed then fail (name ++ ": is read only")
    putVariable name none
  | none => return

/-! ## Words of other processes -/

def groupCount : Nat := 39

def groupOf (name : String) : Nat :=
  let codes := name.toList.map Char.toNat
  (16 * codes.headD 0 + codes.foldl (· + ·) 0) % groupCount

def exported : Run (List (String × Octets)) := do
  return (← get).vars.filterMap fun (name, v) =>
    if v.exported then v.value.map fun value => (name, value) else none

end Run
end Shell
end LineShell
