import LineShell.Calendar.Reading
import LineShell.Shell.Utility.Inputs

/-!
# Programs that deal with moments

`touch` says that files were changed and read at some moment, and makes those that are missing.
`date` writes a moment through a format.
-/

namespace LineShell
namespace Shell
namespace Stamping

/-! ## Stamps of files -/

structure Wish where
  changed : Option Moment
  read : Option Moment
  creates : Bool
  follows : Bool

def locationAt (follows : Bool) (path : Octets) : Run (Except Fault Location) := do
  let slash := path.endsWith "/"
  match ← Run.spotAt (follows || slash) path with
  | .ok (.directory place) =>
    return if place.exists? then .ok place.live else .error .notFound
  | .ok (.leaf location _) => return .ok location
  | .ok (.vacant ..) => return .error .notFound
  | .error fault => return .error fault

def stampsOf (location : Option Location) (node : Node) : Run Stamps := do
  let s ← get
  return location.elim {} fun location => s.stampsOf location node

def stampsAt (follows : Bool) (path : Octets) : Run (Except Fault Stamps) := do
  match ← Run.nodeAt follows path with
  | .ok node => return .ok (← stampsOf (← locationAt follows path).toOption node)
  | .error fault => return .error fault

/-- Makes a file if it is missing, and sets its stamps. -/
def touchOne (name : Octets) (w : Wish) (path : Octets) : Run Bool := do
  if path = "-" then return true
  let opened ← if w.creates && w.follows then Run.makeFile path else pure none
  match ← Run.nodeAt w.follows path, ← locationAt w.follows path with
  | .ok _, .ok location =>
    Run.restamp location fun stamps =>
      { changed := w.changed.getD stamps.changed, read := w.read.getD stamps.read }
    return true
  | .error fault, _ | _, .error fault =>
    match opened.filter (· != .isDirectory) with
    | some fault =>
      Tool.fault name ("cannot touch " ++ Quoting.always path) fault
      return false
    | none =>
      if !w.creates && fault = .notFound then return true
      Tool.fault name ("setting times of " ++ Quoting.always path) fault
      return false

def stampNames : List (List String × Bool) :=
  [(["atime", "access", "use"], true), (["mtime", "modify"], false)]

def badDate (name text : Octets) : Run (Option Stamps) := do
  Tool.complain name ("invalid date format " ++ Quoting.plain text)
  return none

def wanted (name : Octets) (given : Given) : Run (Option Stamps) := do
  match given.value? 'r', given.value? 'd', given.value? 't' with
  | some reference, date, _ =>
    match ← stampsAt (!given.has 'h') reference with
    | .error fault =>
      Tool.fault name ("failed to get attributes of " ++ Quoting.always reference) fault
      return none
    | .ok stamps =>
      match date with
      | none => return some stamps
      | some text =>
        match Calendar.read? stamps.changed text, Calendar.read? stamps.read text with
        | some changed, some read => return some { changed, read }
        | _, _ => badDate name text
  | none, some text, _ =>
    match Calendar.read? .present text with
    | some moment => return some { changed := moment, read := moment }
    | none => badDate name text
  | none, none, some text =>
    match Calendar.readStamp? .present text with
    | some moment => return some { changed := moment, read := moment }
    | none => badDate name text
  | none, none, none => return some {}

def touch : Tool := fun _ name words =>
  Tool.withOptions [⟨'a', "", .no⟩, ⟨'m', "", .no⟩, ⟨'f', "", .no⟩, ⟨'c', "no-create", .no⟩,
      ⟨'h', "no-dereference", .no⟩, ⟨'r', "reference", .yes⟩, ⟨'d', "date", .yes⟩,
      ⟨'t', "", .yes⟩, ⟨'\x10', "time", .yes⟩] 1 name words fun given => do
    let named ← (given.options.filter fun option => option.1 = '\x10').mapM fun option =>
      Tool.choose name "--time" (option.2.getD "") stampNames
    if !named.all Option.isSome then return 1
    if given.has 't' then
      let stamp := (given.value? 't').getD ""
      if (Calendar.readStamp? .present stamp).isNone then
        let _ ← badDate name stamp
        return 1
    if given.has 't' && (given.has 'd' || given.has 'r') then
      return ← Tool.misuse name "cannot specify times from more than one source" 1
    let some stamps ← wanted name given | return 1
    if given.operands.isEmpty then return ← Tool.misuse name "missing file operand" 1
    let named := named.filterMap id
    let reads := given.has 'a' || named.contains true
    let changes := given.has 'm' || named.contains false
    let w : Wish :=
      { changed := if changes || !reads then some stamps.changed else none
        read := if reads || !changes then some stamps.read else none
        creates := !given.has 'c', follows := !given.has 'h' }
    Tool.each given.operands (touchOne name w)

/-! ## Dates -/

/-- The formats of dates that have a name, from the shortest on. -/
def isoFormats : List (List String × Octets) :=
  [(["hours"], "%Y-%m-%dT%H%:z"), (["minutes"], "%Y-%m-%dT%H:%M%:z"), (["date"], "%Y-%m-%d"),
   (["seconds"], "%Y-%m-%dT%H:%M:%S%:z"), (["ns"], "%Y-%m-%dT%H:%M:%S,%N%:z")]

def spacedFormats : List (List String × Octets) :=
  [(["date"], "%Y-%m-%d"), (["seconds"], "%Y-%m-%d %H:%M:%S%:z"),
   (["ns"], "%Y-%m-%d %H:%M:%S.%N%:z")]

/-- The formats that options ask for; none stands for a complaint. -/
def formatsOf (name : Octets) (given : Given) : Run (List (Option Octets)) :=
  given.options.filterMapM fun option => do
    match option.1, option.2 with
    | 'I', none => return some (some "%Y-%m-%d")
    | 'I', some word => return some (← Tool.choose name "--iso-8601" word isoFormats)
    | '\x10', word => return some (← Tool.choose name "--rfc-3339" (word.getD "") spacedFormats)
    | 'R', _ => return some (some "%a, %d %b %Y %H:%M:%S %z")
    | _, _ => return none

def writeDates (name format : Octets) (texts : List Octets) : Run Nat :=
  Tool.each texts fun text => do
    match Calendar.read? .present text with
    | some moment =>
      Run.emitLine ((Date.ofMoment moment).format format)
      return true
    | none =>
      Tool.complain name ("invalid date " ++ Quoting.plain text)
      return false

def date : Tool := fun _ name words =>
  Tool.withOptions [⟨'d', "date", .yes⟩, ⟨'\x11', "debug", .no⟩, ⟨'f', "file", .yes⟩,
      ⟨'I', "iso-8601", .maybe⟩, ⟨'r', "reference", .yes⟩, ⟨'R', "rfc-email", .no⟩,
      ⟨'R', "rfc-822", .no⟩, ⟨'R', "rfc-2822", .no⟩, ⟨'\x10', "rfc-3339", .yes⟩,
      ⟨'\x12', "resolution", .no⟩, ⟨'s', "set", .yes⟩, ⟨'u', "utc", .no⟩,
      ⟨'u', "universal", .no⟩, ⟨'u', "uct", .no⟩] 1 name words fun given => do
    let formats ← formatsOf name given
    if !formats.all Option.isSome then return 1
    let sources := ['d', 'f', 'r', '\x12'].filter given.has
    if 1 < sources.length then
      return ← Tool.misuse name "the options to specify dates for printing are mutually exclusive" 1
    if given.has 's' && !sources.isEmpty then
      return ← Tool.misuse name
        "the options to print and set the time may not be used together" 1
    match given.operands with
    | _ :: extra :: _ => Tool.misuse name ("extra operand " ++ Quoting.plain extra) 1
    | operands =>
      let plus := operands.head?.filter (·.startsWith "+")
      if plus.isSome && !formats.isEmpty || 1 < formats.length then
        Tool.complain name "multiple output formats specified"
        return 1
      if plus.isNone && !operands.isEmpty then
        let word := operands.headD ""
        if !sources.isEmpty || given.has 's' then
          Tool.complain name ("the argument " ++ Quoting.plain word ++ " lacks a leading '+';\n" ++
            "when using an option to specify date(s), any non-option\n" ++
            "argument must be a format string beginning with '+'")
          Tool.pointToHelp name
        else Tool.complain name ("invalid date " ++ Quoting.plain word)
        return 1
      let format := match plus, formats.filterMap id with
        | some word, _ => (word.drop 1).toString
        | none, format :: _ => format
        | none, [] => if given.has '\x12' then "%s.%N" else "%a %b %e %H:%M:%S %Z %Y"
      let write := fun moment : Moment => do
        Run.emitLine ((Date.ofMoment moment).format format)
        return 0
      match given.value? 'd', given.value? 'f', given.value? 'r', given.value? 's' with
      | some text, _, _, _ => writeDates name format [text]
      | _, some path, _, _ =>
        match ← Tool.input path with
        | .ok octets => writeDates name format ((Tool.lines octets).map String.ofList)
        | .error fault =>
          Tool.fault name (Quoting.ifNeeded path) fault
          return 1
      | _, _, some path, _ =>
        match ← stampsAt true path with
        | .ok stamps => write stamps.changed
        | .error fault =>
          Tool.fault name (Quoting.ifNeeded path) fault
          return 1
      | _, _, _, some text =>
        match Calendar.read? .present text with
        | none =>
          Tool.complain name ("invalid date " ++ Quoting.plain text)
          return 1
        | some moment =>
          Tool.complain name "cannot set date: Operation not permitted"
          let _ ← write moment
          return 1
      | none, none, none, none => write (if given.has '\x12' then 1 else .present)

end Stamping
end Shell
end LineShell
