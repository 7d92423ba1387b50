import LineShell.Event
import LineShell.Text.Words

/-!
# Which events are shown

A filter is a list of directives between commas.  A directive names a level, or a source with a
level or none, or asks for more than an event can answer.  The most specific directive that an
event meets decides: the longest source first, then the most data asked for, and of two alike the
later one.
-/

namespace LineShell

/-- The least severe level that is shown, none if nothing is. -/
abbrev Threshold := Option Level

namespace Threshold

/-- Reads a threshold: the name of a level in any case of its letters, or its number. -/
def ofName? (name : String) : Option Threshold :=
  let all := [none, some Level.error, some .warn, some .info, some .debug, some .trace]
  match Numeral.unsigned? name.toList with
  | some n => all[n]?
  | none =>
    if name.isEmpty then some (some .error)
    else if name.toList.map Char.toLower = "off".toList then some none
    else (Level.ofName? name).map some

def admits (threshold : Threshold) (level : Level) : Bool :=
  threshold.any fun least => level.rank ≤ least.rank

end Threshold

/-- What is asked of an event, and the threshold for events that answer. -/
structure Directive where
  /-- What the source begins with, if that is asked. -/
  source : Option String := none
  /-- Names of data that must be there. -/
  fields : List String := []
  /-- Whether it asks for a span or for values of data, which no event has. -/
  beyond : Bool := false
  threshold : Threshold := some .trace
  deriving DecidableEq, Repr

namespace Directive

def cutAt (separator : Char) (text : List Char) : List (List Char) :=
  match text with
  | [] => [[]]
  | c :: rest =>
    let pieces := cutAt separator rest
    if c = separator then [] :: pieces
    else match pieces with
      | piece :: others => (c :: piece) :: others
      | [] => [[c]]

def opens (c : Char) : Bool := c = '-' || c = ':' || c = '_' || c.isAlphanum || 0x80 ≤ c.toNat

def withThreshold? (directive : Directive) (name : List Char) : Option Directive :=
  if name.isEmpty then some directive
  else (Threshold.ofName? (String.ofList name)).map fun threshold => { directive with threshold }

/-- Reads a directive.  Blanks around a directive do not count where its parts are told apart, but
they do where the parts are taken out, so that a part moves by the blanks in front. -/
def ofText? (text : List Char) : Option Directive :=
  let core := ((text.dropWhile isBlank).reverse.dropWhile isBlank).reverse
  let part := fun (start size : Nat) => String.ofList ((text.drop start).take size)
  let ending := fun (directive : Directive) (place : Nat) =>
    match core.drop place with
    | [] => some directive
    | '=' :: _ => directive.withThreshold? (text.drop (place + 1))
    | _ => none
  let brackets := fun (directive : Directive) (place : Nat) =>
    let name := (core.drop place).takeWhile fun c => c != ']' && c != '\x7b'
    let place := place + name.length
    match core.drop place with
    | ']' :: _ => ending { directive with beyond := true } (place + 1)
    | '\x7b' :: rest =>
      let inside := rest.takeWhile (· != '\x7d')
      let asked := cutAt ',' inside
      let starts := (asked.map fun piece => piece.length + 1).scanl (· + ·) (place + 1)
      let fields := (asked.zip starts).map fun (piece, start) => part start piece.length
      match rest.drop inside.length with
      | '\x7d' :: ']' :: _ =>
        if asked.any List.isEmpty then none
        else
          ending { directive with
            beyond := !name.isEmpty || fields.any fun field => field.toList.contains '='
            fields } (place + inside.length + 3)
      | _ => none
    | _ => none
  match core with
  | [] => none
  | '[' :: _ => brackets {} 1
  | c :: _ =>
    if !opens c then none
    else
      let size := (core.takeWhile fun c => c != '=' && c != '[').length
      match core.drop size with
      | [] =>
        match Threshold.ofName? (String.ofList text) with
        | some threshold => some { threshold }
        | none => some { source := some (String.ofList text) }
      | '[' :: _ => brackets { source := some (part 0 size) } (size + 1)
      | _ => ending { source := some (part 0 size) } size

def asks (directive : Directive) (event : Event) : Bool :=
  !directive.beyond &&
    directive.source.all (fun source => source.toList.isPrefixOf event.source.toList) &&
    directive.fields.all event.fieldNames.contains

def weight (directive : Directive) : Nat × Nat :=
  (directive.source.elim 0 fun source => source.utf8ByteSize + 1, directive.fields.length)

/-- Whether one directive is at least as specific as another. -/
def atLeast (a b : Directive) : Bool :=
  b.weight.1 < a.weight.1 || b.weight.1 = a.weight.1 && b.weight.2 ≤ a.weight.2

end Directive

/-- Directives as they were given. -/
abbrev LogFilter := List Directive

namespace LogFilter

/-- Reads a filter; none if one of its directives cannot be read. -/
def ofText? (text : String) : Option LogFilter :=
  ((Directive.cutAt ',' text.toList).filter fun piece => !piece.isEmpty).mapM Directive.ofText?

/-- Shows warnings and errors. -/
def warnings : LogFilter := [{ threshold := some .warn }]

/-- Reads the filter from a variable of the environment.  Without one, or with one that cannot be
read, warnings are shown. -/
def ofVariable (value : Option String) : LogFilter := (value.bind ofText?).getD warnings

def deciding? (filter : LogFilter) (event : Event) : Option Directive :=
  (filter.filter (·.asks event)).foldl
    (fun best directive =>
      match best with
      | none => some directive
      | some other => if directive.atLeast other then some directive else best)
    none

/-- Whether an event is shown.  One that no directive asks for is not. -/
def shows (filter : LogFilter) (event : Event) : Bool :=
  (filter.deciding? event).any fun directive => directive.threshold.admits event.level

end LogFilter
end LineShell
