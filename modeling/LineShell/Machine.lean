import LineShell.Shell.Executor
import LineShell.Text.Erasure
import LineShell.LogFilter
import LineShell.LineSource

/-!
# The machine of a process

A process runs on a machine in memory: files, an environment, standard streams, and the events that
were told.  Its console writes regular lines to the second stream and error lines to the third.  Its
terminal reads lines from the first stream, which holds bytes; a line that is no text is a read that
fails.  The terminal reads ahead in blocks, so that its child processes find only what lies beyond
the last block.  A prompt is only shown on a terminal that cannot edit lines.
-/

namespace LineShell

structure Machine where
  /-- Files, environment and streams, as child processes see them. -/
  site : Shell.Site
  /-- The events that were told, oldest first. -/
  events : List Event := []

namespace Machine

def sitePart : Part Machine Shell.Site where
  get m := m.site
  set site m := { m with site }

def filesPart : Part Machine Files where
  get m := m.site.files
  set files m := { m with site := m.site.withFiles files }

/-- A variable of the environment. -/
def valueOf (m : Machine) (name : String) : Option String := m.site.environment.lookup name

def note (event : Event) (m : Machine) : Machine := { m with events := m.events ++ [event] }

/-- Writes to the second stream. -/
def emit (text : String) (m : Machine) : Machine :=
  { m with site := { m.site with output := m.site.output ++ Octets.ofText text } }

/-- Writes to the third stream. -/
def complain (text : String) (m : Machine) : Machine :=
  { m with site := { m.site with errors := m.site.errors ++ Octets.ofText text } }

/-- What clears a screen: the whole display, then the cursor to its first place. -/
def clearSequence : String := "\x1b[2J\x1b[1;1H"

def console : Output Machine where
  writeLine text := fun m => (.ok (), m.emit (text ++ "\n"))
  writeError message item := fun m => (.ok (), m.complain (errorLine message item ++ "\n"))
  clear := fun m => (.ok (), m.emit clearSequence)

/-- The host of a process.  Nobody waits on a machine in memory. -/
def host : Host Machine where
  toFileSystem := FileSystem.within filesPart Files.system
  toOutput := console
  toExecutor := Shell.executor sitePart note "sh" "-c"
  note := note
  pause _ m := m

/-! ## The terminal -/

/-- The terminals that cannot edit lines, in lower case. -/
def plainTerminals : List String := ["dumb", "cons25", "emacs"]

/-- Whether prompts are shown. -/
def showsPrompts (m : Machine) : Bool :=
  (m.valueOf "TERM").any fun name =>
    plainTerminals.any fun plain => plain.toList == name.toList.map Char.toLower

/-- How many bytes are read at a time. -/
def blockSize : Nat := 8192

/-- How much of an input a reader takes that wants a line feed: whole blocks up to the one that
holds the first line feed, or everything. -/
def reach (input : List Char) : Nat :=
  let before := (input.takeWhile (· != '\n')).length
  if before < input.length then (before / blockSize + 1) * blockSize else input.length

/-- Fills up the bytes that are held until there is a line feed among them, and gives what is then
held and what is left of the input. -/
def fill (held input : List Char) : List Char × List Char :=
  if held.contains '\n' then (held, input)
  else (held ++ input.take (reach input), input.drop (reach input))

/-- Takes the end off a line: its line feed, and a carriage return right before that. -/
def withoutEnd (line : List Char) : List Char :=
  match line.reverse with
  | '\n' :: '\r' :: rest | '\n' :: rest => rest.reverse
  | _ => line

/-- Cuts the first line, with its end, off the bytes that are held. -/
def cutLine (held : List Char) : List Char × List Char :=
  let n := (held.takeWhile (· != '\n')).length + 1
  (held.take n, held.drop n)

/-- What the terminal has to give, if it holds some bytes and so many more lines may be read. -/
def supply : Nat → List Char → Supply Machine
  | 0, _ => .ended .endOfInput
  | n + 1, held =>
    let look := fun m : Machine =>
      let (line, held) := cutLine (fill held m.site.input).1
      if line.isEmpty then .ended .endOfInput
      else
        match Octets.toText? line with
        | some text =>
          .line (afterErasures (String.ofList (withoutEnd text.toList))) (supply n held)
        | none => .ended (.failedRead .invalidText)
    .ask look fun m => { m with site := { m.site with input := (fill held m.site.input).2 } }

/-- Opens the terminal.  There cannot be more lines than bytes. -/
def openTerminal : Attempt Machine (LineSource Machine) := fun m =>
  let showPrompt := fun prompt m => if showsPrompts m then emit prompt m else m
  (.ok { supply := supply (m.site.input.length + 1) [], showPrompt }, m)

end Machine
end LineShell
