import LineShell.Event
import LineShell.Host
import LineShell.Shell.Evaluation

/-!
# Running command lines on the host

A command line is given to a program as its second operand, after a flag.  The program is usually
the host's shell.  A child process works on the files of its parent and shares its streams; its
working directory and its variables are its own.
-/

namespace LineShell
namespace Shell

/-- What a child process shares with its parent. -/
structure Site where
  files : Files
  stamps : FolderStamps := []
  environment : List (String × String) := []
  /-- What can still be read of the first stream. -/
  input : List Char := []
  output : Octets := ""
  errors : Octets := ""

namespace Site

def processNumber : Nat := 100

def withFiles (site : Site) (files : Files) : Site :=
  { site with files, stamps := site.stamps.follow site.files.tree files.tree }

/-- What the parent of a child process is, with the three streams that it passes on. -/
def surroundings (site : Site) : Surroundings :=
  { files := site.files
    stamps := site.stamps
    channels := #[.source site.input, .sink [] 0 none, .sink [] 0 none]
    alive := [processNumber]
    process := processNumber
    parent := 1
    shell := processNumber
    here := site.files.cwd
    descriptors := [(0, 0), (1, 1), (2, 2)]
    vars := site.environment.map fun (name, value) =>
      (name, { value := some (Octets.ofText value), exported := true }) }

def written (s : Surroundings) (index : Nat) : Octets :=
  match s.channels[index]? with
  | some (.sink chunks _ _) => joinChunks chunks
  | _ => ""

/-- What can still be read of a channel. -/
def unread (s : Surroundings) (index : Nat) : List Char :=
  match s.channels[index]? with
  | some (.source octets) => octets
  | _ => []

def after (site : Site) (s : Surroundings) : Site :=
  { site with
    files := s.files
    stamps := s.stamps
    input := unread s 0
    output := site.output ++ written s 1
    errors := site.errors ++ written s 2 }

end Site

/-- The length from which on a word is refused, in bytes. -/
def wordLimit : Nat := 131072

/-- Finds out what runs for a program's name, in the environment of the parent. -/
def locate (words : List Octets) : Run (Except Fault (Program.Image × List Octets)) := do
  let paths := Search.candidates (← Program.searchPath) (words.headD "")
  Program.loadFirst (Program.load Program.readerLimit) words .notFound paths

def launch (words : List Octets) : Run (Except Fault Ended) := do
  match ← locate words with
  | .error fault => return .error fault
  | .ok (image, words) =>
    let number ← Process.newNumber
    let own := Process.Own.fresh (← get).toOwn number
    return .ok (← Process.within own (Program.start .usual image words))

/-- Starts a program on a command line and waits for its end, whose code it gives. -/
def spawn (program flag line : String) : Attempt Site Nat := fun site =>
  if (program ++ flag ++ line).toList.contains '\x00' then (.error .nulInCommand, site)
  else if wordLimit ≤ line.utf8ByteSize then (.error (.system .argumentsTooLong), site)
  else
    match (launch ([program, flag, line].map Octets.ofText)).run site.surroundings with
    | .ok (.ok ended) s => (.ok ended.code, site.after s)
    | .ok (.error fault) _ => (.error (.system fault), site)
    | .error _ _ => (.error (.system .notFound), site)

/-- Runs command lines by a program, which is told before it starts and after it has ended.  How it
ended makes no difference. -/
def executor {W : Type} (part : Part W Site) (note : Event → W → W) (program flag : String) :
    Executor W where
  run line := fun w =>
    let w := note (.spawning program line) w
    match Attempt.within part (spawn program flag line) w with
    | (.ok code, w) => (.ok (), note (.childFinished code) w)
    | (.error cause, w) => (.error cause, w)

end Shell
end LineShell
