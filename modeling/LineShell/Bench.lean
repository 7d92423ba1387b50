import LineShell.Interpreter
import LineShell.Shell.Executor
import LineShell.Transcript

/-!
# A bench for interpreters

On a bench an interpreter runs against files in memory, an output that is kept as a transcript, and
an executor of choice: one that writes down what it is given, one that always fails, or one that
really runs command lines.  Any of the operations on files can be made to fail.
-/

namespace LineShell

structure Bench where
  site : Shell.Site
  transcript : Transcript := {}
  /-- The command lines that were written down, oldest first. -/
  recorded : List String := []

/-- The operations on files, by name. -/
inductive FileOperation where
  | createFile
  | removeFile
  | createDir
  | removeDir
  | listDir
  | currentDir
  | setCurrentDir
  deriving DecidableEq, Repr

/-- A file system some of whose operations always fail. -/
def FileSystem.refusing {W : Type} (refused : List FileOperation) (cause : Failure)
    (fs : FileSystem W) : FileSystem W where
  createFile path := if .createFile ∈ refused then .refuse cause else fs.createFile path
  removeFile path := if .removeFile ∈ refused then .refuse cause else fs.removeFile path
  createDir path := if .createDir ∈ refused then .refuse cause else fs.createDir path
  removeDir path := if .removeDir ∈ refused then .refuse cause else fs.removeDir path
  listDir path := if .listDir ∈ refused then .refuse cause else fs.listDir path
  currentDir := if .currentDir ∈ refused then .refuse cause else fs.currentDir
  setCurrentDir path := if .setCurrentDir ∈ refused then .refuse cause else fs.setCurrentDir path

namespace Bench

/-- How command lines are run on a bench. -/
inductive Execution where
  | recording
  | failing
  /-- By a program that is given a flag and the command line. -/
  | spawning (program flag : String)
  deriving DecidableEq, Repr

def sitePart : Part Bench Shell.Site where
  get b := b.site
  set site b := { b with site }

def filesPart : Part Bench Files where
  get b := b.site.files
  set files b := { b with site := b.site.withFiles files }

def transcriptPart : Part Bench Transcript where
  get b := b.transcript
  set transcript b := { b with transcript }

/-- Writes a command line down. -/
def record (line : String) : Attempt Bench Unit := fun b =>
  (.ok (), { b with recorded := b.recorded ++ [line] })

def executor : Execution → Executor Bench
  | .recording => { run := record }
  | .failing => { run := fun _ => .refuse (.other "executor failure") }
  | .spawning program flag => Shell.executor sitePart (fun _ b => b) program flag

/-- The host of a bench.  Events are dropped and nobody waits. -/
def host (execution : Execution) (refused : List FileOperation) : Host Bench where
  toFileSystem :=
    (FileSystem.within filesPart Files.system).refusing refused (.other "file system failure")
  toOutput := Output.within transcriptPart Transcript.output
  toExecutor := executor execution
  note _ b := b
  pause _ b := b

/-- A bench after its transcript was read: the next step starts with an empty one. -/
def drain (b : Bench) : Bench := { b with transcript := b.transcript.drain, recorded := [] }

end Bench
end LineShell
