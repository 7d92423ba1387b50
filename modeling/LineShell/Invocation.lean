import LineShell.Text.Quoted

/-!
# The command line of the process

The first argument decides what the process does.  The command flag takes every following argument,
the directory flag takes one, and whatever else follows is ignored.  Flags are matched exactly.
-/

namespace LineShell

/-- What the process is asked to do. -/
inductive Invocation where
  /-- Read lines, from home. -/
  | interactive
  /-- Print the version. -/
  | version
  /-- Run one command, given by its words. -/
  | command (words : List String)
  /-- Read lines, from a directory. -/
  | directory (path : String)
  /-- Print how to invoke the process. -/
  | help (text : String)
  /-- Explain what was wrong with the arguments. -/
  | invalid (text : String)
  deriving DecidableEq, Repr

namespace Invocation

def commandFlags : List String := ["-c", "--command"]

def versionFlags : List String := ["-v", "--version", "-i", "--info"]

def directoryFlags : List String := ["-d", "--directory", "--wdir", "-ld"]

def helpFlags : List String := ["--help", "help"]

/-- The flag that ends the flags. -/
def endOfFlags : String := "--"

/-- How to invoke the process. -/
def usage : String :=
  "Usage: yash [-v] [-d <directory>]\n" ++
  "\n" ++
  "A small line-oriented command interpreter. Without flags, starts the interactive loop in the " ++
  "home directory.\n" ++
  "\n" ++
  "Options:\n" ++
  "  -v, --version     print version and build information, also `-i` or `--info`\n" ++
  "  -d, --directory   start the interactive loop in this directory, also `--wdir`\n" ++
  "                    or `-ld`\n" ++
  "  --help, help      display usage information\n" ++
  "\n" ++
  "Notes:\n" ++
  "  Use `-c, --command <tokens...>` to run a single command line in the current directory and " ++
  "exit.\n"

/-- What is said of an argument that is no flag. -/
def unrecognized (arg : String) : String := "Unrecognized argument: " ++ arg ++ "\n"

/-- What is said of a directory flag at the end of the arguments. -/
def missingDirectory : String := "No value provided for option '--directory'.\n"

/-- Reads the arguments of the process, its own name left out. -/
def ofArgs : List String → Invocation
  | [] => .interactive
  | first :: rest =>
    if first ∈ commandFlags then .command rest
    else if first ∈ versionFlags then .version
    else if first ∈ directoryFlags then
      match rest with
      | path :: _ => .directory path
      | [] => .invalid missingDirectory
    else if first = endOfFlags then .interactive
    else if first ∈ helpFlags then .help usage
    else .invalid (unrecognized first)

/-- An invocation as the log shows it. -/
def display : Invocation → String
  | .interactive => "Interactive"
  | .version => "Version"
  | .command words => "Command(" ++ quoteList words ++ ")"
  | .directory path => "Directory(" ++ quote path ++ ")"
  | .help text => "Help(" ++ quote text ++ ")"
  | .invalid text => "Invalid(" ++ quote text ++ ")"

@[simp] theorem ofArgs_nil : ofArgs [] = .interactive := rfl

/-- The command flag passes on every argument after it. -/
theorem ofArgs_command {flag : String} (h : flag ∈ commandFlags) (words : List String) :
    ofArgs (flag :: words) = .command words := by
  simp [ofArgs, h]

end Invocation
end LineShell
