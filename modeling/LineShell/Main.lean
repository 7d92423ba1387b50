import LineShell.Process

/-!
# The program

The program runs on a machine in memory, with the arguments, the environment and the standard input
of the process and with files of its own, which end with it.
-/

namespace LineShell

/-- The variables of the environment that the program looks at. -/
def watchedVariables : List String :=
  ["HOME", "USERPROFILE", "USER", "USERNAME", "TERM", "YASH_LOG"]

/-- The variables that are set. -/
def readEnvironment : IO (List (String × String)) := do
  let values ← watchedVariables.mapM fun name => do
    return (← IO.getEnv name).map fun value => (name, value)
  return values.filterMap id

/-- Reads a stream to its end. -/
partial def readBytes (stream : IO.FS.Stream) (bytes : ByteArray) : IO ByteArray := do
  let more ← stream.read 65536
  if more.isEmpty then return bytes else readBytes stream (bytes ++ more)

end LineShell

/-- Runs the program and writes what it wrote. -/
def main (args : List String) : IO UInt32 := do
  let environment ← LineShell.readEnvironment
  let bytes ← LineShell.readBytes (← IO.getStdin) ByteArray.empty
  let run := LineShell.Run.ofProcess args environment bytes.toList (LineShell.Files.fresh ["home"])
  IO.print run.output
  IO.eprint run.errors
  run.log.forM fun line => IO.eprintln line
  return run.status.toUInt32
