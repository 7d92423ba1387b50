import LineShell.Shell.Paths
import LineShell.Shell.Utility.Options

/-!
# What programs read

A program reads its operands, or its input where a hyphen stands for an operand or where there is
none.  What it reads are records that each end with the same byte, mostly a line feed; the last one
may lack its end.
-/

namespace LineShell
namespace Shell
namespace Tool

def input (path : Octets) : Run (Except Fault (List Char)) :=
  if path = "-" then Run.readAll 0 else Run.readPath path

def inputOrComplain (name path : Octets) : Run (Option (List Char)) := do
  match ← input path with
  | .ok octets => return some octets
  | .error problem =>
    fault name (Quoting.ifNeeded path) problem
    return none

/-- The operands, or the input if there are none. -/
def inputs (given : Given) : List Octets :=
  if given.operands.isEmpty then ["-"] else given.operands

/-- Cuts bytes into records without their ends. -/
def records (stop : Char) (octets : List Char) : List (List Char) :=
  match split octets [] [] with
  | [] :: rest => rest.reverse
  | parts => parts.reverse
where
  split : List Char → List Char → List (List Char) → List (List Char)
    | [], current, done => current.reverse :: done
    | c :: rest, current, done =>
      if c = stop then split rest [] (current.reverse :: done) else split rest (c :: current) done

def unrecords (stop : Char) (records : List (List Char)) : Octets :=
  String.ofList (records.flatMap fun record => record ++ [stop])

/-- Cuts bytes into lines without their line feeds. -/
def lines : List Char → List (List Char) := records '\n'

def unlines : List (List Char) → Octets := unrecords '\n'

def stopOf (zero : Bool) : Char := if zero then '\x00' else '\n'

/-- Gives back to a file what was read of it and not needed. -/
def giveBack (octets used : List Char) : Run Unit := do
  match ← Run.channel? 0 with
  | some (index, .file location offset reads writes appends) =>
    Run.setChannel index
      (.file location (offset - (octets.length - used.length)) reads writes appends)
  | _ => return

end Tool
end Shell
end LineShell
