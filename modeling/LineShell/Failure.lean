import LineShell.Text.Numeral

/-!
# Failures of the host

A capability may refuse.  A refusal has a cause, and its text is made from the cause in one place.
The operating system's own causes carry the number and the words it is known for.
-/

namespace LineShell

/-- Why the operating system refused. -/
inductive Fault where
  | notPermitted
  | notFound
  | noProcess
  | argumentsTooLong
  | badFormat
  | badDescriptor
  | noAccess
  | busy
  | exists
  | notDirectory
  | isDirectory
  | invalid
  | notTerminal
  | noSpace
  | noSeek
  | brokenPipe
  | outOfRange
  | nameTooLong
  | notEmpty
  | tooManyLinks
  deriving DecidableEq, Repr

namespace Fault

def number : Fault → Nat
  | .notPermitted => 1
  | .notFound => 2
  | .noProcess => 3
  | .argumentsTooLong => 7
  | .badFormat => 8
  | .badDescriptor => 9
  | .noAccess => 13
  | .busy => 16
  | .exists => 17
  | .notDirectory => 20
  | .isDirectory => 21
  | .invalid => 22
  | .notTerminal => 25
  | .noSpace => 28
  | .noSeek => 29
  | .brokenPipe => 32
  | .outOfRange => 34
  | .nameTooLong => 36
  | .notEmpty => 39
  | .tooManyLinks => 40

def description : Fault → String
  | .notPermitted => "Operation not permitted"
  | .notFound => "No such file or directory"
  | .noProcess => "No such process"
  | .argumentsTooLong => "Argument list too long"
  | .badFormat => "Exec format error"
  | .badDescriptor => "Bad file descriptor"
  | .noAccess => "Permission denied"
  | .busy => "Device or resource busy"
  | .exists => "File exists"
  | .notDirectory => "Not a directory"
  | .isDirectory => "Is a directory"
  | .invalid => "Invalid argument"
  | .notTerminal => "Inappropriate ioctl for device"
  | .noSpace => "No space left on device"
  | .noSeek => "Illegal seek"
  | .brokenPipe => "Broken pipe"
  | .outOfRange => "Numerical result out of range"
  | .nameTooLong => "File name too long"
  | .notEmpty => "Directory not empty"
  | .tooManyLinks => "Too many levels of symbolic links"

end Fault

/-- Why a call on the host failed. -/
inductive Failure where
  /-- The operating system refused. -/
  | system (fault : Fault)
  /-- A path with a NUL character, which no system call can take. -/
  | nulInPath
  /-- A command line with a NUL character. -/
  | nulInCommand
  /-- Nobody reads the output. -/
  | brokenPipe
  /-- The input is not a text. -/
  | invalidText
  /-- A cause in somebody else's words. -/
  | other (text : String)
  deriving DecidableEq, Repr

def Failure.message : Failure → String
  | .system fault => fault.description ++ " (os error " ++ Numeral.decimal fault.number ++ ")"
  | .nulInPath => "file name contained an unexpected NUL byte"
  | .nulInCommand => "nul byte found in provided data"
  | .brokenPipe => "broken pipe"
  | .invalidText => "stream did not contain valid UTF-8"
  | .other text => text

/-- Why a change of directory failed: the directory was refused, or it was entered and then could
not be read back. -/
inductive ChangeFailure where
  | refused (path : String) (cause : Failure)
  | unreadable (cause : Failure)
  deriving DecidableEq, Repr

def ChangeFailure.message : ChangeFailure → String
  | .refused path _ => "cannot change directory to " ++ path
  | .unreadable _ => "cannot read working directory"

end LineShell
