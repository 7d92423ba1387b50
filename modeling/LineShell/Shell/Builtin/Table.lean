import LineShell.Shell.Builtin.Condition
import LineShell.Shell.Builtin.Control
import LineShell.Shell.Builtin.Input
import LineShell.Shell.Builtin.Jobs
import LineShell.Shell.Builtin.Limits
import LineShell.Shell.Builtin.Location
import LineShell.Shell.Builtin.Naming
import LineShell.Shell.Builtin.Output
import LineShell.Shell.Builtin.Variables

/-!
# The table of a shell's commands

`exec` is known here by its name only: what it does to a process is part of how commands run.
-/

namespace LineShell
namespace Shell
namespace Builtin

def simpleTable : Builtins :=
  [(".", dot), (":", colon), ("[", test), ("alias", alias_), ("bg", resume),
   ("break", leave .breaks), ("cd", cd), ("continue", leave .continues), ("echo", echo),
   ("eval", eval), ("exec", colon), ("exit", exit), ("export", export_), ("false", failing),
   ("fg", resume), ("getopts", getopts), ("jobs", jobs), ("kill", kill), ("let", let_),
   ("local", local_), ("printf", printf), ("pwd", pwd), ("read", read), ("readonly", readonly),
   ("return", return_), ("set", set_), ("shift", shift), ("test", test), ("times", times),
   ("trap", trap), ("true", succeed), ("ulimit", ulimit), ("umask", umask), ("unalias", unalias),
   ("unset", unset), ("wait", wait)]

/-- All commands, as far as they can be described. -/
def described : Builtins :=
  simpleTable ++ [("command", succeed), ("hash", succeed), ("type", succeed)]

def table : Builtins :=
  simpleTable ++
    [("command", command described), ("hash", hash described), ("type", type described)]

end Builtin
end Shell
end LineShell
