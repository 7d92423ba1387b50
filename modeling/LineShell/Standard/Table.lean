import LineShell.Registry
import LineShell.Standard.Display
import LineShell.Standard.Errors
import LineShell.Standard.Navigation
import LineShell.Standard.Paths
import LineShell.Standard.System

/-!
# The standard table of commands
-/

namespace LineShell
namespace Standard

variable {W : Type}

/-- Every built-in command, in the order in which help lists them. -/
def commands (h : Host W) : List (Command W) :=
  [cd h, gwd h, exit, leave h, restart, version h, clear h, print h, sleep h, throw h, trace h,
   system h, single h .createFile, single h .removeFile, single h .createDir, single h .removeDir,
   batch h .createFile, batch h .removeFile, batch h .createDir, batch h .removeDir, ls h, help h]

/-- The table of every built-in command. -/
def table (h : Host W) : Registry W := Registry.ofList (commands h)

/-- No two built-in commands share a name, so none of them shadows another. -/
theorem names_nodup (h : Host W) : ((commands h).flatMap fun c => c.names).Nodup := by
  simp only [commands, cd, gwd, exit, leave, restart, version, clear, print, sleep, throw, trace,
    system, single, batch, singleNames, batchNames, ls, help, List.flatMap_cons,
    List.flatMap_nil]
  decide

end Standard
end LineShell
