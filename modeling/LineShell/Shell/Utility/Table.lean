import LineShell.Shell.Utility.Arranging
import LineShell.Shell.Utility.Comparing
import LineShell.Shell.Utility.Copying
import LineShell.Shell.Utility.Counting
import LineShell.Shell.Utility.Cutting
import LineShell.Shell.Utility.Differing
import LineShell.Shell.Utility.Digesting
import LineShell.Shell.Utility.Dumping
import LineShell.Shell.Utility.Editing
import LineShell.Shell.Utility.Encoding
import LineShell.Shell.Utility.Finding
import LineShell.Shell.Utility.Folding
import LineShell.Shell.Utility.Joining
import LineShell.Shell.Utility.Linking
import LineShell.Shell.Utility.Listing
import LineShell.Shell.Utility.Locating
import LineShell.Shell.Utility.Making
import LineShell.Shell.Utility.Moving
import LineShell.Shell.Utility.Numbering
import LineShell.Shell.Utility.Pasting
import LineShell.Shell.Utility.Permitting
import LineShell.Shell.Utility.Portions
import LineShell.Shell.Utility.Reckoning
import LineShell.Shell.Utility.Removing
import LineShell.Shell.Utility.Rescaling
import LineShell.Shell.Utility.Saying
import LineShell.Shell.Utility.Searching
import LineShell.Shell.Utility.Showing
import LineShell.Shell.Utility.Sorting
import LineShell.Shell.Utility.Stamping
import LineShell.Shell.Utility.Starting
import LineShell.Shell.Utility.Tallying
import LineShell.Shell.Utility.Telling
import LineShell.Shell.Utility.Testing
import LineShell.Shell.Utility.Translating

/-!
# The table of programs

Every program of the host that is no shell, by its name.
-/

namespace LineShell
namespace Shell
namespace Utility

def table : List (String × Tool) :=
  [("[", Testing.bracket), ("b2sum", Digesting.b2sum), ("base32", Encoding.base32),
   ("base64", Encoding.base64), ("basename", Locating.basename), ("basenc", Encoding.basenc),
   ("cat", Showing.cat), ("chmod", Permitting.chmod), ("cksum", Digesting.cksum),
   ("cmp", Comparing.cmp), ("comm", Collating.comm), ("cp", Copying.cp), ("cut", Cutting.cut),
   ("date", Stamping.date), ("diff", Differing.diff), ("dir", Listing.dir),
   ("dirname", Locating.dirname), ("echo", Saying.echo), ("egrep", Searching.egrep),
   ("env", Starting.env), ("expand", Folding.expand), ("expr", Reckoning.expr),
   ("factor", Factoring.factor), ("false", Saying.false_), ("fgrep", Searching.fgrep),
   ("find", Finding.find), ("fold", Folding.fold), ("grep", Searching.grep),
   ("head", Portions.head), ("id", Telling.id_), ("install", Copying.install),
   ("join", Joining.join), ("link", Linking.link), ("ln", Linking.ln), ("logname", Telling.logname),
   ("ls", Listing.ls), ("md5sum", Digesting.md5sum), ("mkdir", Making.mkdir), ("mv", Moving.mv),
   ("nl", Numbering.nl), ("numfmt", Rescaling.numfmt), ("od", Dumping.od), ("paste", Pasting.paste),
   ("printenv", Starting.printenv), ("printf", Saying.printf), ("pwd", Locating.pwd),
   ("readlink", Locating.readlink), ("realpath", Locating.realpath), ("rev", Showing.rev),
   ("rm", Removing.rm), ("rmdir", Making.rmdir), ("sed", Editing.sed), ("seq", Counting.seq),
   ("sha1sum", Digesting.sha1sum), ("sha224sum", Digesting.sha224sum),
   ("sha256sum", Digesting.sha256sum), ("sha384sum", Digesting.sha384sum),
   ("sha512sum", Digesting.sha512sum), ("sleep", Starting.sleep), ("sort", Sorting.sort),
   ("sum", Digesting.sum), ("sync", Telling.sync), ("tac", Showing.tac), ("tail", Portions.tail),
   ("tee", Showing.tee), ("test", Testing.test), ("touch", Stamping.touch), ("tr", Translating.tr),
   ("true", Saying.true_), ("truncate", Making.truncate), ("tsort", Arranging.tsort),
   ("tty", Telling.tty), ("uname", Telling.uname), ("unexpand", Folding.unexpand),
   ("uniq", Collating.uniq), ("unlink", Making.unlink), ("vdir", Listing.vdir), ("wc", Tallying.wc),
   ("which", Locating.which), ("whoami", Telling.whoami), ("xargs", Starting.xargs),
   ("yes", Saying.yes)]

end Utility
end Shell
end LineShell
