import LineShell.Text.Octets

/-!
# What programs say about themselves

A program can be asked how it is used and which release it is.  Only the head of what it then says
is kept here: the forms in which it can be called, and the line that names the release.
-/

namespace LineShell
namespace Shell
namespace Manual

/-- The words that may follow the name of a program, in each of its forms. -/
def forms : List (String × List String) :=
  [("[", ["EXPRESSION", "", "EXPRESSION ]", "]", "OPTION"]),
   ("b2sum", ["[OPTION]... [FILE]..."]),
   ("base32", ["[OPTION]... [FILE]"]),
   ("base64", ["[OPTION]... [FILE]"]),
   ("basename", ["NAME [SUFFIX]", "OPTION... NAME..."]),
   ("basenc", ["[OPTION]... [FILE]"]),
   ("cat", ["[OPTION]... [FILE]..."]),
   ("chmod",
    ["[OPTION]... MODE[,MODE]... FILE...",
     "[OPTION]... OCTAL-MODE FILE...",
     "[OPTION]... --reference=RFILE FILE..."]),
   ("cksum", ["[OPTION]... [FILE]..."]),
   ("cmp", ["[OPTION]... FILE1 [FILE2 [SKIP1 [SKIP2]]]"]),
   ("comm", ["[OPTION]... FILE1 FILE2"]),
   ("cp",
    ["[OPTION]... [-T] SOURCE DEST",
     "[OPTION]... SOURCE... DIRECTORY",
     "[OPTION]... -t DIRECTORY SOURCE..."]),
   ("cut", ["OPTION... [FILE]..."]),
   ("date", ["[OPTION]... [+FORMAT]", "[-u|--utc|--universal] [MMDDhhmm[[CC]YY][.ss]]"]),
   ("diff", ["[OPTION]... FILES"]),
   ("dir", ["[OPTION]... [FILE]..."]),
   ("dirname", ["[OPTION] NAME..."]),
   ("echo", ["[SHORT-OPTION]... [STRING]...", "LONG-OPTION"]),
   ("egrep", ["[OPTION]... PATTERNS [FILE]..."]),
   ("env", ["[OPTION]... [-] [NAME=VALUE]... [COMMAND [ARG]...]"]),
   ("expand", ["[OPTION]... [FILE]..."]),
   ("expr", ["EXPRESSION", "OPTION"]),
   ("factor", ["[OPTION] [NUMBER]..."]),
   ("false", ["[ignored command line arguments]", "OPTION"]),
   ("fgrep", ["[OPTION]... PATTERNS [FILE]..."]),
   ("find", ["[-H] [-L] [-P] [-Olevel] [-D debugopts] [path...] [expression]"]),
   ("fold", ["[OPTION]... [FILE]..."]),
   ("grep", ["[OPTION]... PATTERNS [FILE]..."]),
   ("head", ["[OPTION]... [FILE]..."]),
   ("id", ["[OPTION]... [USER]..."]),
   ("install",
    ["[OPTION]... [-T] SOURCE DEST",
     "[OPTION]... SOURCE... DIRECTORY",
     "[OPTION]... -t DIRECTORY SOURCE...",
     "[OPTION]... -d DIRECTORY..."]),
   ("join", ["[OPTION]... FILE1 FILE2"]),
   ("link", ["FILE1 FILE2", "OPTION"]),
   ("ln",
    ["[OPTION]... [-T] TARGET LINK_NAME",
     "[OPTION]... TARGET",
     "[OPTION]... TARGET... DIRECTORY",
     "[OPTION]... -t DIRECTORY TARGET..."]),
   ("logname", ["[OPTION]"]),
   ("ls", ["[OPTION]... [FILE]..."]),
   ("md5sum", ["[OPTION]... [FILE]..."]),
   ("mkdir", ["[OPTION]... DIRECTORY..."]),
   ("mv",
    ["[OPTION]... [-T] SOURCE DEST",
     "[OPTION]... SOURCE... DIRECTORY",
     "[OPTION]... -t DIRECTORY SOURCE..."]),
   ("nl", ["[OPTION]... [FILE]..."]),
   ("numfmt", ["[OPTION]... [NUMBER]..."]),
   ("od",
    ["[OPTION]... [FILE]...",
     "[-abcdfilosx]... [FILE] [[+]OFFSET[.][b]]",
     "--traditional [OPTION]... [FILE] [[+]OFFSET[.][b] [+][LABEL][.][b]]"]),
   ("paste", ["[OPTION]... [FILE]..."]),
   ("printenv", ["[OPTION]... [VARIABLE]..."]),
   ("printf", ["FORMAT [ARGUMENT]...", "OPTION"]),
   ("pwd", ["[OPTION]..."]),
   ("readlink", ["[OPTION]... FILE..."]),
   ("realpath", ["[OPTION]... FILE..."]),
   ("rm", ["[OPTION]... [FILE]..."]),
   ("rmdir", ["[OPTION]... DIRECTORY..."]),
   ("sed", ["[OPTION]... \x7bscript-only-if-no-other-script\x7d [input-file]..."]),
   ("seq", ["[OPTION]... LAST", "[OPTION]... FIRST LAST", "[OPTION]... FIRST INCREMENT LAST"]),
   ("sha1sum", ["[OPTION]... [FILE]..."]),
   ("sha224sum", ["[OPTION]... [FILE]..."]),
   ("sha256sum", ["[OPTION]... [FILE]..."]),
   ("sha384sum", ["[OPTION]... [FILE]..."]),
   ("sha512sum", ["[OPTION]... [FILE]..."]),
   ("sleep", ["NUMBER[SUFFIX]...", "OPTION"]),
   ("sort", ["[OPTION]... [FILE]...", "[OPTION]... --files0-from=F"]),
   ("sum", ["[OPTION]... [FILE]..."]),
   ("sync", ["[OPTION] [FILE]..."]),
   ("tac", ["[OPTION]... [FILE]..."]),
   ("tail", ["[OPTION]... [FILE]..."]),
   ("tee", ["[OPTION]... [FILE]..."]),
   ("touch", ["[OPTION]... FILE..."]),
   ("tr", ["[OPTION]... STRING1 [STRING2]"]),
   ("true", ["[ignored command line arguments]", "OPTION"]),
   ("truncate", ["OPTION... FILE..."]),
   ("tsort", ["[OPTION] [FILE]"]),
   ("tty", ["[OPTION]..."]),
   ("uname", ["[OPTION]..."]),
   ("unexpand", ["[OPTION]... [FILE]..."]),
   ("uniq", ["[OPTION]... [INPUT [OUTPUT]]"]),
   ("unlink", ["FILE", "OPTION"]),
   ("vdir", ["[OPTION]... [FILE]..."]),
   ("wc", ["[OPTION]... [FILE]...", "[OPTION]... --files0-from=F"]),
   ("whoami", ["[OPTION]..."]),
   ("xargs", ["[OPTION]... COMMAND [INITIAL-ARGS]..."]),
   ("yes", ["[STRING]...", "OPTION"])]

/-- Bundles that programs come in, with their releases; all other programs are in one more. -/
def bundles : List (String × List String) :=
  [("(GNU diffutils) 3.8", ["diff", "cmp"]),
   ("(GNU grep) 3.8", ["grep", "egrep", "fgrep"]),
   ("(GNU sed) 4.9", ["sed"]),
   ("(GNU findutils) 4.9.0", ["find", "xargs"])]

def ownName (program : String) : String :=
  if ["egrep", "fgrep"].contains program then "grep" else program

def release (program : String) : String :=
  let bundle := (bundles.find? fun bundle => bundle.2.contains program).map (·.1)
  ownName program ++ " " ++ bundle.getD "(GNU coreutils) 9.1"

def usage (program : String) : List String :=
  match (forms.lookup program).getD [] with
  | [] => ["Usage: " ++ program]
  | first :: others =>
    let called := ownName program
    ("Usage: " ++ called ++ " " ++ first) ::
      others.map fun form => "  or:  " ++ called ++ " " ++ form

/-- The last part of the path that a program was called by. -/
def baseName (called : String) : String := ((called.splitOn "/").getLast?).getD called

end Manual
end Shell
end LineShell
