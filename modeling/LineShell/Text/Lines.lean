/-!
# Lines of a text

A line ends at a line feed, and one carriage return right before that line feed belongs to the end,
not to the line.  A last line without a line feed counts, with whatever carriage return it has.
-/

namespace LineShell

variable {α : Type} [DecidableEq α]

/-- The lines of a sequence of symbols, given its line feed and its carriage return.  It is stated
for any symbols because input comes as bytes and texts come as characters. -/
def linesBy (feed ret : α) : List α → List (List α)
  | [] => []
  | a :: as =>
    if a = feed then [] :: linesBy feed ret as
    else if a = ret ∧ as.head? = some feed then linesBy feed ret as
    else match linesBy feed ret as with
      | [] => [[a]]
      | line :: rest => (a :: line) :: rest

def textLines (text : String) : List String :=
  (linesBy '\n' '\r' text.toList).map String.ofList

end LineShell
