/-!
# Runs between separators

Words of a line and names of a path are cut the same way: they are the maximal runs of elements
that are no separators.  The cut is one structural pass from the right end, which keeps the run
that may still grow apart from the finished ones.
-/

namespace LineShell
namespace Runs

variable {α : Type}

/-- Puts an unfinished run in front of the finished ones, unless it is empty. -/
def close (run : List α) (rest : List (List α)) : List (List α) :=
  if run.isEmpty then rest else run :: rest

/-- The run at the very front, possibly empty, and the runs after it. -/
def scan (separates : α → Bool) : List α → List α × List (List α)
  | [] => ([], [])
  | a :: as =>
    let (run, rest) := scan separates as
    if separates a then ([], close run rest) else (a :: run, rest)

@[simp] theorem close_nil (rest : List (List α)) : close [] rest = rest := rfl

@[simp] theorem close_cons (a : α) (run : List α) (rest : List (List α)) :
    close (a :: run) rest = (a :: run) :: rest := rfl

end Runs

variable {α : Type}

/-- The maximal runs of elements that do not separate, in order. -/
def runs (separates : α → Bool) (as : List α) : List (List α) :=
  let (run, rest) := Runs.scan separates as
  Runs.close run rest

/-- A separator in front adds nothing. -/
theorem runs_cons_of_separates {separates : α → Bool} {a : α} (as : List α)
    (h : separates a = true) : runs separates (a :: as) = runs separates as := by
  simp [runs, Runs.scan, h]

end LineShell
