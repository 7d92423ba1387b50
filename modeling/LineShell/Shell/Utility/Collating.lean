import LineShell.Shell.Utility.Collation
import LineShell.Shell.Utility.Inputs
import LineShell.Shell.Utility.Quantity

/-!
# Programs that compare neighbouring lines

`uniq` looks at lines of one file that stand side by side and are equal.  `comm` goes through two
files that are in order, and tells which lines are in the first one, in the second one or in both.
-/

namespace LineShell
namespace Shell
namespace Collating

open Collation

/-! ## Repeated lines -/

/-- Where groups of equal lines are set apart. -/
inductive Parting where
  | nowhere
  | before
  | after
  | between
  | around
  deriving DecidableEq, Repr

/-- Which part of a line is compared. -/
structure View where
  fields : Nat := 0
  bytes : Nat := 0
  width : Option Nat := none
  folds : Bool := false

def View.of (v : View) (line : Line) : Line :=
  let rest := (skipFields none v.fields line).drop v.bytes
  let rest := match v.width with
    | some width => rest.take width
    | none => rest
  if v.folds then rest.map Char.toUpper else rest

/-- What is written of the runs of equal lines. -/
structure RunPlan where
  view : View
  /-- Whether lines that occur once are written. -/
  singles : Bool := true
  /-- Whether the first line of several is written. -/
  firsts : Bool := true
  others : Bool := false
  counts : Bool := false
  parting : Parting := .nowhere
  /-- Whether all lines are written in groups. -/
  groups : Bool := false

def runs (v : View) (lines : List Line) : List (List Line) :=
  lines.splitBy fun a b => v.of a = v.of b

def RunPlan.write (p : RunPlan) (runs : List (List Line)) : List Line :=
  let mark := fun (wanted : List Parting) => if wanted.contains p.parting then [[]] else []
  if p.groups then
    let body := runs.zipIdx.flatMap fun (run, i) =>
      (if i = 0 then mark [.before, .around] else mark [.before, .between, .after, .around]) ++ run
    body ++ (if runs.isEmpty then [] else mark [.after, .around])
  else
    let chosen := runs.filter fun run =>
      if run.length = 1 then p.singles else p.firsts || p.others
    (chosen.foldl (fun (done, started) run =>
      if run.length = 1 then (done ++ counted 1 run, started)
      else
        let lines := if p.firsts && p.others then run
          else if p.firsts then run.take 1 else run.dropLast
        let front := if started then mark [.before, .between] else mark [.before]
        (done ++ front ++ counted run.length lines, true))
      (([] : List Line), false)).1
where
  counted (n : Nat) (lines : List Line) : List Line :=
    if p.counts then
      lines.map fun line => (Tool.padLeft 7 (Numeral.decimal n)).toList ++ ' ' :: line
    else lines

def repeatedNames : List (List String × Parting) :=
  [(["none"], .nowhere), (["prepend"], .before), (["separate"], .between)]

def groupNames : List (List String × Parting) :=
  [(["prepend"], .before), (["append"], .after), (["separate"], .between), (["both"], .around)]

/-- What was asked for, as far as it was read. -/
structure RunRequest where
  plan : RunPlan := { view := {} }
  /-- Whether the number of fields was given by digits of their own. -/
  oldStyle : Bool := false
  /-- Whether it was asked which lines are written. -/
  chooses : Bool := false

def skipCount (name what text : Octets) : Run (Except Nat Nat) := do
  match Quantity.read "" text with
  | .fine n => return .ok n
  | .tooLarge => return .ok (Quantity.limit - 1)
  | .malformed =>
    Tool.complain name (text ++ ": " ++ what)
    return .error 1

def RunRequest.read (name : Octets) (r : RunRequest) (option : GivenOption) :
    Run (Except Nat RunRequest) := do
  let p := r.plan
  let with_ := fun (p : RunPlan) (chooses : Bool) =>
    (.ok { r with plan := p, chooses := r.chooses || chooses } : Except Nat RunRequest)
  let number := fun (what : Octets) => skipCount name what (option.2.getD "")
  match option.1 with
  | 'c' => return with_ { p with counts := true } true
  | 'd' => return with_ { p with singles := false } true
  | 'u' => return with_ { p with firsts := false } true
  | 'i' => return with_ { p with view := { p.view with folds := true } } false
  | 'D' =>
    let p := { p with singles := false, others := true }
    match option.2 with
    | none => return with_ { p with parting := .nowhere } true
    | some word =>
      match ← Tool.choose name "--all-repeated" word repeatedNames with
      | some parting => return with_ { p with parting } true
      | none => return .error 1
  | '\x10' =>
    let p := { p with groups := true }
    match option.2 with
    | none => return with_ { p with parting := .between } false
    | some word =>
      match ← Tool.choose name "--group" word groupNames with
      | some parting => return with_ { p with parting } false
      | none => return .error 1
  | 'f' =>
    match ← number "invalid number of fields to skip" with
    | .ok n =>
      let view := { p.view with fields := n }
      return .ok { r with plan := { p with view }, oldStyle := false }
    | .error status => return .error status
  | 's' =>
    match ← number "invalid number of bytes to skip" with
    | .ok n => return with_ { p with view := { p.view with bytes := n } } false
    | .error status => return .error status
  | 'w' =>
    match ← number "invalid number of bytes to compare" with
    | .ok n => return with_ { p with view := { p.view with width := some n } } false
    | .error status => return .error status
  | letter =>
    if letter.isDigit then
      let before := if r.oldStyle then p.view.fields else 0
      let n := min (Quantity.limit - 1) (10 * before + (letter.toNat - '0'.toNat))
      return .ok { r with plan := { p with view := { p.view with fields := n } }, oldStyle := true }
    else return .ok r

def RunRequest.readAll (name : Octets) : RunRequest → List GivenOption → Run (Except Nat RunRequest)
  | r, [] => return .ok r
  | r, option :: others => do
    match ← r.read name option with
    | .ok r => RunRequest.readAll name r others
    | .error status => return .error status

def skippedBytes? (word : Octets) : Option Nat :=
  if !word.startsWith "+" then none
  else match Quantity.read "" word with
    | .fine n => some n
    | _ => none

/-- Opens the input and the output, and writes the lines that are wanted. -/
def writeRuns (name : Octets) (p : RunPlan) (stop : Char) (source : Octets)
    (target : Option Octets) : Run Nat := do
  match ← Tool.input source with
  | .error .isDirectory =>
    Tool.fault name ("error reading " ++ Quoting.always source) .isDirectory
    return 1
  | .error fault =>
    Tool.fault name (Quoting.ifNeeded source) fault
    return 1
  | .ok octets =>
    let text := Tool.unrecords stop (p.write (runs p.view (Tool.records stop octets)))
    match target with
    | none =>
      Run.emit text
      return 0
    | some path =>
      match ← Run.writePath path text with
      | none => return 0
      | some fault =>
        Tool.fault name (Quoting.ifNeeded path) fault
        return 1

def uniq : Tool := fun _ name words =>
  let digits := "0123456789".toList.map fun c => (⟨c, "", .no⟩ : OptionShape)
  Tool.withOptions ([⟨'c', "count", .no⟩, ⟨'d', "repeated", .no⟩, ⟨'D', "", .no⟩,
      ⟨'D', "all-repeated", .maybe⟩, ⟨'\x10', "group", .maybe⟩, ⟨'i', "ignore-case", .no⟩,
      ⟨'u', "unique", .no⟩, ⟨'f', "skip-fields", .yes⟩, ⟨'s', "skip-chars", .yes⟩,
      ⟨'w', "check-chars", .yes⟩, ⟨'z', "zero-terminated", .no⟩] ++ digits) 1 name words
      fun given => do
    match ← RunRequest.readAll name {} given.options with
    | .error status => return status
    | .ok r =>
      let (skips, operands) := given.operands.partition fun word => (skippedBytes? word).isSome
      let bytes := (skips.getLast?.bind skippedBytes?).getD r.plan.view.bytes
      let p := { r.plan with view := { r.plan.view with bytes } }
      match operands with
      | _ :: _ :: extra :: _ => Tool.misuse name ("extra operand " ++ Quoting.plain extra) 1
      | operands =>
        if p.groups && r.chooses then
          Tool.misuse name "--group is mutually exclusive with -c/-d/-D/-u" 1
        else if p.counts && p.others then
          Tool.misuse name "printing all duplicated lines and repeat counts is meaningless" 1
        else
          let target := operands[1]?
          writeRuns name p (Tool.stopOf (given.has 'z')) (operands.headD "-")
            (if target = some "-" then none else target)

/-! ## Common lines -/

/-- When it is complained that lines are not in order. -/
inductive Vigilance where
  | never
  /-- Once a line was found in one file only. -/
  | onMismatch
  | always
  deriving DecidableEq, Repr

def Vigilance.ofOptions (given : Given) (always never : Char) : Vigilance :=
  match given.last? [always, never] with
  | some c => if c = always then .always else .never
  | none => .onMismatch

/-- One of the files: the lines to come, and those that were read last, the last one first. -/
structure Side where
  rest : List Line
  seen : List Line := []
  complained : Bool := false

def Side.advance (side : Side) : Side :=
  match side.rest with
  | line :: rest => { side with rest, seen := line :: side.seen.take 1 }
  | [] => side

/-- Whether the last two lines are out of order. -/
def Side.disordered (side : Side) : Bool :=
  match side.seen with
  | b :: a :: _ => compareBytes a b = .gt
  | _ => false

/-- How far two files were compared. -/
structure Comparing where
  left : Side
  right : Side
  mismatch : Bool := false
  columns : List (Nat × Line) := []
  complaints : List Nat := []

/-- Compares the next lines.  A complaint stops everything where that is asked for. -/
def Comparing.step (watch : Vigilance) (s : Comparing) : Option Comparing :=
  let order : Option Ordering := match s.left.rest, s.right.rest with
    | [], [] => none
    | [], _ => some .gt
    | _, [] => some .lt
    | a :: _, b :: _ => some (compareBytes a b)
  order.map fun order =>
    let column := match order with
      | .eq => 2
      | .lt => 0
      | .gt => 1
    let line := (if order = .lt then s.left.rest else s.right.rest).headD []
    let mismatch := s.mismatch || order != .eq
    let s := { s with mismatch, columns := (column, line) :: s.columns }
    let s := if order = .gt then s else { s with left := s.left.advance }
    let s := if order = .lt then s else { s with right := s.right.advance }
    let s := if order = .gt then s else check s 1 s.left fun side => { s with left := side }
    if order = .lt then s else check s 2 s.right fun side => { s with right := side }
where
  /-- Looks whether the next line of a file is in order, or the last one once there is no other. -/
  check (s : Comparing) (n : Nat) (side : Side) (put : Side → Comparing) : Comparing :=
    let wanted := match watch with
      | .never => false
      | .onMismatch => s.mismatch
      | .always => true
    let ahead := if side.rest.isEmpty then side else side.advance
    if wanted && !side.complained && ahead.disordered then
      { put { side with complained := true } with complaints := n :: s.complaints }
    else s

def Comparing.run (watch : Vigilance) : Nat → Comparing → Comparing
  | 0, s => s
  | fuel + 1, s =>
    if watch = .always && !s.complaints.isEmpty then s
    else
      match s.step watch with
      | some s => Comparing.run watch fuel s
      | none => s

def readBoth (name : Octets) (stop : Char) (first second : Octets) :
    Run (Option (List Line × List Line)) := do
  match ← Tool.inputOrComplain name first with
  | none => return none
  | some a =>
    match ← Tool.inputOrComplain name second with
    | none => return none
    | some b => return some (Tool.records stop a, Tool.records stop b)

def comm : Tool := fun _ name words =>
  Tool.withOptions [⟨'1', "", .no⟩, ⟨'2', "", .no⟩, ⟨'3', "", .no⟩, ⟨'\x10', "check-order", .no⟩,
      ⟨'\x11', "nocheck-order", .no⟩, ⟨'\x12', "output-delimiter", .yes⟩, ⟨'\x13', "total", .no⟩,
      ⟨'z', "zero-terminated", .no⟩] 1 name words fun given => do
    let joiners := (given.options.filter fun option => option.1 = '\x12').filterMap (·.2)
    let clash := joiners.any fun joiner => joiner != joiners.headD "" && joiners.headD "" != ""
    if clash then
      Tool.complain name "multiple output delimiters specified"
      return 1
    match given.operands with
    | [] => Tool.misuse name "missing operand" 1
    | [_] => Tool.misuse name ("missing operand after " ++ Quoting.plain (words.getLastD "")) 1
    | _ :: _ :: extra :: _ => Tool.misuse name ("extra operand " ++ Quoting.plain extra) 1
    | [first, second] =>
      let stop := Tool.stopOf (given.has 'z')
      match ← readBoth name stop first second with
      | none => return 1
      | some (a, b) =>
        let joiner := match joiners.getLast? with
          | none => ['\t']
          | some "" => ['\x00']
          | some joiner => joiner.toList
        let watch := Vigilance.ofOptions given '\x10' '\x11'
        let s := Comparing.run watch (a.length + b.length + 1) { left := ⟨a, [], false⟩
                                                                 right := ⟨b, [], false⟩ }
        let shown := fun column => !given.has (['1', '2', '3'][column]?.getD '1')
        let front := fun column =>
          (((List.range column).filter shown).map fun _ => joiner).flatten
        let rows := s.columns.reverse.filter fun row => shown row.1
        Run.emit (Tool.unrecords stop (rows.map fun (column, line) => front column ++ line))
        let told := if watch = .always then 1 else s.complaints.length
        let _ ← (s.complaints.reverse.take told).mapM fun (n : Nat) =>
          Tool.complain name ("file " ++ Numeral.decimal n ++ " is not in sorted order")
        if watch = .always && !s.complaints.isEmpty then return 1
        if given.has '\x13' then
          let count := fun column => (s.columns.filter fun row => row.1 = column).length
          let counts := [0, 1, 2].map fun column => (Numeral.decimal (count column : Nat)).toList
          Run.emit (Tool.unrecords stop [joiner.intercalate (counts ++ ["total".toList])])
        if s.complaints.isEmpty then return 0
        Tool.complain name "input is not in sorted order"
        return 1

end Collating
end Shell
end LineShell
