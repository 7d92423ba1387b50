import LineShell.Proofs.Doorway

/-!
# The ways a launch can go

Two invocations ask for the input and run a session over it; the others are done at once.  `Passage`
lists the five ways this can go: the input cannot be opened, a session runs, lines are written, the
directory to start in cannot be entered, or one command runs.  `passage_launch` says that there are
no more, and what holds of every launch is read off the list.
-/

namespace LineShell

variable {W : Type}

/-! ## Invocations -/

namespace Invocation

/-- The lines of an invocation that only writes.  The process fails if one of them is not
written. -/
def lines? : Invocation → Option (List String)
  | .version => some Standard.versionLines
  | .help text | .invalid text => some (textLines text)
  | .interactive | .directory _ | .command _ => none

/-- What is written as an error line before the lines of an invocation that only writes. -/
def complaints : Invocation → List Call
  | .invalid _ => [.complain "invalid arguments" none]
  | .interactive | .version | .directory _ | .command _ | .help _ => []

theorem line_notMem_complaints (invocation : Invocation) (text : String) :
    .line text ∉ invocation.complaints := by
  cases invocation <;> simp [complaints]

/-- What is recorded of an invocation that runs neither a session nor a command, given whether it
got as far as the input. -/
def records (opened : Bool) : Invocation → List Record
  | .invalid _ => [.ofKind .invalidArguments]
  | .directory _ => if opened then [] else [.ofKind .invalidData]
  | _ => []

/-- The code of an invocation that does not fail, given the session that it leaves. -/
def code : Invocation → Session → ReturnCode
  | .version, _ | .help _, _ => 0
  | _, session => session.code

end Invocation

/-! ## The parts of a launch -/

namespace Host

/-- A launch at the door. -/
def visit (h : Host W) (openSource : Attempt W (LineSource W)) (invocation : Invocation)
    (s : State W) : Outcome × State (Doorway W) :=
  (Interpreter.standard h.atDoor).launch invocation (Opener.atDoor openSource) s.atDoor

/-- The openings of the input in a launch, in order. -/
def openingsOf (h : Host W) (openSource : Attempt W (LineSource W)) (invocation : Invocation)
    (s : State W) : List Opening := (h.visit openSource invocation s).2.world.openings

/-- The calls that a launch makes. -/
def callsOfLaunch (h : Host W) (openSource : Attempt W (LineSource W)) (invocation : Invocation)
    (s : State W) : List Entry := (h.visit openSource invocation s).2.world.entries

end Host

namespace Interpreter

theorem launch_eq_seen_visit (h : Host W) (openSource : Attempt W (LineSource W))
    (invocation : Invocation) (s : State W) :
    (standard h).launch invocation openSource s =
      seen (fun d => d.world) (h.visit openSource invocation s) :=
  h.over_atDoor.launch invocation (Opener.over_atDoor openSource) s.atDoor

/-- Where the session starts after a change of directory that may have failed. -/
def settled (sh : Interpreter W) : Except ChangeFailure Unit × State W → State W
  | (.ok _, s) => s
  | (.error cause, s) => sh.tell (.homeSkipped cause) s

theorem launchInteractive_eq (sh : Interpreter W) (openSource : Attempt W (LineSource W))
    (s : State W) :
    sh.launchInteractive openSource s = sh.converse openSource (sh.settled (sh.enterHome s)) := by
  unfold launchInteractive
  cases sh.enterHome s with
  | mk result t => cases result <;> rfl

/-- Where the session of an invocation starts: at home, or where it was if home cannot be entered,
or in the directory that was asked for. -/
def origin (sh : Interpreter W) (s : State W) : Invocation → State W
  | .interactive => sh.settled (sh.enterHome (sh.tell (.launching .interactive) s))
  | .directory path => (sh.changeDir path (sh.tell (.launching (.directory path)) s)).2
  | .version | .command _ | .help _ | .invalid _ => s

/-- Whether an invocation gets as far as the input. -/
def Admits (sh : Interpreter W) (s : State W) : Invocation → Prop
  | .interactive => True
  | .directory path => (sh.changeDir path (sh.tell (.launching (.directory path)) s)).1 = .ok ()
  | .version | .command _ | .help _ | .invalid _ => False

/-- Lines are written in order, up to the first that fails. -/
inductive WritesInOrder : List String → List Entry → Except Failure Unit → Prop
  | nil : WritesInOrder [] [] (.ok ())
  | written (text : String) {rest : List String} {calls : List Entry} {r : Except Failure Unit}
      (after : WritesInOrder rest calls r) :
      WritesInOrder (text :: rest) (⟨.line text, .ok .done⟩ :: calls) r
  | lost (text : String) (rest : List String) (cause : Failure) :
      WritesInOrder (text :: rest) [⟨.line text, .error cause⟩] (.error cause)

namespace WritesInOrder

variable {lines : List String} {calls : List Entry} {r : Except Failure Unit}

theorem mem_lines (writes : WritesInOrder lines calls r) {text : String}
    {answer : Except Failure Reply} (he : ⟨.line text, answer⟩ ∈ calls) : text ∈ lines := by
  induction writes with
  | nil => cases he
  | written first after ih =>
    rcases List.mem_cons.mp he with heq | he
    · cases heq
      exact List.mem_cons_self
    · exact List.mem_cons_of_mem first (ih he)
  | lost first rest cause =>
    cases List.mem_singleton.mp he
    exact List.mem_cons_self

/-- The writing fails exactly if one of the lines is lost. -/
theorem error_iff (writes : WritesInOrder lines calls r) :
    (∃ cause, r = .error cause) ↔
      ∃ text ∈ lines, ∃ cause, ⟨.line text, .error cause⟩ ∈ calls := by
  have lost : (∃ cause, r = .error cause) ↔
      ∃ text cause, ⟨.line text, .error cause⟩ ∈ calls := by
    induction writes with
    | nil => simp
    | written first after ih => simp [ih]
    | lost first rest cause => exact iff_of_true ⟨cause, rfl⟩ ⟨first, cause, by simp⟩
  rw [lost]
  constructor
  · rintro ⟨text, cause, he⟩
    exact ⟨text, writes.mem_lines he, cause, he⟩
  · rintro ⟨text, -, cause, he⟩
    exact ⟨text, cause, he⟩

end WritesInOrder

section

variable {V : Type} {π : V → W} {h' : Host V} {h : Host W}

theorem origin_through (above : Host.Over π h' h) (s : State V) (invocation : Invocation) :
    (standard h).origin (s.through π) invocation =
      ((standard h').origin s invocation).through π := by
  cases invocation with
  | interactive =>
    simp only [origin, above.tell, above.enterHome, seen]
    cases (standard h').enterHome ((standard h').tell (.launching .interactive) s) with
    | mk result t =>
      cases result with
      | ok _ => rfl
      | error cause => exact above.tell (.homeSkipped cause) t
  | directory path =>
    simp only [origin, above.tell, above.changeDir]
    rfl
  | _ => rfl

theorem admits_through (above : Host.Over π h' h) (s : State V) (invocation : Invocation) :
    (standard h').Admits s invocation ↔ (standard h).Admits (s.through π) invocation := by
  cases invocation with
  | directory path => simp only [Admits, above.tell, above.changeDir, seen]
  | _ => exact Iff.rfl

end

theorem course_printAll (h : Host W) (lines : List String) (s : State W) :
    ∃ ds, Course h s ds ((h.printAll lines).run s).2 ∧ recordsOf ds = [] ∧
      WritesInOrder lines (entriesOf ds) ((h.printAll lines).run s).1 := by
  induction lines generalizing s with
  | nil => exact ⟨[], .nil s, rfl, .nil⟩
  | cons text rest ih =>
    have written : Course h s _ ((h.print text).run s).2 := course_call (c := .line text) rfl s
    cases hr : (h.print text).run s with
    | mk told t =>
      have hcall : (Action.call (h.writeLine text)).run s = (told, t) := hr
      rw [hcall] at written
      rw [hr] at written
      cases told with
      | error cause =>
        rw [Host.printAll, Action.run_bind_error hr]
        exact ⟨_, written, rfl, .lost text rest cause⟩
      | ok _ =>
        obtain ⟨ds, course, hrecords, writes⟩ := ih t
        rw [Host.printAll, Action.run_bind_ok hr]
        exact ⟨_, written.append course, hrecords, .written text writes⟩

theorem course_report (h : Host W) (kind : Kind) (message : String) (item : Option String)
    (s : State W) :
    ∃ ds, Course h s ds ((standard h).report kind message item s) ∧
      recordsOf ds = [Record.ofKind kind] ∧
      (entriesOf ds).map Entry.call = [.complain message item] := by
  have failed := course_fail h kind message item s
  cases hr : (h.fail kind message item).run s with
  | mk told t =>
    rw [hr] at failed
    cases told with
    | ok _ =>
      rw [report_of_ok hr]
      exact ⟨_, failed, rfl, rfl⟩
    | error cause =>
      rw [report_of_error hr]
      exact ⟨_, failed.append (.single (.tell t (.errorLineLost cause))), rfl, rfl⟩

/-! ## Launches -/

/-- An announcement ends as the writing of its lines does, and it records nothing. -/
theorem course_announce (h : Host W) (lines : List String) (code : State W → ReturnCode)
    (s : State W) :
    let (outcome, t) := (standard h).announce lines code s
    ∃ ds r, Course h s ds t ∧ recordsOf ds = [] ∧ WritesInOrder lines (entriesOf ds) r ∧
      outcome.result = r.map fun _ => code t := by
  obtain ⟨ds, course, hrecords, writes⟩ := course_printAll h lines s
  simp only [announce, standard]
  cases hr : (h.printAll lines).run s with
  | mk told t =>
    rw [hr] at course writes
    cases told with
    | ok _ => exact ⟨ds, _, course, hrecords, writes, rfl⟩
    | error cause => exact ⟨ds, _, course, hrecords, writes, rfl⟩

theorem launch_lines (h : Host W) (openSource : Attempt W (LineSource W)) {invocation : Invocation}
    {lines : List String} (hlines : invocation.lines? = some lines) (s : State W) :
    let (outcome, t) := (standard h).launch invocation openSource s
    ∃ before ds r, Course h s (before ++ ds) t ∧
      (entriesOf before).map Entry.call = invocation.complaints ∧
      recordsOf (before ++ ds) = invocation.records false ∧
      WritesInOrder lines (entriesOf ds) r ∧
      outcome.result = r.map fun _ => invocation.code t.session := by
  have launched : Course h s [.tell (.launching invocation)]
      ((standard h).tell (.launching invocation) s) := .single (.tell s _)
  cases invocation with
  | interactive => cases hlines
  | directory path => cases hlines
  | command words => cases hlines
  | version =>
    cases hlines
    obtain ⟨ds, r, course, hrecords, writes, hresult⟩ := course_announce h Standard.versionLines
      (fun _ => 0) ((standard h).tell (.launching .version) s)
    exact ⟨_, ds, r, launched.append course, rfl, hrecords, writes, hresult⟩
  | help text =>
    cases hlines
    obtain ⟨ds, r, course, hrecords, writes, hresult⟩ := course_announce h (textLines text)
      (fun _ => 0) ((standard h).tell (.launching (.help text)) s)
    exact ⟨_, ds, r, launched.append course, rfl, hrecords, writes, hresult⟩
  | invalid text =>
    cases hlines
    let t := (standard h).tell (.launching (.invalid text)) s
    obtain ⟨es, reported, hkind, hcalls⟩ :=
      course_report h .invalidArguments "invalid arguments" none t
    obtain ⟨ds, r, course, hrecords, writes, hresult⟩ := course_announce h (textLines text)
      (·.session.code) ((standard h).report .invalidArguments "invalid arguments" none t)
    refine ⟨_, ds, r, (launched.append reported).append course, hcalls, ?_, writes, hresult⟩
    rw [recordsOf_append, recordsOf_append, hkind, hrecords]
    rfl

/-- A directory that cannot be entered is recorded, and nobody is asked for lines. -/
theorem launch_refused (h : Host W) (openSource : Attempt W (LineSource W)) {path : String}
    {s : State W} (refused : ¬ (standard h).Admits s (.directory path)) :
    let (outcome, t) := (standard h).launch (.directory path) openSource s
    ∃ ds, Course h s ds t ∧ recordsOf ds = [.ofKind .invalidData] ∧
      outcome = { result := .ok t.session.code, reading := none } := by
  obtain ⟨ds, after, course, -, -, quiet⟩ :=
    movement_changeDir h path ((standard h).tell (.launching (.directory path)) s)
  generalize ds ++ after = moved at course quiet
  simp only [Admits] at refused
  simp only [launch, launchIn]
  cases hr : (standard h).changeDir path ((standard h).tell (.launching (.directory path)) s) with
  | mk result t =>
    rw [hr] at refused course
    cases result with
    | ok _ => exact absurd rfl refused
    | error cause =>
      obtain ⟨es, reported, hrecords, -⟩ := course_report h .invalidData "invalid directory"
        (some path) ((standard h).tell (.startRefused cause path) t)
      refine ⟨_, .cons (.tell s _) (course.append (.cons (.tell t _) reported)), ?_, rfl⟩
      simp [recordsOf_of_quiet quiet, hrecords]

theorem launch_command (h : Host W) (openSource : Attempt W (LineSource W)) (words : List String)
    (s : State W) :
    ∃ ds u, Course h s ds u ∧
      (standard h).launch (.command words) openSource s =
        ({ result := .ok u.session.code, reading := none }, (standard h).shutdown u) ∧
      (words ≠ [] → u = ((standard h).dispatch words
        ((standard h).tell (.launching (.command words)) s)).2) := by
  have launched : Course h s [.tell (.launching (.command words))]
      ((standard h).tell (.launching (.command words)) s) := .single (.tell s _)
  cases words with
  | nil =>
    obtain ⟨ds, reported, -⟩ := course_report h .insufficientArguments "insufficient arguments" none
      ((standard h).tell (.launching (.command [])) s)
    exact ⟨_, _, launched.append reported, rfl, by simp⟩
  | cons name operands =>
    obtain ⟨-, ds, answered, -⟩ := account_dispatch h (name :: operands)
      ((standard h).tell (.launching (.command (name :: operands))) s)
    exact ⟨_, _, launched.append answered, rfl, fun _ => rfl⟩

theorem Deed.quiet_tell (event : Event) : (Deed.tell event).Quiet := by simp [Deed.Quiet]

theorem course_settled (h : Host W) (s : State W) :
    ∃ ds, Course h s ds ((standard h).settled ((standard h).enterHome s)) ∧ ∀ d ∈ ds, d.Quiet := by
  obtain ⟨ds, after, course, -, -, quiet⟩ := movement_changeDir h s.session.home s
  simp only [enterHome]
  cases hr : (standard h).changeDir s.session.home s with
  | mk result u =>
    rw [hr] at course
    cases result with
    | ok _ => exact ⟨_, course, quiet⟩
    | error cause =>
      refine ⟨_, course.append (.single (.tell u (.homeSkipped cause))), ?_⟩
      exact List.forall_mem_append.mpr ⟨quiet, by simpa using Deed.quiet_tell (.homeSkipped cause)⟩

/-- On the way to the input nothing is written and nothing recorded. -/
theorem launch_of_admits (h : Host W) (openSource : Attempt W (LineSource W))
    {invocation : Invocation} {s : State W} (admits : (standard h).Admits s invocation) :
    let start := (standard h).origin s invocation
    (∃ ds, Course h s ds start ∧ ∀ d ∈ ds, d.Quiet) ∧
      (standard h).launch invocation openSource s = (standard h).converse openSource start := by
  cases invocation with
  | version => exact admits.elim
  | command words => exact admits.elim
  | help text => exact admits.elim
  | invalid text => exact admits.elim
  | interactive =>
    obtain ⟨ds, course, quiet⟩ :=
      course_settled h ((standard h).tell (.launching .interactive) s)
    refine ⟨⟨_, .cons (.tell s _) course, ?_⟩, launchInteractive_eq _ openSource _⟩
    exact List.forall_mem_cons.mpr ⟨Deed.quiet_tell _, quiet⟩
  | directory path =>
    let t := (standard h).tell (.launching (.directory path)) s
    obtain ⟨ds, after, course, -, -, quiet⟩ := movement_changeDir h path t
    have launched := Course.cons (.tell s (.launching (.directory path))) course
    have quiet := List.forall_mem_cons.mpr ⟨Deed.quiet_tell (.launching (.directory path)), quiet⟩
    refine ⟨⟨_, launched, quiet⟩, ?_⟩
    have admits : ((standard h).changeDir path t).1 = .ok () := admits
    simp only [launch, launchIn, origin]
    cases hr : (standard h).changeDir path t with
    | mk result u =>
      rw [hr] at admits
      obtain rfl : result = .ok () := admits
      rfl

/-- What is known when the input is opened. -/
structure Approach (h : Host W) (s : State W) (invocation : Invocation) (start : State W)
    (calls : List Entry) : Prop where
  admits : (standard h).Admits s invocation
  origin_eq : (standard h).origin s invocation = start
  errors : start.errors = s.errors
  quiet : ∀ e ∈ calls, e.call.isOutput = false

/-- The ways a launch can go. -/
inductive Passage (h : Host W) (openSource : Attempt W (LineSource W)) (s : State W) :
    Invocation → List Opening → List Entry → Outcome → State W → Prop
  | shut {invocation : Invocation} {start : State W} {w : W} {cause : Failure} {calls : List Entry}
      (all : List Entry) (approach : Approach h s invocation start calls)
      (hopen : openSource start.world = (.error cause, w)) :
      Passage h openSource s invocation [⟨calls, .error cause⟩] all
        { result := .error cause, reading := none } { start with world := w }
  | session {invocation : Invocation} {start t : State W} {w : W} {source : LineSource W}
      {calls : List Entry} {code : ReturnCode} {reading : Reading} (all : List Entry)
      (approach : Approach h s invocation start calls)
      (hopen : openSource start.world = (.ok source, w))
      (hloop : (standard h).loop source { start with world := w } = (code, reading, t)) :
      Passage h openSource s invocation [⟨calls, .ok ()⟩] all
        { result := .ok code, reading := some reading } t
  | written {invocation : Invocation} {lines : List String} {before calls : List Entry}
      {result : Except Failure Unit} {outcome : Outcome} {t : State W}
      (hlines : invocation.lines? = some lines)
      (hrecords : t.errors.records = s.errors.records ++ invocation.records false)
      (hbefore : before.map Entry.call = invocation.complaints)
      (writes : WritesInOrder lines calls result)
      (hresult : outcome.result = result.map fun _ => invocation.code t.session) :
      Passage h openSource s invocation [] (before ++ calls) outcome t
  | refused {path : String} {t : State W} (all : List Entry)
      (refused : ¬ (standard h).Admits s (.directory path))
      (hrecords : t.errors.records = s.errors.records ++ [.ofKind .invalidData]) :
      Passage h openSource s (.directory path) [] all
        { result := .ok t.session.code, reading := none } t
  | command {words : List String} {u : State W} (all : List Entry)
      (hu : words ≠ [] → u =
        ((standard h).dispatch words ((standard h).tell (.launching (.command words)) s)).2) :
      Passage h openSource s (.command words) [] all
        { result := .ok u.session.code, reading := none } ((standard h).shutdown u)

theorem passage_of_admits (h : Host W) (openSource : Attempt W (LineSource W))
    {invocation : Invocation} {s : State W} (admits : (standard h).Admits s invocation) :
    let (outcome, t) := (standard h).launch invocation openSource s
    Passage h openSource s invocation (h.openingsOf openSource invocation s)
      (h.callsOfLaunch openSource invocation s) outcome t := by
  obtain ⟨⟨ds, course, quiet⟩, hvisit⟩ := launch_of_admits h.atDoor (Opener.atDoor openSource)
    ((admits_through h.over_atDoor s.atDoor invocation).mpr admits)
  obtain ⟨-, hlaunch⟩ := launch_of_admits h openSource admits
  have hstart : (standard h).origin s invocation = _ :=
    origin_through h.over_atDoor s.atDoor invocation
  generalize (standard h.atDoor).origin s.atDoor invocation = v at course hvisit hstart
  let start := v.through fun d => d.world
  have herrors : start.errors = s.errors := by
    have hrecords := course.records
    rw [recordsOf_of_quiet quiet, List.append_nil] at hrecords
    exact congrArg ErrorLog.mk hrecords
  have hopenings : h.openingsOf openSource invocation s =
      [⟨entriesOf ds, (openSource start.world).1.map fun _ => ()⟩] := by
    rw [Host.openingsOf, Host.visit, hvisit, openings_converse, course.atDoor.1, course.atDoor.2]
    rfl
  have approach : Approach h s invocation start (entriesOf ds) :=
    ⟨admits, hstart, herrors, isOutput_of_quiet quiet⟩
  rw [hlaunch, hstart, hopenings]
  cases hr : openSource start.world with
  | mk answer w =>
    cases answer with
    | error cause =>
      rw [converse_of_error hr]
      exact .shut _ approach hr
    | ok source =>
      rw [converse_of_ok hr]
      exact .session _ approach hr rfl

theorem passage_of_lines (h : Host W) (openSource : Attempt W (LineSource W))
    {invocation : Invocation} {lines : List String} (hlines : invocation.lines? = some lines)
    (s : State W) :
    let (outcome, t) := (standard h).launch invocation openSource s
    Passage h openSource s invocation (h.openingsOf openSource invocation s)
      (h.callsOfLaunch openSource invocation s) outcome t := by
  obtain ⟨before, ds, result, course, hbefore, hrecords, writes, hresult⟩ :=
    launch_lines h.atDoor (Opener.atDoor openSource) hlines s.atDoor
  have hopenings : h.openingsOf openSource invocation s = [] := course.atDoor.2
  have hcalls : h.callsOfLaunch openSource invocation s = entriesOf (before ++ ds) :=
    course.atDoor.1
  have hlog := course.records
  rw [hrecords] at hlog
  rw [launch_eq_seen_visit, hopenings, hcalls, entriesOf_append]
  exact .written hlines hlog hbefore writes hresult

theorem passage_of_refused (h : Host W) (openSource : Attempt W (LineSource W)) {path : String}
    {s : State W} (refused : ¬ (standard h).Admits s (.directory path)) :
    let (outcome, t) := (standard h).launch (.directory path) openSource s
    Passage h openSource s (.directory path) (h.openingsOf openSource (.directory path) s)
      (h.callsOfLaunch openSource (.directory path) s) outcome t := by
  have refused' := (admits_through h.over_atDoor s.atDoor (.directory path)).not.mpr refused
  obtain ⟨ds, course, hrecords, houtcome⟩ :=
    launch_refused h.atDoor (Opener.atDoor openSource) refused'
  have hopenings : h.openingsOf openSource (.directory path) s = [] := course.atDoor.2
  let t := (h.visit openSource (.directory path) s).2
  have hlog : t.errors.records = s.errors.records ++ [.ofKind .invalidData] :=
    hrecords ▸ course.records
  have houtcome : (h.visit openSource (.directory path) s).1 =
      { result := .ok t.session.code, reading := none } := houtcome
  rw [launch_eq_seen_visit, hopenings, seen, houtcome]
  exact .refused (t := t.through fun d => d.world) _ refused hlog

theorem passage_of_command (h : Host W) (openSource : Attempt W (LineSource W))
    (words : List String) (s : State W) :
    let (outcome, t) := (standard h).launch (.command words) openSource s
    Passage h openSource s (.command words) (h.openingsOf openSource (.command words) s)
      (h.callsOfLaunch openSource (.command words) s) outcome t := by
  obtain ⟨ds, v, course, hvisit, -⟩ :=
    launch_command h.atDoor (Opener.atDoor openSource) words s.atDoor
  obtain ⟨es, u, -, hlaunch, hu⟩ := launch_command h openSource words s
  have hopenings : h.openingsOf openSource (.command words) s = [] := by
    rw [Host.openingsOf, Host.visit, hvisit]
    exact course.atDoor.2
  rw [hlaunch, hopenings]
  exact .command _ hu

/-- A launch goes one of these ways, whatever the host answers. -/
theorem passage_launch (h : Host W) (openSource : Attempt W (LineSource W))
    (invocation : Invocation) (s : State W) :
    let (outcome, t) := (standard h).launch invocation openSource s
    Passage h openSource s invocation (h.openingsOf openSource invocation s)
      (h.callsOfLaunch openSource invocation s) outcome t := by
  cases invocation with
  | interactive => exact passage_of_admits h openSource trivial
  | version => exact passage_of_lines h openSource rfl s
  | help text => exact passage_of_lines h openSource rfl s
  | invalid text => exact passage_of_lines h openSource rfl s
  | command words => exact passage_of_command h openSource words s
  | directory path =>
    by_cases admits : (standard h).Admits s (.directory path)
    · exact passage_of_admits h openSource admits
    · exact passage_of_refused h openSource admits

namespace Passage

variable {h : Host W} {openSource : Attempt W (LineSource W)} {s t : State W}
  {invocation : Invocation} {openings : List Opening} {calls : List Entry} {outcome : Outcome}

theorem lines?_of_admits (admits : (standard h).Admits s invocation) :
    invocation.lines? = none := by
  cases invocation <;> first | rfl | exact admits.elim

theorem once (passage : Passage h openSource s invocation openings calls outcome t) :
    openings.length ≤ 1 := by
  cases passage <;> simp

theorem opened (passage : Passage h openSource s invocation openings calls outcome t) :
    openings ≠ [] ↔ (standard h).Admits s invocation := by
  cases passage with
  | shut _ approach => simp [approach.admits]
  | session _ approach => simp [approach.admits]
  | refused _ refused => simp [refused]
  | command => simp [Admits]
  | written hlines =>
    refine iff_of_false (by simp) fun admits => ?_
    rw [lines?_of_admits admits] at hlines
    cases hlines

theorem started (passage : Passage h openSource s invocation openings calls outcome t)
    (hopened : openings ≠ []) :
    let start := (standard h).origin s invocation
    (standard h).converse openSource start = (outcome, t) ∧ start.errors = s.errors ∧
      ∀ o ∈ openings, ∀ e ∈ o.calls, e.call.isOutput = false := by
  intro start
  cases passage with
  | shut _ approach hopen =>
    obtain ⟨-, rfl, herrors, quiet⟩ := approach
    exact ⟨converse_of_error hopen, herrors, by simpa using quiet⟩
  | session _ approach hopen hloop =>
    obtain ⟨-, rfl, herrors, quiet⟩ := approach
    refine ⟨?_, herrors, by simpa using quiet⟩
    rw [converse_of_ok hopen, hloop]
  | _ => exact absurd rfl hopened

theorem failed (passage : Passage h openSource s invocation openings calls outcome t) :
    (∃ cause, outcome.result = .error cause) ↔
      (∃ o ∈ openings, ∃ cause, o.answer = .error cause) ∨
        ∃ lines, invocation.lines? = some lines ∧
          ∃ text ∈ lines, ∃ cause, ⟨.line text, .error cause⟩ ∈ calls := by
  cases passage with
  | shut => simp
  | session _ approach => simp [lines?_of_admits approach.admits]
  | @written _ lines before calls result _ _ hlines _ hbefore writes hresult =>
    have hlost : (∃ cause, outcome.result = .error cause) ↔ ∃ cause, result = .error cause := by
      rw [hresult]
      cases result <;> simp [Except.map]
    have hcalls (text : String) (cause : Failure) :
        ⟨.line text, .error cause⟩ ∈ before ++ calls ↔ ⟨.line text, .error cause⟩ ∈ calls := by
      refine List.mem_append.trans (or_iff_right fun he => ?_)
      have hcall := List.mem_map_of_mem (f := Entry.call) he
      rw [hbefore] at hcall
      exact invocation.line_notMem_complaints text hcall
    simp only [hlost, writes.error_iff, hcalls, hlines, List.not_mem_nil, false_and, exists_false,
      false_or, Option.some.injEq, exists_eq_left']
  | refused => simp [Invocation.lines?]
  | command => simp [Invocation.lines?]

/-- The lines of an invocation that only writes are written in order, up to the first that fails,
and the launch ends as this does. -/
theorem told (passage : Passage h openSource s invocation openings calls outcome t)
    {lines : List String} (hlines : invocation.lines? = some lines) :
    ∃ before written result, calls = before ++ written ∧
      before.map Entry.call = invocation.complaints ∧ WritesInOrder lines written result ∧
      outcome.result = result.map fun _ => invocation.code t.session := by
  cases passage with
  | shut _ approach => cases (lines?_of_admits approach.admits).symm.trans hlines
  | session _ approach => cases (lines?_of_admits approach.admits).symm.trans hlines
  | written hlines' _ hbefore writes hresult =>
    obtain rfl := Option.some.inj (hlines'.symm.trans hlines)
    exact ⟨_, _, _, rfl, hbefore, writes, hresult⟩
  | refused => cases hlines
  | command => cases hlines

theorem looped (passage : Passage h openSource s invocation openings calls outcome t)
    (hopened : ∃ o ∈ openings, o.answer = .ok ()) :
    let start := (standard h).origin s invocation
    ∃ source w code reading, openSource start.world = (.ok source, w) ∧
      (standard h).loop source { start with world := w } = (code, reading, t) ∧
      outcome = { result := .ok code, reading := some reading } := by
  cases passage with
  | session _ approach hopen hloop =>
    obtain rfl := approach.origin_eq
    exact ⟨_, _, _, _, hopen, hloop, rfl⟩
  | _ => simp at hopened

theorem code_loop {sh : Interpreter W} {source : LineSource W} {u : State W} {code : ReturnCode}
    {reading : Reading} (hloop : sh.loop source u = (code, reading, t)) :
    code = t.session.code ∧ t.errors = {} := by
  cases hloop
  exact ⟨rfl, rfl⟩

theorem code (passage : Passage h openSource s invocation openings calls outcome t) :
    ∀ c, outcome.result = .ok c → c = invocation.code t.session := by
  cases passage with
  | shut => simp
  | session _ approach _ hloop =>
    rintro c hc
    cases hc
    rw [(code_loop hloop).1]
    cases invocation <;> first | rfl | exact approach.admits.elim
  | @written _ _ _ _ result _ _ _ _ _ _ hresult =>
    rintro c hc
    rw [hresult] at hc
    cases result <;> cases hc
    rfl
  | refused =>
    rintro c hc
    cases hc
    rfl
  | command =>
    rintro c hc
    cases hc
    rfl

theorem cleared (passage : Passage h openSource s invocation openings calls outcome t)
    (hran : (∃ o ∈ openings, o.answer = .ok ()) ∨ ∃ words, invocation = .command words) :
    t.errors = {} := by
  cases passage with
  | session _ _ _ hloop => exact (code_loop hloop).2
  | command => rfl
  | shut _ approach =>
    obtain ⟨words, rfl⟩ := hran.resolve_left (by simp)
    exact approach.admits.elim
  | written hlines =>
    obtain ⟨words, rfl⟩ := hran.resolve_left (by simp)
    cases hlines
  | refused =>
    obtain ⟨words, hwords⟩ := hran.resolve_left (by simp)
    cases hwords

/-- What a launch without a session or a command leaves of the log. -/
theorem log (passage : Passage h openSource s invocation openings calls outcome t)
    (hsession : ∀ o ∈ openings, o.answer ≠ .ok ())
    (hcommand : ∀ words, invocation ≠ .command words) :
    t.errors.records = s.errors.records ++ invocation.records (!openings.isEmpty) := by
  cases passage with
  | shut _ approach =>
    cases invocation <;>
      first | exact approach.admits.elim | simp [approach.errors, Invocation.records]
  | session => simp at hsession
  | written _ hrecords => exact hrecords
  | refused _ _ hrecords => exact hrecords
  | command => exact absurd rfl (hcommand _)

end Passage

end Interpreter
end LineShell
