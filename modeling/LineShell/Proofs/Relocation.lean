import LineShell.Proofs.Interruption
import LineShell.Proofs.OneShot
import LineShell.Proofs.Passage

/-!
# The ways to another directory

The working directory is changed from three sides: by the command, by whoever embeds the
interpreter, and by a launch that starts in a directory.  All of them make the same two calls on the
file system, and `FileSystem.Relocates` says what comes of these, without an interpreter.  Each side
is shown to follow it, so that any two of them agree; how they report a refusal is all that is left
to tell them apart.
-/

namespace LineShell

variable {W F : Type}

/-- The ways in which the file system lets itself be sent to a path and asked where it is then:
whether it refused, the directory it named, the calls, and the files afterwards. -/
inductive FileSystem.Relocates (fs : FileSystem F) (path : String) (files : F) :
    Bool → Option String → List Entry → F → Prop
  | refused {cause : Failure} {after : F}
      (moved : fs.setCurrentDir path files = (.error cause, after)) :
      Relocates fs path files true none [⟨.move path, .error cause⟩] after
  | unnamed {cause : Failure} {next after : F}
      (moved : fs.setCurrentDir path files = (.ok (), next))
      (named : fs.currentDir next = (.error cause, after)) :
      Relocates fs path files false none [⟨.move path, .ok .done⟩, ⟨.locate, .error cause⟩] after
  | followed {cwd : String} {next after : F}
      (moved : fs.setCurrentDir path files = (.ok (), next))
      (named : fs.currentDir next = (.ok cwd, after)) :
      Relocates fs path files false (some cwd)
        [⟨.move path, .ok .done⟩, ⟨.locate, .ok (.place cwd)⟩] after

namespace FileSystem

/-- Whether the file system does not let itself be sent to a path. -/
def refuses (fs : FileSystem F) (path : String) (files : F) : Bool :=
  !(fs.setCurrentDir path files).1.isOk

/-- Whether the file system, once it was sent to a path, cannot name its directory. -/
def loses (fs : FileSystem F) (path : String) (files : F) : Bool :=
  !(fs.currentDir (fs.setCurrentDir path files).2).1.isOk

variable {fs : FileSystem F} {path : String} {files after : F} {refused : Bool}
  {cwd? : Option String} {calls : List Entry}

theorem relocates (fs : FileSystem F) (path : String) (files : F) :
    ∃ refused cwd? calls after, fs.Relocates path files refused cwd? calls after := by
  cases hmoved : fs.setCurrentDir path files with
  | mk answer next =>
    cases answer with
    | error cause => exact ⟨_, _, _, _, .refused hmoved⟩
    | ok _ =>
      cases hnamed : fs.currentDir next with
      | mk answer after =>
        cases answer with
        | error cause => exact ⟨_, _, _, _, .unnamed hmoved hnamed⟩
        | ok cwd => exact ⟨_, _, _, _, .followed hmoved hnamed⟩

namespace Relocates

theorem refuses_eq (way : fs.Relocates path files refused cwd? calls after) :
    fs.refuses path files = refused := by
  cases way with
  | refused moved => simp [refuses, moved, Except.isOk, Except.toBool]
  | unnamed moved => simp [refuses, moved, Except.isOk, Except.toBool]
  | followed moved => simp [refuses, moved, Except.isOk, Except.toBool]

theorem loses_eq (way : fs.Relocates path files refused cwd? calls after) :
    (fs.refuses path files || fs.loses path files) = cwd?.isNone := by
  cases way with
  | refused moved => simp [refuses, moved, Except.isOk, Except.toBool]
  | unnamed moved named => simp [loses, moved, named, Except.isOk, Except.toBool]
  | followed moved named => simp [refuses, loses, moved, named, Except.isOk, Except.toBool]

theorem silent (way : fs.Relocates path files refused cwd? calls after) :
    ∀ e ∈ calls, e.call.isOutput = false := by
  cases way <;> simp [Call.isOutput]

theorem tame (way : fs.Relocates path files refused cwd? calls after) :
    ∀ e ∈ calls, e.isTame = true := by
  cases way <;> simp [Entry.isTame, Call.isFiling]

end Relocates

theorem Replay.outputs {entries : List Entry} (replay : fs.Replay files entries after)
    (outputs : ∀ e ∈ entries, e.call.isOutput = true) : after = files := by
  induction replay with
  | nil => rfl
  | @filing _ _ _ e _ filing _ _ _ =>
    have output := outputs e List.mem_cons_self
    cases hc : e.call <;> simp [hc, Call.isFiling, Call.isOutput] at filing output
  | aside _ _ ih => exact ih fun e he => outputs e (List.mem_cons_of_mem _ he)

theorem Replay.of_move {answer : Except Failure Unit} {reply : Except Failure Reply} {next last : F}
    {entries : List Entry} (moved : fs.setCurrentDir path files = (answer, next))
    (replay : fs.Replay files (⟨.move path, reply⟩ :: entries) last) :
    fs.Replay next entries last := by
  have moves : (fs.alone.perform (.move path) files).2 = (fs.setCurrentDir path files).2 := rfl
  rw [moved] at moves
  obtain ⟨-, rest⟩ := replay.first rfl
  rwa [moves] at rest

theorem Replay.of_locate {answer : Except Failure String} {reply : Except Failure Reply}
    {next last : F} {entries : List Entry} (named : fs.currentDir files = (answer, next))
    (replay : fs.Replay files (⟨.locate, reply⟩ :: entries) last) :
    fs.Replay next entries last := by
  have names : (fs.alone.perform .locate files).2 = (fs.currentDir files).2 := rfl
  rw [named] at names
  obtain ⟨-, rest⟩ := replay.first rfl
  rwa [names] at rest

/-- Whatever else was written, the files are where the way leads. -/
theorem Relocates.after_eq (way : fs.Relocates path files refused cwd? calls after)
    {written : List Entry} (houtputs : ∀ e ∈ written, e.call.isOutput = true) {last : F}
    (replay : fs.Replay files (calls ++ written) last) : last = after := by
  cases way with
  | refused moved => exact (replay.of_move moved).outputs houtputs
  | unnamed moved named => exact ((replay.of_move moved).of_locate named).outputs houtputs
  | followed moved named => exact ((replay.of_move moved).of_locate named).outputs houtputs

end FileSystem

/-! ## The command -/

namespace Standard

/-- Goes to a directory, and rejects the operands if it cannot be entered. -/
def goVia (h : Host W) (path : String) (refusal : Failure → Event) (kind : Kind)
    (message : String) (item : Option String) : Action W Token := do
  match ← .attempt (h.setCurrentDir path) with
  | .ok _ => follow h
  | .error cause =>
    h.tell (refusal cause)
    h.reject kind message item

theorem goHome_run (h : Host W) (s : State W) :
    (goHome h).run s =
      (goVia h s.session.home (.homeRefused · s.session.home) .unknown
        "failed to navigate to home directory" none).run s := rfl

variable {h : Host W} {fs : FileSystem F} {files : W → F} {path : String} {s : State W}
  {refused : Bool} {cwd? : Option String} {calls : List Entry} {after : F}

theorem does_follow_unnamed {cause : Failure} {w : W}
    (hnamed : h.currentDir s.world = (.error cause, w)) :
    Action.Does h (follow h) s [.call .locate (.error cause)] (.ok .success)
      { s with world := w } := by
  refine ⟨?_, .single (.unlocated hnamed)⟩
  unfold follow
  rw [Action.run_attempt_bind hnamed]
  rfl

theorem does_follow {cwd : String} {w : W} (hnamed : h.currentDir s.world = (.ok cwd, w)) :
    Action.Does h (follow h) s [.call .locate (.ok (.place cwd)), .setCwd cwd] (.ok .success)
      { s with session := { s.session with cwd }, world := w } := by
  refine ⟨?_, .cons (.located hnamed) (.single (.setCwd _ cwd))⟩
  unfold follow
  rw [Action.run_attempt_bind hnamed]
  rfl

theorem does_goVia_moved (refusal : Failure → Event) (kind : Kind) (message : String)
    (item : Option String) {w : W} (hmoved : h.setCurrentDir path s.world = (.ok (), w))
    {ds : List Deed} {r : Except Failure Token} {t : State W}
    (follows : Action.Does h (follow h) { s with world := w } ds r t) :
    Action.Does h (goVia h path refusal kind message item) s
      (.call (.move path) (.ok .done) :: ds) r t := by
  refine ⟨?_, .cons (.moved hmoved) follows.course⟩
  unfold goVia
  rw [Action.run_attempt_bind hmoved]
  exact follows.run

/-- What the command adds to the calls of the way: nothing, or the error line and the record of a
refusal.  It breaks off if the line is not taken. -/
inductive Reports (kind : Kind) (message : String) (item : Option String) (calls : List Entry) :
    Bool → List Entry → List Record → Except Failure Token → Prop
  | refused (told : Except Failure Unit) : Reports kind message item calls true
      (calls ++ [⟨.complain message item, told.map fun _ => .done⟩]) [Record.ofKind kind]
      (told.map fun _ => .success)
  | entered : Reports kind message item calls false calls [] (.ok .success)

namespace Reports

variable {kind : Kind} {message : String} {item : Option String} {entries : List Entry}
  {records : List Record} {r : Except Failure Token}

theorem success (reports : Reports kind message item calls refused entries records r) :
    r.toOption.getD .success = .success := by
  cases reports with
  | refused told => cases told <;> rfl
  | entered => rfl

theorem written (reports : Reports kind message item calls refused entries records r) :
    ∃ lines, entries = calls ++ lines ∧ ∀ e ∈ lines, e.call.isOutput = true := by
  cases reports with
  | refused told => exact ⟨_, rfl, by simp [Call.isOutput]⟩
  | entered => exact ⟨[], (List.append_nil calls).symm, by simp⟩

theorem of_refused (reports : Reports kind message item calls true entries records r) :
    ∃ told : Except Failure Unit,
      entries = calls ++ [⟨.complain message item, told.map fun _ => .done⟩] ∧
        records ++ lossRecords r =
          Record.ofKind kind :: if told.isOk then [] else [Record.ofKind .unknown] := by
  cases reports with
  | refused told => exact ⟨told, rfl, by cases told <;> rfl⟩

theorem of_entered (reports : Reports kind message item calls false entries records r) :
    entries = calls ∧ records ++ lossRecords r = [] := by
  cases reports with
  | entered => exact ⟨rfl, rfl⟩

end Reports

/-- The command goes the way of the file system; a refusal is recorded and written. -/
theorem does_goVia (holds : h.Holds fs files) (refusal : Failure → Event) (kind : Kind)
    (message : String) (item : Option String)
    (way : fs.Relocates path (files s.world) refused cwd? calls after) :
    ∃ ds r t, Action.Does h (goVia h path refusal kind message item) s ds r t ∧
      codesOf ds = [] ∧ cwdsOf ds = cwd?.toList ∧
      Reports kind message item calls refused (entriesOf ds) (recordsOf ds) r := by
  cases way with
  | @refused cause _ moved =>
    obtain ⟨v, hmoved, -⟩ := holds.setCurrentDir moved
    let u : State W := { s with world := v }
    obtain ⟨told, t, failed⟩ := Action.Does.fail (h := h) kind message item
      ((Interpreter.standard h).tell (refusal cause) u)
    have rejected := (Action.Does.tell (h := h) (refusal cause) u).bind
      (f := fun _ => h.reject kind message item) (failed.bind_pure Token.success)
    refine ⟨_, _, t, ⟨?_, .cons (.refused hmoved) rejected.course⟩, rfl, rfl, .refused told⟩
    unfold goVia
    rw [Action.run_attempt_bind hmoved]
    exact rejected.run
  | unnamed moved named =>
    obtain ⟨v, hmoved, rfl⟩ := holds.setCurrentDir moved
    obtain ⟨u, hnamed, -⟩ := holds.currentDir named
    have follows := does_follow_unnamed (s := { s with world := v }) hnamed
    exact ⟨_, _, _, does_goVia_moved refusal kind message item hmoved follows, rfl, rfl, .entered⟩
  | followed moved named =>
    obtain ⟨v, hmoved, rfl⟩ := holds.setCurrentDir moved
    obtain ⟨u, hnamed, -⟩ := holds.currentDir named
    have follows := does_follow (s := { s with world := v }) hnamed
    exact ⟨_, _, _, does_goVia_moved refusal kind message item hmoved follows, rfl, rfl, .entered⟩

end Standard

/-! ## The interpreter -/

/-- The calls that a change of directory makes. -/
def Host.callsOfChange (h : Host W) (path : String) (s : State W) : List Entry :=
  ((Interpreter.standard h.journaled).changeDir path s.journaled).2.world.entries

namespace Interpreter

section

variable {h : Host W} {fs : FileSystem F} {files : W → F} {path : String} {s : State W}
  {refused : Bool} {cwd? : Option String} {calls : List Entry} {after : F}
  (holds : h.Holds fs files)

include holds

/-- A change of directory goes the way of the file system and reports nothing. -/
theorem course_changeDir
    (way : fs.Relocates path (files s.world) refused cwd? calls after) :
    (∃ ds, Course h s ds ((standard h).changeDir path s).2 ∧ entriesOf ds = calls ∧
      recordsOf ds = []) ∧
    ((standard h).changeDir path s).1.isOk = cwd?.isSome ∧
    ((standard h).changeDir path s).2.errors = s.errors ∧
    ((standard h).changeDir path s).2.session =
      { s.session with cwd := cwd?.getD s.session.cwd } := by
  cases way with
  | refused moved =>
    obtain ⟨v, hmoved, -⟩ := holds.setCurrentDir moved
    rw [changeDir_refused hmoved]
    exact ⟨⟨_, .single (.refused hmoved), rfl, rfl⟩, rfl, rfl, rfl⟩
  | unnamed moved named =>
    obtain ⟨v, hmoved, rfl⟩ := holds.setCurrentDir moved
    obtain ⟨u, hnamed, -⟩ := holds.currentDir named
    rw [changeDir_unreadable hmoved hnamed]
    exact ⟨⟨_, .cons (.moved hmoved) (.single (.unlocated hnamed)), rfl, rfl⟩, rfl, rfl, rfl⟩
  | @followed cwd _ _ moved named =>
    obtain ⟨v, hmoved, rfl⟩ := holds.setCurrentDir moved
    obtain ⟨u, hnamed, -⟩ := holds.currentDir named
    rw [changeDir_ok hmoved hnamed]
    let t : State W := { s with session := { s.session with cwd }, world := u }
    have followed : Course h s [.call (.move path) (.ok .done),
        .call .locate (.ok (.place cwd)), .setCwd cwd] t :=
      .cons (.moved hmoved) (.cons (.located hnamed) (.single (.setCwd _ cwd)))
    exact ⟨⟨_, followed.append (.single (.tell t (.directoryChanged cwd))), rfl, rfl⟩,
      rfl, rfl, rfl⟩

theorem files_changeDir
    (way : fs.Relocates path (files s.world) refused cwd? calls after) :
    files ((standard h).changeDir path s).2.world = after := by
  obtain ⟨⟨ds, course, hentries, -⟩, -⟩ := course_changeDir holds way
  have tame : ∀ e ∈ entriesOf ds, e.isTame = true := by
    rw [hentries]
    exact way.tame
  have replay := course.replayed holds fun e he => holds.aside_of_tame (tame e he)
  rw [hentries, ← List.append_nil calls] at replay
  exact way.after_eq (by simp) replay

theorem callsOfChange_eq
    (way : fs.Relocates path (files s.world) refused cwd? calls after) :
    h.callsOfChange path s = calls := by
  have way : fs.Relocates path (files s.journaled.world.world) refused cwd? calls after := way
  obtain ⟨⟨ds, course, hentries, -⟩, -⟩ := course_changeDir holds.journaled way
  have hcalls : h.callsOfChange path s = entriesOf ds := course.entries
  rw [hcalls, hentries]

/-- A launch in a directory that the file system refuses, or cannot name, ends with one error
line. -/
theorem course_launch_lost (openSource : Attempt W (LineSource W))
    (way : fs.Relocates path (files s.world) refused none calls after) :
    let t := ((standard h).launch (.directory path) openSource s).2
    ((standard h).launch (.directory path) openSource s).1 =
        { result := .ok s.session.code, reading := none } ∧
      t.session = s.session ∧
      ∃ told : Except Failure Unit, ∃ ds, Course h s ds t ∧
        entriesOf ds =
          calls ++ [⟨.complain "invalid directory" (some path), told.map fun _ => .done⟩] ∧
        recordsOf ds = [Record.ofKind .invalidData] := by
  let launching := Event.launching (.directory path)
  have way : fs.Relocates path (files ((standard h).tell launching s).world) refused none calls
      after := by
    have hnote : files ((standard h).tell launching s).world = files s.world :=
      holds.note launching s.world
    rwa [hnote]
  obtain ⟨⟨ds, course, hentries, hrecords⟩, hresult, -, hsession⟩ := course_changeDir holds way
  simp only [launch, launchIn]
  cases hr : (standard h).changeDir path ((standard h).tell launching s) with
  | mk result t =>
    rw [hr] at course hresult hsession
    cases result with
    | ok _ => cases hresult
    | error cause =>
      obtain ⟨told, es, reported, tally⟩ := tally_report h .invalidData "invalid directory"
        (some path) ((standard h).tell (.startRefused cause path) t)
      have ended : ((standard h).report .invalidData "invalid directory" (some path)
          ((standard h).tell (.startRefused cause path) t)).session = s.session := by
        rw [session_report]
        exact hsession
      refine ⟨?_, ended, told, _, .cons (.tell s launching) (course.append (.cons (.tell t _)
        reported)), ?_, ?_⟩
      · simp only [conclude, ended]
      · simp [hentries, tally.calls]
      · simp [hrecords, tally.records]

theorem launch_lost (openSource : Attempt W (LineSource W))
    (way : fs.Relocates path (files s.world) refused none calls after) :
    let t := ((standard h).launch (.directory path) openSource s).2
    ((standard h).launch (.directory path) openSource s).1 =
        { result := .ok s.session.code, reading := none } ∧
      t.session = s.session ∧
      t.errors.records = s.errors.records ++ [Record.ofKind .invalidData] ∧
      files t.world = after ∧
      h.openingsOf openSource (.directory path) s = [] ∧
      ∃ told : Except Failure Unit, h.callsOfLaunch openSource (.directory path) s =
        calls ++ [⟨.complain "invalid directory" (some path), told.map fun _ => .done⟩] := by
  intro t
  obtain ⟨houtcome, hsession, told, ds, course, hentries, hrecords⟩ :=
    course_launch_lost holds openSource way
  have tame : ∀ e ∈ entriesOf ds, e.isTame = true := by
    rw [hentries]
    refine List.forall_mem_append.mpr ⟨way.tame, ?_⟩
    simp [Entry.isTame, Call.isOutput]
  have replay := course.replayed holds fun e he => holds.aside_of_tame (tame e he)
  rw [hentries] at replay
  -- Nobody else sees the openings, so the launch is made once more at the door.
  have door : h.atDoor.Holds fs fun d => files d.world := holds.of_over h.over_atDoor
  have way' : fs.Relocates path (files s.atDoor.world.world) refused none calls after := way
  obtain ⟨-, -, told', ds', course', hentries', -⟩ :=
    course_launch_lost door (Opener.atDoor openSource) way'
  refine ⟨houtcome, hsession, ?_, way.after_eq (by simp [Call.isOutput]) replay,
    course'.atDoor.2, told', course'.atDoor.1.trans hentries'⟩
  rw [course.records, hrecords]

end

/-- What dispatching the words has in common with a change of directory, and what they report.
Beyond the calls of the change, the words write only the error line of a refusal, and what is
recorded is that refusal, and the failure of the line if it was not taken. -/
structure Agreement (h : Host W) (fs : FileSystem F) (files : W → F) (words : List String)
    (path : String) (s : State W) (kind : Kind) (message : String) (item : Option String) :
    Prop where
  token : ((standard h).dispatch words s).1 = .success
  world : files ((standard h).dispatch words s).2.world =
    files ((standard h).changeDir path s).2.world
  session : ((standard h).dispatch words s).2.session =
    { ((standard h).changeDir path s).2.session with last := some .success }
  failed : ((standard h).changeDir path s).1.isOk = false ↔
    fs.refuses path (files s.world) = true ∨ fs.loses path (files s.world) = true
  kept : ((standard h).changeDir path s).1.isOk = false →
    ((standard h).changeDir path s).2.session = s.session
  errors : ((standard h).changeDir path s).2.errors = s.errors
  silent : ∀ e ∈ h.callsOfChange path s, e.call.isOutput = false
  refused : fs.refuses path (files s.world) = true → ∃ told : Except Failure Unit,
    h.callsOf words s =
        h.callsOfChange path s ++ [⟨.complain message item, told.map fun _ => .done⟩] ∧
      ((standard h).dispatch words s).2.errors.records =
        s.errors.records ++ Record.ofKind kind ::
          if told.isOk then [] else [Record.ofKind .unknown]
  entered : fs.refuses path (files s.world) = false →
    h.callsOf words s = h.callsOfChange path s ∧
      ((standard h).dispatch words s).2.errors.records = s.errors.records

/-- A command that goes to the path agrees with the change of directory. -/
theorem agreement_of_goVia {h : Host W} {fs : FileSystem F} {files : W → F}
    (holds : h.Holds fs files) {name : String} (hname : name ∈ Builtin.cd.names)
    {operands : List String} {path : String} (refusal : Failure → Event) {kind : Kind}
    {message : String} {item : Option String} {s : State W}
    (goes : ∀ synopses t, t.session = s.session →
      ((Builtin.cd.command h.journaled).execute synopses name operands).run t =
        (Standard.goVia h.journaled path refusal kind message item).run t) :
    Agreement h fs files (name :: operands) path s kind message item := by
  obtain ⟨refused, cwd?, calls, after, way⟩ := fs.relocates path (files s.world)
  obtain ⟨-, hresult, herrors, hsession⟩ := course_changeDir holds way
  have hafter := files_changeDir holds way
  have hcalls := callsOfChange_eq holds way
  obtain ⟨event, synopses, comes⟩ :=
    comes_to_of_does h (Builtin.ofName?_eq_some_iff.mpr hname) operands s
  -- Telling that the command starts reaches neither the files nor the session.
  let begun := (standard h.journaled).tell event s.journaled
  have way' : fs.Relocates path (files begun.world.world) refused cwd? calls after := by
    have hnote : files begun.world.world = files s.world := holds.note event s.world
    rwa [hnote]
  obtain ⟨ds, r, t, does, hcodes, hcwds, reports⟩ :=
    Standard.does_goVia (s := begun) holds.journaled refusal kind message item way'
  have comes := comes ds r t ⟨(goes synopses begun rfl).trans does.run, does.course⟩
  obtain ⟨lines, hlines, houtputs⟩ := reports.written
  have replay : fs.Replay (files s.world) (calls ++ lines)
      (files ((standard h).dispatch (name :: operands) s).2.world) := by
    rw [← hlines, ← comes.calls]
    refine replayed_dispatch holds ?_
    rw [comes.calls, hlines]
    refine List.forall_mem_append.mpr ⟨way.tame, fun e he => ?_⟩
    simp [Entry.isTame, houtputs e he]
  constructor
  · rw [comes.token, reports.success]
  · rw [hafter]
    exact way.after_eq houtputs replay
  · rw [comes.session, hsession, hcodes, hcwds, reports.success]
    cases cwd? <;> rfl
  · rw [← Bool.or_eq_true, way.loses_eq, hresult]
    cases cwd? <;> simp
  · intro hfailed
    rw [hresult] at hfailed
    obtain rfl : cwd? = none := by simpa using hfailed
    exact hsession
  · exact herrors
  · rw [hcalls]
    exact way.silent
  · intro hrefuses
    obtain rfl : refused = true := way.refuses_eq.symm.trans hrefuses
    obtain ⟨told, hentries, hrecords⟩ := reports.of_refused
    refine ⟨told, ?_, ?_⟩
    · rw [comes.calls, hcalls, hentries]
    · rw [comes.records, hrecords]
  · intro hrefuses
    obtain rfl : refused = false := way.refuses_eq.symm.trans hrefuses
    obtain ⟨hentries, hrecords⟩ := reports.of_entered
    refine ⟨?_, ?_⟩
    · rw [comes.calls, hcalls, hentries]
    · rw [comes.records, hrecords, List.append_nil]

/-- The command for changing the directory, with a path and without one, agrees with the changes
made from outside.  A launch in a directory that cannot be entered has made the same change, and
reports invalid data in the place of a session. -/
theorem directory_changes_agree {h : Host W} {fs : FileSystem F} {files : W → F}
    (holds : h.Holds fs files) {name : String} (hname : name ∈ ["cd", "chdir", "cwd"])
    (path : String) (rest : List String) (openSource : Attempt W (LineSource W)) (s : State W) :
    Agreement h fs files (name :: path :: rest) path s .invalidArguments "invalid path"
        (some path) ∧
      (Agreement h fs files [name] s.session.home s .unknown
          "failed to navigate to home directory" none ∧
        (standard h).enterHome s = (standard h).changeDir s.session.home s) ∧
      (((standard h).changeDir path s).1.isOk = false →
        let t := ((standard h).launch (.directory path) openSource s).2
        ((standard h).launch (.directory path) openSource s).1 =
            { result := .ok s.session.code, reading := none } ∧
          h.openingsOf openSource (.directory path) s = [] ∧
          files t.world = files ((standard h).changeDir path s).2.world ∧
          t.session = s.session ∧
          t.errors.records = s.errors.records ++ [Record.ofKind .invalidData] ∧
          ∃ told : Except Failure Unit, h.callsOfLaunch openSource (.directory path) s =
            h.callsOfChange path s ++
              [⟨.complain "invalid directory" (some path), told.map fun _ => .done⟩]) := by
  refine ⟨?_, ⟨?_, rfl⟩, fun hfailed => ?_⟩
  · exact agreement_of_goVia holds hname (.pathRefused · path) fun _ _ _ => rfl
  · refine agreement_of_goVia holds hname (.homeRefused · s.session.home) fun _ t ht => ?_
    rw [← ht]
    exact Standard.goHome_run h.journaled t
  · obtain ⟨refused, cwd?, calls, after, way⟩ := fs.relocates path (files s.world)
    obtain ⟨-, hresult, -⟩ := course_changeDir holds way
    rw [hresult] at hfailed
    obtain rfl : cwd? = none := by simpa using hfailed
    obtain ⟨houtcome, hsession, hrecords, hfiles, hopenings, hcalls⟩ :=
      launch_lost holds openSource way
    refine ⟨houtcome, hopenings, ?_, hsession, hrecords, ?_⟩
    · rw [files_changeDir holds way]
      exact hfiles
    · rw [callsOfChange_eq holds way]
      exact hcalls

/-- There is no such directory, and no line is taken: the command records the refusal and that it
could not be written, and the launch records the refusal alone. -/
theorem directory_changes_agree_metered :
    let s : State (Metered Files) :=
      { session := { cwd := "/", home := "/", user := "user" }, errors := {},
        world := { world := { tree := {}, cwd := { live := [] } }, left := some 0 } }
    let h := Files.system.alone.metered fun _ _ => .brokenPipe
    let openSource : Attempt (Metered Files) (LineSource (Metered Files)) :=
      fun m => (.error .brokenPipe, m)
    let after := ((standard h).dispatch ["cd", "gone"] s).2
    let changed := (standard h).changeDir "gone" s
    let launched := ((standard h).launch (.directory "gone") openSource s).2
    h.Holds Files.system Metered.world ∧ "cd" ∈ ["cd", "chdir", "cwd"] ∧
      changed.1.isOk = false ∧ after.world.world = changed.2.world.world ∧
      after.session = { s.session with last := some .success } ∧
      after.errors.records = [Record.ofKind .invalidArguments, Record.ofKind .unknown] ∧
      launched.errors.records = [Record.ofKind .invalidData] ∧
      h.openingsOf openSource (.directory "gone") s = [] := by
  intro s h openSource after changed launched
  have holds : h.Holds Files.system Metered.world := Host.holds_metered Files.system _
  have hname : "cd" ∈ ["cd", "chdir", "cwd"] := by decide
  have hfailed : changed.1.isOk = false := by decide +kernel
  obtain ⟨agrees, -, refused⟩ := directory_changes_agree holds hname "gone" [] openSource s
  obtain ⟨-, hopenings, -, -, hrecords, -⟩ := refused hfailed
  have hworld := agrees.world
  have hsession := agrees.session
  rw [agrees.kept hfailed] at hsession
  -- The states are too large to be compared by computing them.
  have hafter : after = ((standard h).dispatch ["cd", "gone"] s).2 := rfl
  have hchanged : changed = (standard h).changeDir "gone" s := rfl
  have hlaunched : launched = ((standard h).launch (.directory "gone") openSource s).2 := rfl
  rw [← hafter] at hworld hsession
  rw [← hchanged] at hworld
  rw [← hlaunched] at hrecords
  refine ⟨holds, hname, hfailed, hworld, hsession, ?_, hrecords, hopenings⟩
  decide +kernel

end Interpreter
end LineShell
