import LineShell.Proofs.Listener

/-!
# A batch and its paths one by one

A command for many paths does in one dispatch what the command for one path does in as many as there
are paths.  The two differ in the events they tell, since every dispatch is told, and so the events
go to a listener.  On a host that does not listen at all both come to the same fold over the paths,
and a host that listens shows as one that does not.

A path is attempted in one call and reported on in another one, whatever came of the first.  The
command for many paths goes on to the next path if the report could be made and breaks off if not.
`Edits` says what this looks like from outside, and `calls_single` and `calls_batch` that it is all
that a dispatch of these commands asks of the host.
-/

namespace LineShell

/-! ## Edits of paths -/

namespace PathEdit

/-- The call that tells how an edit of a path went. -/
def report (edit : PathEdit) (path : String) : Except Failure Reply → Call
  | .ok _ => .line (labeledLine edit.done path)
  | .error _ => .complain edit.failed (some path)

/-- The calls that an edit of a path takes. -/
def entries (edit : PathEdit) (path : String) (answer : Except Failure Reply)
    (told : Except Failure Unit) : List Entry :=
  [⟨.edit edit path, answer⟩, ⟨edit.report path answer, told.map fun _ => .done⟩]

end PathEdit

theorem PathEdit.isOutput_report (edit : PathEdit) (path : String)
    (answer : Except Failure Reply) : (edit.report path answer).isOutput = true := by
  cases answer <;> rfl

/-- The report is the only call on the output. -/
theorem PathEdit.told_of_heard {edit : PathEdit} {path : String} {answer : Except Failure Reply}
    {told : Except Failure Unit}
    (heard : ∀ e ∈ edit.entries path answer told, e.isLost = false) : told = .ok () := by
  have hreport := heard ⟨edit.report path answer, told.map fun _ => .done⟩ (by simp [entries])
  cases told with
  | ok _ => rfl
  | error cause =>
    simp [Entry.isLost, Entry.failed, isOutput_report, Except.isOk, Except.toBool, Except.map]
      at hreport

/-- The calls that edits of paths take, in order, and what they come to. -/
inductive Edits (edit : PathEdit) : List String → List Entry → Except Failure Unit → Prop
  | nil : Edits edit [] [] (.ok ())
  | told (path : String) (answer : Except Failure Reply) {rest : List String} {entries : List Entry}
      {result : Except Failure Unit} (after : Edits edit rest entries result) :
      Edits edit (path :: rest) (edit.entries path answer (.ok ()) ++ entries) result
  | lost (path : String) (rest : List String) (answer : Except Failure Reply) (cause : Failure) :
      Edits edit (path :: rest) (edit.entries path answer (.error cause)) (.error cause)

/-- If every report was heard, every path was attempted and reported on once, in order. -/
theorem Edits.of_heard {edit : PathEdit} {paths : List String} {entries : List Entry}
    {result : Except Failure Unit} (edits : Edits edit paths entries result)
    (heard : ∀ e ∈ entries, e.isLost = false) :
    ∃ answers : List (Except Failure Reply), answers.length = paths.length ∧
      entries = (List.zipWith (fun path answer => edit.entries path answer (.ok ())) paths
        answers).flatten := by
  induction edits with
  | nil => exact ⟨[], rfl, rfl⟩
  | @told path answer rest entries result after ih =>
    obtain ⟨answers, hlength, hentries⟩ :=
      ih fun e he => heard e (List.mem_append_right _ he)
    refine ⟨answer :: answers, by simp [hlength], ?_⟩
    rw [List.zipWith_cons_cons, List.flatten_cons, ← hentries]
  | lost path rest answer cause =>
    cases PathEdit.told_of_heard heard

variable {W L : Type}

namespace Standard

theorem course_editPath (h : Host W) (edit : PathEdit) (path : String) (s : State W) :
    ∃ ds answer, Course h s ds ((editPath h edit path).run s).2 ∧
      entriesOf ds = edit.entries path answer ((editPath h edit path).run s).1 := by
  cases hr : h.edit edit path s.world with
  | mk answer w =>
    have attempted : Deed.Makes h s (.call (.edit edit path) (answer.map fun _ => .done))
        { s with world := w } :=
      .of_perform (by simp [Host.perform, Attempt.reply, hr])
    unfold editPath
    rw [Action.run_attempt_bind hr]
    cases answer with
    | ok _ =>
      have told := course_call (h := h) (c := .line (labeledLine edit.done path)) rfl
        { s with world := w }
      exact ⟨_, _, .cons attempted told, rfl⟩
    | error cause =>
      have told := course_fail h .invalidArguments edit.failed (some path)
        ((Interpreter.standard h).tell (.editFailed cause path edit) { s with world := w })
      exact ⟨_, _, .cons attempted (.cons (.tell _ _) told), rfl⟩

theorem course_editAll (h : Host W) (edit : PathEdit) (paths : List String) (s : State W) :
    ∃ ds, Course h s ds ((editAll h edit paths).run s).2 ∧
      Edits edit paths (entriesOf ds) ((editAll h edit paths).run s).1 := by
  induction paths generalizing s with
  | nil => exact ⟨[], .nil s, .nil⟩
  | cons path rest ih =>
    obtain ⟨ds, answer, course, hentries⟩ := course_editPath h edit path s
    cases hr : (editPath h edit path).run s with
    | mk told t =>
      rw [hr] at course hentries
      cases told with
      | ok _ =>
        obtain ⟨es, after, edits⟩ := ih t
        rw [editAll, Action.run_bind_ok hr]
        refine ⟨ds ++ es, course.append after, ?_⟩
        rw [entriesOf_append, hentries]
        exact .told path answer edits
      | error cause =>
        rw [editAll, Action.run_bind_error hr]
        refine ⟨ds, course, ?_⟩
        rw [hentries]
        exact .lost path rest answer cause

end Standard

namespace Interpreter

theorem calls_single (h : Host W) {words : List String} {edit : PathEdit} {path : String}
    {rest : List String} (hb : Errand.ofWords words = .command (.single edit) (path :: rest))
    (s : State W) : ∃ answer told, h.callsOf words s = edit.entries path answer told := by
  obtain ⟨event, synopses, name, hcalls⟩ := calls_command h hb s
  let t := (standard h.journaled).tell event s.journaled
  obtain ⟨ds, answer, course, hentries⟩ := Standard.course_editPath h.journaled edit path t
  have hend := Standard.run_bind_pure_snd (Standard.editPath h.journaled edit path)
    Token.success t
  rw [← hend] at course
  exact ⟨answer, _, (hcalls ds course).trans hentries⟩

theorem calls_batch (h : Host W) {words : List String} {edit : PathEdit} {path : String}
    {rest : List String} (hb : Errand.ofWords words = .command (.batch edit) (path :: rest))
    (s : State W) : ∃ result, Edits edit (path :: rest) (h.callsOf words s) result := by
  obtain ⟨event, synopses, name, hcalls⟩ := calls_command h hb s
  let t := (standard h.journaled).tell event s.journaled
  obtain ⟨ds, course, edits⟩ := Standard.course_editAll h.journaled edit (path :: rest) t
  have hend := Standard.run_bind_pure_snd (Standard.editAll h.journaled edit (path :: rest))
    Token.success t
  rw [← hend] at course
  rw [hcalls ds course]
  exact ⟨_, edits⟩

end Interpreter

/-! ## An output that works -/

/-- Whether every call on the output works. -/
def Host.OutputWorks (h : Host W) : Prop :=
  ∀ c, c.isOutput = true → ∀ w, (h.perform c w).1 = .ok .done

theorem Host.OutputWorks.deaf {h : Host W} (works : h.OutputWorks) : h.deaf.OutputWorks := by
  intro c hc w
  rw [h.perform_deaf]
  exact works c hc w

theorem Host.OutputWorks.journaled {h : Host W} (works : h.OutputWorks) :
    h.journaled.OutputWorks := by
  intro c hc j
  rw [h.perform_journaled]
  exact works c hc j.world

/-- A host whose output works lets one work that shows as it. -/
theorem Host.OutputWorks.of_over {V : Type} {π : V → W} {h' : Host V} {h : Host W}
    (above : Host.Over π h' h) (works : h.OutputWorks) : h'.OutputWorks := by
  intro c hc v
  have hanswer := works c hc (π v)
  rwa [above.perform] at hanswer

theorem Course.heard {h : Host W} (works : h.OutputWorks) {s t : State W} {ds : List Deed}
    (course : Course h s ds t) : ∀ e ∈ entriesOf ds, e.isLost = false := by
  induction course with
  | nil => simp
  | cons made _ ih =>
    cases made with
    | call c =>
      rw [entriesOf_cons]
      refine List.forall_mem_append.mpr ⟨?_, ih⟩
      simp only [Deed.entry?, Option.toList_some, List.forall_mem_singleton]
      cases hc : c.isOutput with
      | false => simp [Entry.isLost, hc]
      | true => simp [Entry.isLost, Entry.failed, works c hc, Except.isOk, Except.toBool]
    | _ => exact ih

/-! ## Without a listener -/

/-- The state after an edit of a path and the report on it. -/
def State.edited (h : Host W) (edit : PathEdit) (s : State W) (path : String) : State W :=
  ((Standard.editPath h edit path).run s).2

namespace Standard

/-- An edit does not look at the last token. -/
theorem run_editPath_keep (h : Host W) (edit : PathEdit) (path : String) (token : Token)
    (s : State W) :
    (editPath h edit path).run (Interpreter.keep token s) =
      (((editPath h edit path).run s).1, Interpreter.keep token (s.edited h edit path)) := by
  cases hr : h.edit edit path s.world with
  | mk answer w =>
    have hkept : h.edit edit path (Interpreter.keep token s).world = (answer, w) := hr
    unfold State.edited editPath
    rw [Action.run_attempt_bind hr, Action.run_attempt_bind hkept]
    cases answer <;> rfl

theorem foldl_edited_keep (h : Host W) (edit : PathEdit) (token : Token) (paths : List String)
    (s : State W) :
    paths.foldl (State.edited h edit) (Interpreter.keep token s) =
      Interpreter.keep token (paths.foldl (State.edited h edit) s) := by
  induction paths generalizing s with
  | nil => rfl
  | cons path rest ih =>
    have hkeep : (Interpreter.keep token s).edited h edit path =
        Interpreter.keep token (s.edited h edit path) :=
      congrArg Prod.snd (run_editPath_keep h edit path token s)
    rw [List.foldl_cons, hkeep, ih, List.foldl_cons]

variable {h : Host W} (works : h.OutputWorks)

include works

theorem run_editPath (edit : PathEdit) (path : String) (s : State W) :
    (editPath h edit path).run s = (.ok (), s.edited h edit path) := by
  obtain ⟨ds, answer, course, hentries⟩ := course_editPath h edit path s
  have heard := course.heard works
  rw [hentries] at heard
  exact Prod.ext (PathEdit.told_of_heard heard) rfl

theorem run_editAll (edit : PathEdit) (paths : List String) (s : State W) :
    (editAll h edit paths).run s = (.ok (), paths.foldl (State.edited h edit) s) := by
  induction paths generalizing s with
  | nil => rfl
  | cons path rest ih =>
    rw [editAll, Action.run_bind_ok (run_editPath works edit path s), ih, List.foldl_cons]

end Standard

namespace Interpreter

section

variable {h : Host W} (deaf : ∀ event w, h.note event w = w)

include deaf

variable (works : h.OutputWorks) {edit : PathEdit} {name : String}

include works

theorem dispatch_single (hname : name ∈ Standard.singleNames edit) (path : String)
    (s : State W) :
    (standard h).dispatch [name, path] s = (.success, keep .success (s.edited h edit path)) := by
  have ho : Builtin.ofName? name = some (.single edit) := Builtin.ofName?_eq_some_iff.mpr hname
  refine dispatch_of_ok deaf ho fun synopses => ?_
  exact Action.run_bind_ok (Standard.run_editPath works edit path s)

theorem dispatch_batch (hname : name ∈ Standard.batchNames edit) (path : String)
    (rest : List String) (s : State W) :
    (standard h).dispatch (name :: path :: rest) s =
      (.success, keep .success ((path :: rest).foldl (State.edited h edit) s)) := by
  have ho : Builtin.ofName? name = some (.batch edit) := Builtin.ofName?_eq_some_iff.mpr hname
  refine dispatch_of_ok deaf ho fun synopses => ?_
  exact Action.run_bind_ok (Standard.run_editAll works edit (path :: rest) s)

/-- Each dispatch overwrites the token that the one before it kept. -/
theorem respondAll_singles (hname : name ∈ Standard.singleNames edit) (path : String)
    (rest : List String) (s : State W) :
    (standard h).respondAll (((path :: rest).map fun path => [name, path]).map .words) s =
      keep .success ((path :: rest).foldl (State.edited h edit) s) := by
  induction rest generalizing path s with
  | nil => exact congrArg Prod.snd (dispatch_single deaf works hname path s)
  | cons next rest ih =>
    have hfirst := congrArg Prod.snd (dispatch_single deaf works hname path s)
    rw [List.map_cons, List.map_cons, respondAll, respond, hfirst, ih,
      Standard.foldl_edited_keep]
    rfl

end

/-- A batch and its paths one by one show as the same, journals included. -/
theorem through_batch (h : Host W) (listen : Event → L → L) (works : h.OutputWorks)
    {edit : PathEdit} {many one : String} (hmany : many ∈ Standard.batchNames edit)
    (hone : one ∈ Standard.singleNames edit) (path : String) (rest : List String)
    (s : State (Journal (Overheard W L))) :
    let sh := standard (h.overheard listen).journaled
    let singles := ((path :: rest).map fun path => [one, path]).map Input.words
    (sh.dispatch (many :: path :: rest) s).2.through (Journal.map Overheard.world) =
      (sh.respondAll singles s).through (Journal.map Overheard.world) := by
  intro sh singles
  have above := (h.over_overheard listen).journaled
  have deaf := h.note_deaf_journaled
  have works : h.deaf.journaled.OutputWorks := works.deaf.journaled
  have hbatch := dispatch_batch deaf works hmany path rest (s.through (Journal.map Overheard.world))
  have hsingles :=
    respondAll_singles deaf works hone path rest (s.through (Journal.map Overheard.world))
  rw [above.dispatch] at hbatch
  rw [above.respondAll_words] at hsingles
  exact (congrArg Prod.snd hbatch).trans hsingles.symm

theorem course_calls (h : Host W) (words : List String) (s : State W) :
    ∃ ds, Course h.journaled s.journaled ds
      ((standard h.journaled).dispatch words s.journaled).2 ∧ h.callsOf words s = entriesOf ds := by
  obtain ⟨-, ds, course, -⟩ := account_dispatch h.journaled words s.journaled
  exact ⟨ds, course, course.entries⟩

/-- A dispatch loses nothing on an output that works. -/
theorem calls_heard {h : Host W} (works : h.OutputWorks) (words : List String) (s : State W) :
    ∀ e ∈ h.callsOf words s, e.isLost = false := by
  obtain ⟨ds, course, hcalls⟩ := course_calls h words s
  rw [hcalls]
  exact course.heard works.journaled

/-- A command for many paths leaves what the command for one path leaves when it is given them one
after the other.  Every path is attempted, whatever came of those before it, and reported on in one
line. -/
theorem batch_eq_singles (h : Host W) (listen : Event → L → L) (works : h.OutputWorks)
    {edit : PathEdit} {many one : String} (hmany : many ∈ Standard.batchNames edit)
    (hone : one ∈ Standard.singleNames edit) (path : String) (rest : List String)
    (s : State (Overheard W L)) :
    let paths := path :: rest
    let singles := (paths.map fun path => [one, path]).map Input.words
    let t := ((standard (h.overheard listen)).dispatch (many :: paths) s).2
    let u := (standard (h.overheard listen)).respondAll singles s
    let calls := (h.overheard listen).callsOf (many :: paths) s
    t.session = u.session ∧ t.errors = u.errors ∧ t.world.world = u.world.world ∧
      calls = (h.overheard listen).callsOfRun singles s ∧
      ∃ answers : List (Except Failure Reply), answers.length = paths.length ∧
        calls = (List.zipWith (fun path answer => edit.entries path answer (.ok ())) paths
          answers).flatten := by
  intro paths singles t u calls
  let host := h.overheard listen
  have same := through_batch h listen works hmany hone path rest s.journaled
  let singles' : List (Input (Journal (Overheard W L))) :=
    (paths.map fun path => [one, path]).map .words
  have hjournaled : singles.map Input.journaled = singles' := by
    simp [singles, singles', Input.journaled]
  have ht : t = ((standard host.journaled).dispatch (many :: paths) s.journaled).2.forget :=
    (congrArg Prod.snd (forgetting_dispatch host (many :: paths) s.journaled)).symm
  have hu : u = ((standard host.journaled).respondAll singles' s.journaled).forget := by
    have hrun := forget_respondAll host singles s.journaled
    rw [hjournaled] at hrun
    exact hrun.symm
  have hcalls : calls = host.callsOfRun singles s := by
    rw [Host.callsOfRun, hjournaled]
    exact congrArg (·.world.entries) same
  obtain ⟨result, edits⟩ := calls_batch host
    (Errand.ofWords_command (Builtin.ofName?_eq_some_iff.mpr hmany) paths) s
  refine ⟨?_, ?_, ?_, hcalls, edits.of_heard ?_⟩
  · rw [ht, hu]
    exact congrArg (·.session) same
  · rw [ht, hu]
    exact congrArg (·.errors) same
  · rw [ht, hu]
    exact congrArg (·.world.world) same
  · exact calls_heard (works.deaf.of_over (h.over_overheard listen)) (many :: paths) s

/-- Of two files that cannot be made the second one is attempted all the same. -/
theorem batch_eq_singles_bare :
    let s : State (Overheard String Nat) :=
      { session := { cwd := "/", home := "/", user := "user" }, errors := {}, world := ⟨"/", 0⟩ }
    let host := Host.bare.overheard fun _ heard => heard + 1
    let singles := (["a", "b"].map fun path => ["mk", path]).map Input.words
    let t := ((standard host).dispatch ["mks", "a", "b"] s).2
    let u := (standard host).respondAll singles s
    Host.bare.OutputWorks ∧ "mks" ∈ Standard.batchNames .createFile ∧
      "mk" ∈ Standard.singleNames .createFile ∧ t.session = u.session ∧ t.errors = u.errors ∧
      t.world.world = u.world.world ∧ t.world.heard ≠ u.world.heard ∧ t.errors.count = 2 := by
  intro s
  have works : Host.bare.OutputWorks := by
    intro c hc w
    cases c <;> first | rfl | cases hc
  have hmany : "mks" ∈ Standard.batchNames .createFile := by decide
  have hone : "mk" ∈ Standard.singleNames .createFile := by decide
  have same := batch_eq_singles Host.bare (fun _ heard => heard + 1) works hmany hone "a" ["b"] s
  refine ⟨works, hmany, hone, same.1, same.2.1, same.2.2.1, ?_, ?_⟩
  · decide +kernel
  · decide +kernel

end Interpreter

end LineShell
