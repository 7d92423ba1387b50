import LineShell.Proofs.Errand

/-!
# Changes of directory

A change of directory is asked of the host in one call, and only if this works the host is asked
where it is now.  The session follows the answer to that question and nothing else.  `Movement`
lists the three courses that this can take.
-/

namespace LineShell

/-- The deeds of a change of directory. -/
inductive Movement : List Deed → Prop
  | refused {path : String} {cause : Failure} {ds : List Deed} (common : ∀ d ∈ ds, d.Common) :
      Movement (.call (.move path) (.error cause) :: ds)
  | unnamed {path : String} {cause : Failure} :
      Movement [.call (.move path) (.ok .done), .call .locate (.error cause)]
  | followed {path cwd : String} :
      Movement [.call (.move path) (.ok .done), .call .locate (.ok (.place cwd)), .setCwd cwd]

variable {W α β : Type}

theorem Action.run_attempt_bind {attempt : Attempt W α} {f : Except Failure α → Action W β}
    {s : State W} {answer : Except Failure α} {w : W} (hr : attempt s.world = (answer, w)) :
    (Action.attempt attempt >>= f).run s = (f answer).run { s with world := w } := by
  rw [run_bind_ok (run_attempt attempt s), hr]

theorem Action.run_session_bind (f : Session → Action W β) (s : State W) :
    (Action.session >>= f).run s = (f s.session).run s := rfl

theorem Action.run_call {attempt : Attempt W α} {s : State W} {answer : Except Failure α} {w : W}
    (hr : attempt s.world = (answer, w)) :
    (Action.call attempt).run s = (answer, { s with world := w }) := by
  show ((attempt s.world).1, { s with world := (attempt s.world).2 }) = _
  rw [hr]

namespace Deed.Makes

variable {h : Host W} {s : State W} {path : String} {cause : Failure} {w : W}

theorem of_perform {c : Call} {answer : Except Failure Reply}
    (hr : h.perform c s.world = (answer, w)) :
    Makes h s (.call c answer) { s with world := w } := by
  have made := Makes.call (h := h) s c
  rw [hr] at made
  exact made

theorem moved (hr : h.setCurrentDir path s.world = (.ok (), w)) :
    Makes h s (.call (.move path) (.ok .done)) { s with world := w } :=
  of_perform (by simp [Host.perform, Attempt.reply, hr, Except.map])

theorem refused (hr : h.setCurrentDir path s.world = (.error cause, w)) :
    Makes h s (.call (.move path) (.error cause)) { s with world := w } :=
  of_perform (by simp [Host.perform, Attempt.reply, hr, Except.map])

theorem located {cwd : String} (hr : h.currentDir s.world = (.ok cwd, w)) :
    Makes h s (.call .locate (.ok (.place cwd))) { s with world := w } :=
  of_perform (by simp [Host.perform, Attempt.reply, hr, Except.map])

theorem unlocated (hr : h.currentDir s.world = (.error cause, w)) :
    Makes h s (.call .locate (.error cause)) { s with world := w } :=
  of_perform (by simp [Host.perform, Attempt.reply, hr, Except.map])

end Deed.Makes

namespace Standard

theorem run_bind_pure_snd (x : Action W α) (b : β) (s : State W) :
    ((x >>= fun _ => pure b).run s).2 = (x.run s).2 := by
  rw [Action.run_bind]
  cases x.run s with
  | mk answer t => cases answer <;> rfl

theorem movement_follow (h : Host W) {path : String} {s : State W} {w : W}
    (hr : h.setCurrentDir path s.world = (.ok (), w)) :
    ∃ ds, Course h s ds ((follow h).run { s with world := w }).2 ∧ Movement ds := by
  have moved := Deed.Makes.moved hr
  cases hl : h.currentDir w with
  | mk answer v =>
    unfold follow
    rw [Action.run_attempt_bind hl]
    cases answer with
    | ok cwd => exact ⟨_, .cons moved (.cons (.located hl) (.single (.setCwd _ cwd))), .followed⟩
    | error cause => exact ⟨_, .cons moved (.single (.unlocated hl)), .unnamed⟩

theorem movement_reject (h : Host W) {path : String} {s : State W} {w : W} {cause : Failure}
    (hr : h.setCurrentDir path s.world = (.error cause, w)) (event : Event) {kind : Kind}
    (hk : kind ≠ .insufficientData) (message : String) (item : Option String) :
    let rejection : Action W Token := do
      h.tell event
      h.reject kind message item
    ∃ ds, Course h s ds (rejection.run { s with world := w }).2 ∧ Movement ds := by
  intro rejection
  have rejects : rejection.Abides h (fun _ => False) false { own := 1 } (· = .success) :=
    .tell (.reject hk message item)
  obtain ⟨ds, course, conduct⟩ := rejects { s with world := w }
  refine ⟨_, .cons (.refused hr) course, .refused ?_⟩
  intro d hd
  exact (conduct.permitted d hd).resolve_right id

theorem movement_cd (h : Host W) (synopses : List Synopsis) (name : String)
    (operands : List String) (s : State W) :
    ∃ ds, Course h s ds (((cd h).execute synopses name operands).run s).2 ∧ Movement ds := by
  cases operands with
  | nil =>
    show ∃ ds, Course h s ds ((goHome h).run s).2 ∧ Movement ds
    cases hr : h.setCurrentDir s.session.home s.world with
    | mk answer w =>
      rw [goHome, Action.run_session_bind, Action.run_attempt_bind hr]
      cases answer with
      | ok _ => exact movement_follow h hr
      | error cause => exact movement_reject h hr _ (by decide) _ _
  | cons path rest =>
    show ∃ ds, Course h s ds ((goTo h path).run s).2 ∧ Movement ds
    cases hr : h.setCurrentDir path s.world with
    | mk answer w =>
      rw [goTo, Action.run_attempt_bind hr]
      cases answer with
      | ok _ => exact movement_follow h hr
      | error cause => exact movement_reject h hr _ (by decide) _ _

end Standard

/-- Deeds that make no call and leave the directory of the session alone. -/
def Deed.Still (d : Deed) : Prop := d.entry? = none ∧ d.cwd? = none

theorem entriesOf_of_still {ds : List Deed} (still : ∀ d ∈ ds, d.Still) : entriesOf ds = [] :=
  List.filterMap_eq_nil_iff.mpr fun d hd => (still d hd).1

theorem entriesOf_between {before ds after : List Deed} (hbefore : ∀ d ∈ before, d.Still)
    (hafter : ∀ d ∈ after, d.Still) : entriesOf (before ++ ds ++ after) = entriesOf ds := by
  rw [entriesOf_append, entriesOf_append, entriesOf_of_still hbefore, entriesOf_of_still hafter,
    List.nil_append, List.append_nil]

/-- Deeds that write nothing and record nothing. -/
def Deed.Quiet (d : Deed) : Prop := d.record? = none ∧ ∀ e ∈ d.entry?, e.call.isOutput = false

theorem recordsOf_of_quiet {ds : List Deed} (quiet : ∀ d ∈ ds, d.Quiet) : recordsOf ds = [] :=
  List.filterMap_eq_nil_iff.mpr fun d hd => (quiet d hd).1

theorem isOutput_of_quiet {ds : List Deed} (quiet : ∀ d ∈ ds, d.Quiet) :
    ∀ e ∈ entriesOf ds, e.call.isOutput = false := by
  intro e he
  obtain ⟨d, hd, hentry⟩ := List.mem_filterMap.mp he
  exact (quiet d hd).2 e hentry

namespace Interpreter

theorem course_dispatch (h : Host W) {words operands : List String} {b : Builtin}
    (hb : Errand.ofWords words = .command b operands) (s : State W) :
    ∃ event synopses name after,
      Course h (((b.command h).execute synopses name operands).run ((standard h).tell event s)).2
        after ((standard h).dispatch words s).2 ∧ ∀ d ∈ after, d.Still := by
  obtain ⟨name, rfl, ho⟩ := Errand.ofWords_eq_command_iff.mp hb
  let sh := standard h
  let started := Event.commandStarted ((b.command h).names.headD name) operands.length
  refine ⟨started, sh.commands.synopses, name, ?_⟩
  have hdispatch : (sh.dispatch (name :: operands) s).2 =
      keep (sh.answer (name :: operands) s).1
        (sh.tell (.dispatched (sh.answer (name :: operands) s).1)
          (sh.answer (name :: operands) s).2) := rfl
  have ended (token : Token) (t : State W) :
      Course h t [.tell (.dispatched token), .keep token]
        (keep token (sh.tell (.dispatched token) t)) :=
    .cons (.tell t _) (.single (.keep _ token))
  rw [answer_of_command h ho] at hdispatch
  cases hr : ((b.command h).execute sh.commands.synopses name operands).run
      (sh.tell started s) with
  | mk result t =>
    cases result with
    | ok token =>
      rw [runCommand_of_ok hr] at hdispatch
      rw [hdispatch]
      exact ⟨_, ended token t, by simp [Deed.Still]⟩
    | error cause =>
      rw [runCommand_of_error hr] at hdispatch
      rw [hdispatch]
      exact ⟨_, (course_breakOff h name cause t).append (ended _ _), by simp [Deed.Still]⟩

/-- A dispatch that changes the directory does nothing else to the host. -/
theorem movement_dispatch (h : Host W) {words operands : List String}
    (hcd : Errand.ofWords words = .command .cd operands) (s : State W) :
    ∃ before ds after, Course h s (before ++ ds ++ after) ((standard h).dispatch words s).2 ∧
      Movement ds ∧ (∀ d ∈ before, d.Still) ∧ ∀ d ∈ after, d.Still := by
  obtain ⟨event, synopses, name, after, ended, still⟩ := course_dispatch h hcd s
  obtain ⟨ds, course, movement⟩ :=
    Standard.movement_cd h synopses name operands ((standard h).tell event s)
  have begun : Course h s [.tell event] ((standard h).tell event s) := .single (.tell s event)
  exact ⟨_, ds, after, (begun.append course).append ended, movement, by simp [Deed.Still], still⟩

section

variable {sh : Interpreter W} {path : String} {s : State W} {w v : W} {cause : Failure}

theorem changeDir_refused (hr : sh.host.setCurrentDir path s.world = (.error cause, w)) :
    sh.changeDir path s = (.error (.refused path cause), { s with world := w }) := by
  simp only [changeDir, Action.run_call hr]

theorem changeDir_unreadable (hr : sh.host.setCurrentDir path s.world = (.ok (), w))
    (hl : sh.host.currentDir w = (.error cause, v)) :
    sh.changeDir path s = (.error (.unreadable cause), { s with world := v }) := by
  have hlocate := Action.run_call (s := { s with world := w }) hl
  simp only [changeDir, Action.run_call hr, hlocate]

theorem changeDir_ok {cwd : String} (hr : sh.host.setCurrentDir path s.world = (.ok (), w))
    (hl : sh.host.currentDir w = (.ok cwd, v)) :
    sh.changeDir path s =
      (.ok (), sh.tell (.directoryChanged cwd)
        { s with session := { s.session with cwd }, world := v }) := by
  have hlocate := Action.run_call (s := { s with world := w }) hl
  simp only [changeDir, Action.run_call hr, hlocate]

end

theorem movement_changeDir (h : Host W) (path : String) (s : State W) :
    ∃ ds after, Course h s (ds ++ after) ((standard h).changeDir path s).2 ∧
      Movement ds ∧ (∀ d ∈ after, d.Still) ∧ ∀ d ∈ ds ++ after, d.Quiet := by
  cases hr : h.setCurrentDir path s.world with
  | mk answer w =>
    cases answer with
    | error cause =>
      have refused : Course h s [.call (.move path) (.error cause)] { s with world := w } :=
        .single (.refused hr)
      rw [changeDir_refused hr]
      exact ⟨[.call (.move path) (.error cause)], [], refused, .refused (by simp), by simp,
        by simp [Deed.Quiet, Call.isOutput]⟩
    | ok _ =>
      have moved := Deed.Makes.moved hr
      cases hl : h.currentDir w with
      | mk answer v =>
        cases answer with
        | error cause =>
          rw [changeDir_unreadable hr hl]
          exact ⟨_, [], .cons moved (.single (.unlocated hl)), .unnamed, by simp,
            by simp [Deed.Quiet, Call.isOutput]⟩
        | ok cwd =>
          let t : State W := { s with session := { s.session with cwd }, world := v }
          have followed : Course h s [.call (.move path) (.ok .done),
              .call .locate (.ok (.place cwd)), .setCwd cwd] t :=
            .cons moved (.cons (.located hl) (.single (.setCwd _ cwd)))
          rw [changeDir_ok hr hl]
          exact ⟨_, [.tell (.directoryChanged cwd)], followed.append (.single (.tell t _)),
            .followed, by simp [Deed.Still], by simp [Deed.Quiet, Call.isOutput]⟩

theorem session_of_changeDir_error {h : Host W} {path : String} {s : State W}
    {cause : ChangeFailure} (he : ((standard h).changeDir path s).1 = .error cause) :
    ((standard h).changeDir path s).2.session = s.session := by
  cases hr : h.setCurrentDir path s.world with
  | mk answer w =>
    cases answer with
    | error cause => rw [changeDir_refused hr]
    | ok _ =>
      cases hl : h.currentDir w with
      | mk answer v =>
        cases answer with
        | error cause => rw [changeDir_unreadable hr hl]
        | ok cwd =>
          rw [changeDir_ok hr hl] at he
          cases he

end Interpreter
end LineShell
