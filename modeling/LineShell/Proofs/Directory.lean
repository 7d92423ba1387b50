import LineShell.Proofs.Whereabouts

/-!
# What the user sees of the directory

The user sees the working directory in the prompt, which is made from the session, and in what the
command `gwd` writes, which is asked of the file system.  As long as the session is in step, both
are the same directory.  A change of directory that is refused leaves it as it was, whether a
command, the interpreter's caller or the command line of the process asked for it.
-/

namespace LineShell

variable {W : Type}

namespace Standard

theorem course_showDirectory (h : Host W) (s : State W) :
    ∃ ds, Course h s ds ((showDirectory h).run s).2 ∧
      ∀ text answer, .call (.line text) answer ∈ ds → (h.currentDir s.world).1 = .ok text := by
  cases hl : h.currentDir s.world with
  | mk answer w =>
    let t : State W := { s with world := w }
    unfold showDirectory
    rw [Action.run_attempt_bind hl]
    cases answer with
    | ok cwd =>
      have written := Deed.Makes.call (h := h) t (.line cwd)
      have hend : ((do h.print cwd; return Token.success : Action W Token).run t).2 =
          { t with world := (h.perform (.line cwd) t.world).2 } :=
        run_bind_pure_snd (h.print cwd) Token.success t
      refine ⟨[.call .locate (.ok (.place cwd)),
        .call (.line cwd) (h.perform (.line cwd) t.world).1], ?_, ?_⟩
      · show Course h s _ ((do h.print cwd; return Token.success : Action W Token).run t).2
        rw [hend]
        exact .cons (.located hl) (.single written)
      · intro text answer hmem
        simp only [List.mem_cons, Deed.call.injEq, reduceCtorEq, false_and, false_or,
          Call.line.injEq, List.not_mem_nil, or_false] at hmem
        rw [hmem.1]
    | error cause =>
      let u : State W := { t with world := h.note (.cwdUnreadable cause) w }
      let message := "failed to get working directory"
      have course := course_fail h .unknown message none u
      have hend : ((h.reject .unknown message none).run u).2 =
          ((h.fail .unknown message none).run u).2 :=
        run_bind_pure_snd (h.fail .unknown message none) Token.success u
      rw [← hend] at course
      refine ⟨_, .cons (.unlocated hl) (.cons (.tell t _) course), ?_⟩
      intro text answer hmem
      simp at hmem

end Standard

/-! ## Dispatches -/

namespace Interpreter

/-- What `gwd` writes is what the file system reports, once the command has been told. -/
theorem line_of_gwd (h : Host W) (operands : List String) (s : State W) {text : String}
    {answer : Except Failure Reply}
    (hline : ⟨.line text, answer⟩ ∈ h.callsOf ("gwd" :: operands) s) :
    ∃ event, (h.currentDir (h.note event s.world)).1 = .ok text := by
  have hgwd : Errand.ofWords ("gwd" :: operands) = .command .gwd operands :=
    Errand.ofWords_command (Builtin.ofName?_eq_some_iff.mpr (by simp [Builtin.names])) operands
  obtain ⟨event, synopses, name, hcalls⟩ := calls_command h hgwd s
  obtain ⟨ds, course, hlines⟩ := Standard.course_showDirectory h.journaled
    ((standard h.journaled).tell event s.journaled)
  rw [hcalls ds course] at hline
  obtain ⟨d, hd, hentry⟩ := List.mem_filterMap.mp hline
  cases d with
  | call c answer =>
    cases hentry
    exact ⟨event, hlines text _ hd⟩
  | _ => cases hentry

/-- A dispatch changes the directory that the session remembers only if it enters one, and then it
asks for none in vain. -/
theorem cwd_dispatch (h : Host W) (words : List String) (s : State W) :
    ((standard h).dispatch words s).2.session.cwd = s.session.cwd ∨
      (∃ path, ⟨.move path, .ok .done⟩ ∈ h.callsOf words s) ∧
        ∀ path cause, ⟨.move path, .error cause⟩ ∉ h.callsOf words s := by
  rw [← session_journaled]
  by_cases hcd : ∃ operands, Errand.ofWords words = .command .cd operands
  · obtain ⟨operands, hcd⟩ := hcd
    obtain ⟨before, ds, after, course, movement, hbefore, hafter, hcalls⟩ :=
      calls_movement h hcd s
    rw [hcalls]
    cases movement with
    | @refused path cause ds common =>
      refine Or.inl (course.cwd_of_stays fun d hd => ?_)
      rw [List.append_assoc, List.mem_append, List.mem_append] at hd
      rcases hd with hd | hd | hd
      · exact (hbefore d hd).stays
      · exact Deed.stays_of_refused path cause common d hd
      · exact (hafter d hd).stays
    | unnamed => exact Or.inr ⟨⟨_, List.mem_cons_self⟩, by simp⟩
    | followed => exact Or.inr ⟨⟨_, List.mem_cons_self⟩, by simp⟩
  · obtain ⟨-, ds, course, account⟩ := account_dispatch h.journaled words s.journaled
    exact Or.inl (course.cwd_of_stays (account.stays (not_exists.mp hcd)))

end Interpreter

/-! ## States in which the user is told the truth -/

/-- The session remembers a directory, and the file system reports no other. -/
def State.At (h : Host W) (cwd : String) (s : State W) : Prop :=
  s.session.cwd = cwd ∧ ∀ reported, (h.currentDir s.world).1 = .ok reported → reported = cwd

/-- What the user is told of the directory in a state is true, and stays true where a change of
directory fails. -/
structure State.Faithful (h : Host W) (s : State W) : Prop where
  here : s.At h s.session.cwd
  prompt : ∀ reported, (h.currentDir s.world).1 = .ok reported →
    s.session.prompt = "[" ++ s.session.user ++ "@yash  " ++ reported ++ "]$ "
  /-- What `gwd` writes. -/
  written : ∀ operands text answer,
    ⟨.line text, answer⟩ ∈ h.callsOf ("gwd" :: operands) s → text = s.session.cwd
  /-- A dispatch that asks for a directory in vain. -/
  rejected : ∀ words path cause, ⟨.move path, .error cause⟩ ∈ h.callsOf words s →
    ((Interpreter.standard h).dispatch words s).2.At h s.session.cwd
  /-- A dispatch that enters no directory. -/
  stayed : ∀ words, (∀ path, ⟨.move path, .ok .done⟩ ∉ h.callsOf words s) →
    ((Interpreter.standard h).dispatch words s).2.At h s.session.cwd
  /-- A change of directory by the interpreter's caller. -/
  refused : ∀ path cause, ((Interpreter.standard h).changeDir path s).1 = .error cause →
    ((Interpreter.standard h).changeDir path s).2.At h s.session.cwd
  /-- A directory on the command line of the process. -/
  declined : ∀ path openSource cause,
    let begun := (Interpreter.standard h).tell (.launching (.directory path)) s
    ((Interpreter.standard h).changeDir path begun).1 = .error cause →
      ((Interpreter.standard h).launch (.directory path) openSource s).2.At h s.session.cwd

namespace InStep

variable {h : Host W} {aside : W → W → Prop} {start : W} {s t : State W}

theorem at_cwd (inStep : InStep h aside start s) (steady : h.Steady aside start) :
    s.At h s.session.cwd := ⟨rfl, fun _ hr => inStep.eq_cwd steady hr⟩

theorem at_of_eq (inStep : InStep h aside start t) (steady : h.Steady aside start)
    (hcwd : t.session.cwd = s.session.cwd) : t.At h s.session.cwd := hcwd ▸ inStep.at_cwd steady

theorem faithful (inStep : InStep h aside start s) (steady : h.Steady aside start) :
    s.Faithful h where
  here := inStep.at_cwd steady
  prompt reported hr := by
    rw [inStep.eq_cwd steady hr]
    rfl
  written operands text answer hline := by
    obtain ⟨event, hr⟩ := Interpreter.line_of_gwd h operands s hline
    exact (Interpreter.inStep_tell event inStep).eq_cwd steady hr
  rejected words path cause hcall := by
    have after := Interpreter.inStep_dispatch steady words s inStep
    rcases Interpreter.cwd_dispatch h words s with hcwd | ⟨-, hnever⟩
    · exact after.at_of_eq steady hcwd
    · exact absurd hcall (hnever path cause)
  stayed words hnever := by
    have after := Interpreter.inStep_dispatch steady words s inStep
    rcases Interpreter.cwd_dispatch h words s with hcwd | ⟨⟨path, hcall⟩, -⟩
    · exact after.at_of_eq steady hcwd
    · exact absurd hcall (hnever path)
  refused path cause he :=
    (Interpreter.inStep_changeDir steady path inStep).at_of_eq steady
      (congrArg Session.cwd (Interpreter.session_of_changeDir_error he))
  declined path openSource cause he := by
    let sh := Interpreter.standard h
    let begun := sh.tell (.launching (.directory path)) s
    have left := Interpreter.inStep_changeDir steady path
      (Interpreter.inStep_tell (.launching (.directory path)) inStep)
    have hcwd : (sh.changeDir path begun).2.session.cwd = s.session.cwd :=
      congrArg Session.cwd (Interpreter.session_of_changeDir_error he)
    cases hr : sh.changeDir path begun with
    | mk answer t =>
      obtain rfl : answer = .error cause := (congrArg Prod.fst hr).symm.trans he
      rw [hr] at left hcwd
      let told := sh.tell (.startRefused cause path) t
      have hlaunch : (sh.launch (.directory path) openSource s).2 =
          sh.report .invalidData "invalid directory" (some path) told := by
        simp only [Interpreter.launch, Interpreter.launchIn]
        rw [hr]
        rfl
      have hk : Kind.invalidData ≠ .insufficientData := by decide
      have hreport := (Interpreter.drifts_report h aside hk "invalid directory" (some path) told).2
      have after := Interpreter.inStep_report hk "invalid directory" (some path)
        (Interpreter.inStep_tell (.startRefused cause path) left)
      rw [hlaunch]
      exact after.at_of_eq steady (hreport.trans hcwd)

end InStep

namespace Interpreter

/-- The session and the file system agree on the working directory throughout.  Whatever requests
came before, what the user is told of the directory is true in the state they leave, when an event
is told in it, and in every round of the session that the next request leads to; and the prompts of
this session are made from the states in which its rounds begin. -/
theorem directory_in_step (h : Host W) (aside : W → W → Prop) (s : State W)
    (steady : h.Steady aside s.world) (here : (h.currentDir s.world).1 = .ok s.session.cwd)
    (requests : List (Request W)) (within : ∀ request ∈ requests, request.Within aside)
    (next : Request W) (nextWithin : next.Within aside) :
    let t := (standard h).serveAll requests s
    t.Faithful h ∧ (∀ event, ((standard h).tell event t).Faithful h) ∧
      (standard h).promptsOf next t =
        ((standard h).roundsOf next t).map (·.before.session.prompt) ∧
      ∀ r ∈ (standard h).roundsOf next t, r.before.Faithful h ∧ r.typed.Faithful h := by
  intro t
  have inStep : InStep h aside s.world t := inStep_serveAll steady within (.of_start here)
  refine ⟨inStep.faithful steady, fun event => ?_, prompts_eq _ next t, fun r hr => ?_⟩
  · exact (inStep_tell event inStep).faithful steady
  · obtain ⟨before, typed⟩ := inStep_roundsOf steady nextWithin inStep r hr
    exact ⟨before.faithful steady, typed.faithful steady⟩

theorem eq_of_drifts_bare {w w' : String}
    (drifts : Drifts Host.bare (fun w w' => w' = w) w w') : w' = w := by
  induction drifts with
  | refl => rfl
  | tail _ drift ih =>
    rw [← ih]
    cases drift with
    | call hc w =>
      rename_i c
      cases c with
      | edit edit path => cases edit <;> rfl
      | move path => cases hc
      | _ => rfl
    | refused hr =>
      simp only [Host.bare] at hr
      split at hr <;> cases hr
      rfl
    | note event w => rfl
    | pause seconds w => rfl
    | aside ha => exact ha

theorem steady_bare (start : String) : Host.bare.Steady (fun w w' => w' = w) start where
  named {_ _ w' _} _ _ _ := ⟨w', rfl⟩
  same _ drifts ho hw := by
    rw [eq_of_drifts_bare drifts] at hw
    rw [ho] at hw
    cases hw
    rfl

/-- A session that was sent to a directory, and whose user goes home, to nowhere, and leaves. -/
theorem directory_in_step_bare :
    let aside : String → String → Prop := fun w w' => w' = w
    let s : State String :=
      { session := { cwd := "/", home := "/home", user := "user" }, errors := {}, world := "/" }
    let requests : List (Request String) := [.words ["cd", "/tmp"], .changeDir ""]
    let lines := ["gwd", "cd", "return 3"]
    let source : LineSource String :=
      { supply := .ofLines .endOfInput lines, showPrompt := fun _ w => w }
    let t := (standard Host.bare).serveAll requests s
    Host.bare.Steady aside s.world ∧ (Host.bare.currentDir s.world).1 = .ok s.session.cwd ∧
      (∀ request ∈ requests, request.Within aside) ∧ (Request.loop source).Within aside ∧
      t.Faithful Host.bare ∧ t.session.cwd = "/tmp" ∧
      (standard Host.bare).promptsOf (.loop source) t =
        ["[user@yash  /tmp]$ ", "[user@yash  /tmp]$ ", "[user@yash  /home]$ "] := by
  intro aside s requests lines source t
  have steady : Host.bare.Steady aside s.world := steady_bare "/"
  have within : ∀ request ∈ requests, request.Within aside := by simp [requests, Request.Within]
  have sourceWithin : (Request.loop source).Within aside :=
    ⟨fun _ _ => rfl, Supply.within_ofLines aside .endOfInput lines⟩
  have told := directory_in_step Host.bare aside s steady rfl requests within (.loop source)
    sourceWithin
  exact ⟨steady, rfl, within, sourceWithin, told.1, by decide +kernel, by decide +kernel⟩

end Interpreter
end LineShell
