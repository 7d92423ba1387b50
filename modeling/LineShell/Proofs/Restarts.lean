import Mathlib.Data.List.TakeWhile
import LineShell.Proofs.Outcome
import LineShell.Proofs.Play

/-!
# What a restart does not touch

A restart forgets the code and the last token, and nobody but the loop looks at them.  So lines that
restart the session are idle in a view that leaves both out: a script may be padded with them, and
it may start with any code, and the only thing that can come out differently is the code at the end.
-/

namespace LineShell

variable {W L : Type}

/-! ## Lines that restart -/

theorem endsSession_of_restartsSession {line : String} (hline : restartsSession line = true) :
    endsSession line = false := by
  rw [endsSession_eq, (token_eq_restart_iff line).mpr hline]
  rfl

/-- Restarts do not end a session, so it ends at a line of the script's own. -/
theorem Slot.find?_endsSession (script : List (Slot (restartsSession · = true))) :
    (script.map text).find? endsSession = (script.filterMap own?).find? endsSession := by
  induction script with
  | nil => rfl
  | cons slot rest ih =>
    cases slot with
    | own line =>
      rw [filterMap_own, List.map_cons, text, List.find?_cons, List.find?_cons, ih]
    | added line hline =>
      rw [filterMap_added, List.map_cons, text, List.find?_cons,
        endsSession_of_restartsSession hline, ih]

namespace Interpreter

/-- A code that is stored at the end takes the place of whatever was there before. -/
theorem codeAfter_of_find? {lines : List String} {last : ReturnCode}
    (hlast : (lines.find? endsSession).bind storedCode? = some last) (code : ReturnCode) :
    codeAfter lines code = last := by
  rw [List.find?_eq_head?_dropWhile_not] at hlast
  rw [codeAfter, hlast, Option.getD_some]

theorem idle_of_restartsSession {h : Host W} (deaf : ∀ event w, h.note event w = w) {line : String}
    (hline : restartsSession line = true) : (standard h).Idle Session.reset line := by
  intro s
  obtain ⟨operands, hwords⟩ : ∃ operands, tokenize line = "restart" :: operands :=
    List.head?_eq_some_iff.mp (of_decide_eq_true hline)
  have hr : (standard h).runLine line s = (.restart, keep .restart s) := by
    rw [runLine, hwords]
    exact dispatch_of_ok deaf (b := .restart) (by decide) fun _ => rfl
  rw [hr]
  refine ⟨rfl, ?_⟩
  simp only [afterRound, if_true, restart, tell_deaf deaf]
  rfl

/-! ## Scripts with restarts -/

/-- Nobody can tell from which code a script was started, nor that lines were added to it which
restart the session: the calls are the same, and so is what each of the script's own lines shows,
with the prompt before it and the error log after it.  Both loops stop at the same line.  What is
left differs in the code and the last token at most, and if the script ends by returning a code,
both loops give this one. -/
theorem restarts_unseen (h : Host W) (listen : Event → L → L) (showPrompt : String → L → L)
    (ending ending' : Ending) (script : List (Slot (restartsSession · = true)))
    (s : State (Overheard W L)) (code : ReturnCode) (last : Option Token) :
    let host := h.overheard listen
    let lines := script.filterMap Slot.own?
    let source := LineSource.typed showPrompt ending lines
    let source' := LineSource.typed showPrompt ending' (script.map Slot.text)
    let s' : State (Overheard W L) := { s with session := { s.session with code, last } }
    let run := (standard host).loop source s
    let run' := (standard host).loop source' s'
    let t := run.2.2
    let t' := run'.2.2
    let turns' := (standard host).turnsOf source' s'
    let left := script.drop turns'.length
    host.callsOfLoop source s = host.callsOfLoop source' s' ∧
      t.world.world = t'.world.world ∧
      { t.session with code := t'.session.code, last := t'.session.last } = t'.session ∧
      (standard host).turnsOf source s = Slot.ofOwn script turns' ∧
      run.2.1.prompts.take lines.length = Slot.ofOwn script run'.2.1.prompts ∧
      run.2.1.unread = left.filterMap Slot.own? ∧ run'.2.1.unread = left.map Slot.text ∧
      (∀ x ∈ script.zip turns', x.1.isOwn = true ∨ x.2.token.isTerminal = false) ∧
      ∀ stored, (lines.find? endsSession).bind storedCode? = some stored →
        (run.1 = stored ∧ t.session.code = stored) ∧
          run'.1 = stored ∧ t'.session.code = stored := by
  intro host lines source source' s' run run' t t' turns' left
  have deaf := h.note_deaf_journaled
  have hidle (line : String) (hline : restartsSession line = true) :
      (standard h.deaf.journaled).Idle Session.reset line := idle_of_restartsSession deaf hline
  obtain ⟨hturns, hgoes, hunread, hunread', hview⟩ :=
    play_added deaf Session.view_reset hidle script
      (s := (s.through Overheard.world).journaled) (t := (s'.through Overheard.world).journaled) rfl
  obtain ⟨-, -, -, -, hrest, hseen, hprompts⟩ := loop_play h listen showPrompt ending lines s
  obtain ⟨-, -, -, -, hrest', hseen', hprompts'⟩ :=
    loop_play h listen showPrompt ending' (script.map Slot.text) s'
  obtain ⟨hcalls, hworld, hreset⟩ := loop_alike h listen showPrompt ending ending' hview.symm
  have hend : run.1 = codeAfter lines s.session.code :=
    (readLines_ofLines host source.showPrompt ending lines s).2.2
  have hend' : run'.1 = codeAfter (script.map Slot.text) code :=
    (readLines_ofLines host source'.showPrompt ending' (script.map Slot.text) s').2.2
  have hturns' : (standard host).turnsOf source s = Slot.ofOwn script turns' := by
    rw [hseen, ← hturns, ← hseen']
  refine ⟨hcalls, hworld, ?_, hturns', ?_, ?_, ?_, ?_, ?_⟩
  · exact congrArg
      (fun x : Session => { x with code := t'.session.code, last := t'.session.last }) hreset
  · have htake : run'.2.1.prompts.take script.length = turns'.map Turn.prompt := by
      rw [← hseen', List.length_map] at hprompts'
      exact hprompts'
    rw [Slot.ofOwn, ← picked_take, htake, picked_map, ← Slot.ofOwn, ← hturns', hseen]
    exact hprompts
  · rw [hrest, ← hunread, ← hseen']
  · rw [hrest', ← hunread', ← hseen']
  · rw [← hseen'] at hgoes
    exact hgoes
  · intro stored hstored
    have hstored' : ((script.map Slot.text).find? endsSession).bind storedCode? = some stored := by
      rw [Slot.find?_endsSession]
      exact hstored
    have hrun : run.1 = stored := hend.trans (codeAfter_of_find? hstored _)
    have hrun' : run'.1 = stored := hend'.trans (codeAfter_of_find? hstored' _)
    exact ⟨⟨hrun, hrun⟩, hrun', hrun'⟩

/-- Without a code of its own a script gives whatever code there is, and a restart shows in that. -/
example :
    let s : State (Overheard String Unit) :=
      { session := { cwd := "/", home := "/", user := "user", code := 5 }, errors := {},
        world := ⟨"/", ()⟩ }
    let result (lines : List String) :=
      ((standard (Host.bare.overheard fun _ heard => heard)).loop
        (.typed (fun _ heard => heard) .endOfInput lines) s).1
    result ["cd /tmp", "quit"] = 5 ∧ result ["cd /tmp", "restart", "quit"] = 0 := by
  decide +kernel

end Interpreter
end LineShell
