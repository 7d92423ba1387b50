import LineShell.Proofs.Plan
import LineShell.Proofs.Runs

/-!
# A host over another one

A host that does more than another one, such as one that keeps a journal, still does what the other
does: through a map of the worlds its calls show as the calls of the other, with the same answers.
Then every run on it shows as the run on the other one, with the same tokens, codes and failures.
For a dispatch this is an induction over its plan, and for a session one over the supply of lines.

A run on the host with the journal is the run on the host itself with a record of its calls:
whoever forgets the journal sees the same tokens, the same log, the same session and the same world.
So what the journal shows of a run holds of the run without it.
-/

namespace LineShell

variable {V W α : Type}

/-- What shows of a state through a map of the worlds. -/
def State.through (π : V → W) (s : State V) : State W := { s with world := π s.world }

def seen (π : V → W) (result : α × State V) : α × State W := (result.1, result.2.through π)

/-- The first host shows as the second one. -/
structure Host.Over (π : V → W) (h' : Host V) (h : Host W) : Prop where
  perform : ∀ c v, h.perform c (π v) = ((h'.perform c v).1, π (h'.perform c v).2)
  note : ∀ event v, h.note event (π v) = π (h'.note event v)
  pause : ∀ seconds v, h.pause seconds (π v) = π (h'.pause seconds v)

theorem Host.over_journaled (h : Host W) : Host.Over Journal.world h.journaled h where
  perform c j := by rw [h.perform_journaled]
  note _ _ := rfl
  pause _ _ := rfl

def Journal.map (π : V → W) (j : Journal V) : Journal W := { j with world := π j.world }

namespace Host.Over

variable {π : V → W} {h' : Host V} {h : Host W}

/-- The calls are the same, so the journals are. -/
theorem journaled (above : Host.Over π h' h) :
    Host.Over (Journal.map π) h'.journaled h.journaled where
  perform c j := by simp [perform_journaled, Journal.map, above.perform]
  note event j := congrArg (Journal.mk · j.entries) (above.note event j.world)
  pause seconds j := congrArg (Journal.mk · j.entries) (above.pause seconds j.world)

theorem act (above : Host.Over π h' h) (a : Act) (s : State V) :
    a.apply h (s.through π) = (a.apply h' s).through π := by
  cases a with
  | tell event => exact congrArg (State.mk s.session s.errors) (above.note event s.world)
  | pause seconds => exact congrArg (State.mk s.session s.errors) (above.pause seconds s.world)
  | _ => rfl

theorem run (above : Host.Over π h' h) (p : Plan α) (s : State V) :
    p.run h (s.through π) = seen π (p.run h' s) := by
  induction p generalizing s with
  | done a => rfl
  | act a next ih =>
    simp only [Plan.run]
    rw [above.act a s]
    exact ih (a.apply h' s)
  | lookup next ih => exact ih s.session.home s.session.cwd s.errors s
  | call c next ih =>
    have hperform : h.perform c (s.through π).world = _ := above.perform c s.world
    have hcalled : (s.through π).called h c = (s.called h' c).through π := by
      simp only [State.called, hperform]
      rfl
    simp only [Plan.run]
    rw [hcalled, hperform]
    exact ih (h'.perform c s.world).1 (s.called h' c)

theorem planned (above : Host.Over π h' h) {x : (W : Type) → Host W → State W → α × State W}
    (hx : Planned x) (s : State V) : x W h (s.through π) = seen π (x V h' s) := by
  obtain ⟨p, hp⟩ := hx
  rw [hp, hp, above.run]

end Host.Over

/-! ## Sources -/

/-- The first supply shows as the second one. -/
inductive Supply.Over (π : V → W) : Supply V → Supply W → Prop
  | ended (ending : Ending) : Over π (.ended ending) (.ended ending)
  | line (text : String) {rest' : Supply V} {rest : Supply W} (above : Over π rest' rest) :
      Over π (.line text rest') (.line text rest)
  | ask {look' : V → Supply V} {look : W → Supply W} {after' : V → V} {after : W → W}
      (look_over : ∀ v, Over π (look' v) (look (π v)))
      (after_over : ∀ v, after (π v) = π (after' v)) : Over π (.ask look' after') (.ask look after)

structure LineSource.Over (π : V → W) (source' : LineSource V) (source : LineSource W) : Prop where
  supply : source'.supply.Over π source.supply
  showPrompt : ∀ prompt v, source.showPrompt prompt (π v) = π (source'.showPrompt prompt v)

/-- Two openings of a source fail with one cause, or the first source shows as the second one. -/
inductive Opened.Over (π : V → W) :
    Except Failure (LineSource V) → Except Failure (LineSource W) → Prop
  | error (cause : Failure) : Over π (.error cause) (.error cause)
  | ok {source' : LineSource V} {source : LineSource W} (above : source'.Over π source) :
      Over π (.ok source') (.ok source)

structure Opener.Over (π : V → W) (openSource' : Attempt V (LineSource V))
    (openSource : Attempt W (LineSource W)) : Prop where
  answer : ∀ v, Opened.Over π (openSource' v).1 (openSource (π v)).1
  world : ∀ v, (openSource (π v)).2 = π (openSource' v).2

theorem Supply.Over.pending {π : V → W} {supply' : Supply V} {supply : Supply W}
    (above : supply'.Over π supply) : supply.pending = supply'.pending := by
  induction above with
  | line text _ ih => exact congrArg (text :: ·) ih
  | _ => rfl

/-! ## The interpreter -/

namespace Interpreter

variable {sh : Interpreter W} {openSource : Attempt W (LineSource W)} {s : State W} {w : W}

theorem converse_of_error {cause : Failure} (hr : openSource s.world = (.error cause, w)) :
    sh.converse openSource s =
      ({ result := .error cause, reading := none }, { s with world := w }) := by
  simp only [converse, Action.run_call hr]

theorem converse_of_ok {source : LineSource W} (hr : openSource s.world = (.ok source, w)) :
    sh.converse openSource s =
      let (code, reading, t) := sh.loop source { s with world := w }
      ({ result := .ok code, reading := some reading }, t) := by
  simp only [converse, Action.run_call hr]

end Interpreter

namespace Host.Over

open Interpreter

variable {π : V → W} {h' : Host V} {h : Host W}

theorem tell (above : Host.Over π h' h) (event : Event) (s : State V) :
    (standard h).tell event (s.through π) = ((standard h').tell event s).through π :=
  above.act (.tell event) s

theorem report (above : Host.Over π h' h) (kind : Kind) (message : String) (item : Option String)
    (s : State V) : (standard h).report kind message item (s.through π) =
      ((standard h').report kind message item s).through π :=
  congrArg Prod.snd (above.planned (planned_report kind message item) s)

theorem dispatch (above : Host.Over π h' h) (words : List String) (s : State V) :
    (standard h).dispatch words (s.through π) = seen π ((standard h').dispatch words s) :=
  above.planned (planned_dispatch words) s

theorem changeDir (above : Host.Over π h' h) (path : String) (s : State V) :
    (standard h).changeDir path (s.through π) = seen π ((standard h').changeDir path s) :=
  above.planned (planned_changeDir path) s

theorem enterHome (above : Host.Over π h' h) (s : State V) :
    (standard h).enterHome (s.through π) = seen π ((standard h').enterHome s) :=
  above.changeDir s.session.home s

theorem respondAll_words (above : Host.Over π h' h) (lists : List (List String)) (s : State V) :
    (standard h).respondAll (lists.map .words) (s.through π) =
      ((standard h').respondAll (lists.map .words) s).through π := by
  induction lists generalizing s with
  | nil => rfl
  | cons words rest ih =>
    have hwords := congrArg Prod.snd (above.dispatch words s)
    simp only [List.map_cons, Interpreter.respondAll, respond, hwords]
    exact ih _

theorem afterRound (above : Host.Over π h' h) (token : Token) (s : State V) :
    (standard h).afterRound token (s.through π) =
      ((standard h').afterRound token s).through π := by
  unfold Interpreter.afterRound
  split
  · have htell := above.tell (.restarted s.session.code) s
    exact congrArg (fun t : State W => { t with session := t.session.reset }) htell
  · rfl

theorem readLines (above : Host.Over π h' h) {showPrompt' : String → V → V}
    {showPrompt : String → W → W}
    (hshow : ∀ prompt v, showPrompt prompt (π v) = π (showPrompt' prompt v))
    {supply' : Supply V} {supply : Supply W} (hsupply : supply'.Over π supply) (s : State V) :
    (standard h).readLines showPrompt supply (s.through π) =
      seen π ((standard h').readLines showPrompt' supply' s) := by
  have hprompted (s : State V) :
      prompted showPrompt (s.through π) = (prompted showPrompt' s).through π :=
    congrArg (State.mk s.session s.errors) (hshow s.session.prompt s.world)
  induction hsupply generalizing s with
  | ended ending =>
    have htell := above.tell ending.event (prompted showPrompt' s)
    rw [← hprompted] at htell
    exact congrArg (Prod.mk _) htell
  | @ask look' look after' after _ hafter ih =>
    show (standard h).readLines showPrompt (look (π s.world))
      ⟨s.session, s.errors, after (π s.world)⟩ = _
    rw [hafter]
    exact ih s.world { s with world := after' s.world }
  | @line text rest' rest hrest ih =>
    have hanswer := above.dispatch (tokenize text) (prompted showPrompt' s)
    rw [← hprompted, ← runLine, ← runLine] at hanswer
    cases hr : (standard h').runLine text (prompted showPrompt' s) with
    | mk token t =>
      rw [hr] at hanswer
      cases ht : token.isTerminal with
      | true =>
        rw [readLines_of_terminal hr ht, readLines_of_terminal hanswer ht, hrest.pending]
        rfl
      | false =>
        have hround : (standard h).readLines showPrompt rest
            ((standard h).afterRound token (t.through π)) = _ :=
          (congrArg _ (above.afterRound token t)).trans (ih _)
        rw [readLines_of_not_terminal hr ht, readLines_of_not_terminal hanswer ht, hround]
        rfl

theorem shutdown (above : Host.Over π h' h) (s : State V) :
    (standard h).shutdown (s.through π) = ((standard h').shutdown s).through π :=
  congrArg (fun t : State W => { t with errors := t.errors.clear })
    (above.tell (.logCleared s.errors.count) s)

/-- The code and what was read are the same, and the state shows as the other one. -/
theorem loop (above : Host.Over π h' h) {source' : LineSource V} {source : LineSource W}
    (hsource : source'.Over π source) (s : State V) :
    (standard h).loop source (s.through π) =
      let (code, reading, t) := (standard h').loop source' s
      (code, reading, t.through π) := by
  have hread := above.readLines hsource.showPrompt hsource.supply s
  simp only [Interpreter.loop, hread, seen, above.shutdown]
  rfl

theorem converse (above : Host.Over π h' h) {openSource' : Attempt V (LineSource V)}
    {openSource : Attempt W (LineSource W)} (hopen : Opener.Over π openSource' openSource)
    (s : State V) :
    (standard h).converse openSource (s.through π) =
      seen π ((standard h').converse openSource' s) := by
  have hanswer := hopen.answer s.world
  have hworld := hopen.world s.world
  cases hr' : openSource' s.world with
  | mk answer' v =>
    cases hr : openSource (s.through π).world with
    | mk answer w =>
      have hr₁ : openSource (π s.world) = (answer, w) := hr
      rw [hr', hr₁] at hanswer hworld
      obtain rfl : w = π v := hworld
      cases hanswer with
      | error cause =>
        rw [converse_of_error hr, converse_of_error hr']
        rfl
      | @ok source' source hsource =>
        have hloop := above.loop hsource { s with world := v }
        rw [State.through] at hloop
        rw [converse_of_ok hr, converse_of_ok hr', State.through, hloop]
        rfl

theorem announce (above : Host.Over π h' h) (lines : List String) (code : Session → ReturnCode)
    (s : State V) :
    (standard h).announce lines (code ·.session) (s.through π) =
      seen π ((standard h').announce lines (code ·.session) s) := by
  have hlines : (h.printAll lines).run (s.through π) = _ := above.planned (.printAll lines) s
  simp only [Interpreter.announce, standard, hlines, seen]
  cases (h'.printAll lines).run s with
  | mk result t => cases result <;> rfl

/-- An invocation comes to the same, and what it leaves shows as the other one. -/
theorem launch (above : Host.Over π h' h) (invocation : Invocation)
    {openSource' : Attempt V (LineSource V)} {openSource : Attempt W (LineSource W)}
    (hopen : Opener.Over π openSource' openSource) (s : State V) :
    (standard h).launch invocation openSource (s.through π) =
      seen π ((standard h').launch invocation openSource' s) := by
  simp only [Interpreter.launch, above.tell]
  generalize (standard h').tell (.launching invocation) s = t
  cases invocation with
  | interactive =>
    simp only [launchInteractive, above.enterHome, seen]
    cases (standard h').enterHome t with
    | mk result u =>
      cases result with
      | ok _ => exact above.converse hopen u
      | error cause =>
        simp only [above.tell]
        exact above.converse hopen _
  | directory path =>
    simp only [launchIn, above.changeDir, seen]
    cases (standard h').changeDir path t with
    | mk result u =>
      cases result with
      | ok _ => exact above.converse hopen u
      | error cause =>
        simp only [above.tell, above.report]
        rfl
  | command words =>
    simp only [launchCommand]
    split
    · simp only [above.report, conclude, above.shutdown]
      rfl
    · simp only [above.dispatch, seen, conclude, above.shutdown]
      rfl
  | version => exact above.announce Standard.versionLines (fun _ => 0) t
  | help text => exact above.announce (textLines text) (fun _ => 0) t
  | invalid text =>
    simp only [above.report]
    exact above.announce (textLines text) Session.code _

end Host.Over

/-! ## Sources that are recorded -/

def Supply.journaled : Supply W → Supply (Journal W)
  | .ended ending => .ended ending
  | .line text rest => .line text rest.journaled
  | .ask look after =>
    .ask (fun j => (look j.world).journaled) fun j => { j with world := after j.world }

def LineSource.journaled (source : LineSource W) : LineSource (Journal W) where
  supply := source.supply.journaled
  showPrompt prompt j := { j with world := source.showPrompt prompt j.world }

def Input.journaled : Input W → Input (Journal W)
  | .words argv => .words argv
  | .line text => .line text
  | .lines source => .lines source.journaled

theorem Supply.over_journaled (supply : Supply W) :
    Supply.Over Journal.world supply.journaled supply := by
  induction supply with
  | ended ending => exact .ended ending
  | line text rest ih => exact .line text ih
  | ask look after ih => exact .ask (fun j => ih j.world) fun _ => rfl

theorem LineSource.over_journaled (source : LineSource W) :
    LineSource.Over Journal.world source.journaled source :=
  ⟨source.supply.over_journaled, fun _ _ => rfl⟩

/-! ## A journal changes nothing -/

namespace Interpreter

def forgetting (result : α × State (Journal W)) : α × State W := (result.1, result.2.forget)

variable (h : Host W)

theorem forgetting_dispatch (words : List String) (s : State (Journal W)) :
    forgetting ((standard h.journaled).dispatch words s) =
      (standard h).dispatch words s.forget := (h.over_journaled.dispatch words s).symm

theorem forget_respond (input : Input W) (s : State (Journal W)) :
    ((standard h.journaled).respond input.journaled s).forget =
      (standard h).respond input s.forget := by
  cases input with
  | words argv => exact congrArg Prod.snd (forgetting_dispatch h argv s)
  | line text => exact congrArg Prod.snd (forgetting_dispatch h (tokenize text) s)
  | lines source =>
    have read := h.over_journaled.readLines source.over_journaled.showPrompt
      source.over_journaled.supply s
    exact (congrArg Prod.snd read).symm

/-- A run on the host with the journal is the run on the host. -/
theorem forget_respondAll (inputs : List (Input W)) (s : State (Journal W)) :
    ((standard h.journaled).respondAll (inputs.map Input.journaled) s).forget =
      (standard h).respondAll inputs s.forget := by
  induction inputs generalizing s with
  | nil => rfl
  | cons input rest ih =>
    rw [List.map_cons, respondAll, ih, forget_respond, respondAll]

end Interpreter

/-! ## The calls of a run -/

/-- The calls that a dispatch makes. -/
def Host.callsOf (h : Host W) (words : List String) (s : State W) : List Entry :=
  ((Interpreter.standard h.journaled).dispatch words s.journaled).2.world.entries

def Host.callsOfRun (h : Host W) (inputs : List (Input W)) (s : State W) : List Entry :=
  ((Interpreter.standard h.journaled).respondAll (inputs.map Input.journaled)
    s.journaled).world.entries

namespace Interpreter

/-- The calls of a dispatch are those of its command, which is run once it has been told. -/
theorem calls_command (h : Host W) {words operands : List String} {b : Builtin}
    (hb : Errand.ofWords words = .command b operands) (s : State W) :
    ∃ event synopses name, ∀ ds,
      let t := (standard h.journaled).tell event s.journaled
      Course h.journaled t ds
        (((b.command h.journaled).execute synopses name operands).run t).2 →
      h.callsOf words s = entriesOf ds := by
  obtain ⟨event, synopses, name, after, ended, still⟩ := course_dispatch h.journaled hb s.journaled
  refine ⟨event, synopses, name, ?_⟩
  intro ds t course
  have begun : Course h.journaled s.journaled [.tell event] t := .single (.tell _ event)
  have hcalls : h.callsOf words s = entriesOf ([.tell event] ++ ds ++ after) :=
    ((begun.append course).append ended).entries
  rw [hcalls, entriesOf_between (by simp [Deed.Still]) still]

/-- A dispatch that changes the directory makes the calls of a movement and no others. -/
theorem calls_movement (h : Host W) {words operands : List String}
    (hcd : Errand.ofWords words = .command .cd operands) (s : State W) :
    ∃ before ds after,
      Course h.journaled s.journaled (before ++ ds ++ after)
        ((standard h.journaled).dispatch words s.journaled).2 ∧
      Movement ds ∧ (∀ d ∈ before, d.Still) ∧ (∀ d ∈ after, d.Still) ∧
      h.callsOf words s = entriesOf ds := by
  obtain ⟨before, ds, after, course, movement, hbefore, hafter⟩ :=
    movement_dispatch h.journaled hcd s.journaled
  have hcalls : h.callsOf words s = entriesOf (before ++ ds ++ after) := course.entries
  rw [entriesOf_between hbefore hafter] at hcalls
  exact ⟨before, ds, after, course, movement, hbefore, hafter, hcalls⟩

theorem session_journaled (h : Host W) (words : List String) (s : State W) :
    ((standard h.journaled).dispatch words s.journaled).2.session =
      ((standard h).dispatch words s).2.session :=
  congrArg (·.2.session) (forgetting_dispatch h words s.journaled)

end Interpreter

end LineShell
