import LineShell.Proofs.Projection

/-!
# A listener of its own

Events and prompts are for somebody who watches, and no command can find out what was seen of them.
An `Overheard` world is cut in two: a listener who gets the events and the prompts, and the rest,
which they leave alone.  A host that has a listener shows as one that is deaf to events, and a
session with prompts shows as one without.

Of each line that a loop reads there is something to be seen: the prompt before it, the token that
it gives and the error log that it leaves.  These are the turns of the loop, and two loops that have
the same turns and make the same calls cannot be told apart.  What is seen of a loop with a listener
is what is seen of the quiet one on the host that is deaf: `loop_overheard`.
-/

namespace LineShell

variable {V W L : Type}

/-- A world and somebody who listens to what goes on there. -/
structure Overheard (W L : Type) where
  world : W
  heard : L

def Overheard.part : Part (Overheard W L) W where
  get v := v.world
  set world v := { v with world }

/-- The host whose events go to a listener and change nothing else. -/
def Host.overheard (h : Host W) (listen : Event → L → L) : Host (Overheard W L) where
  toFileSystem := h.toFileSystem.within Overheard.part
  toOutput := h.toOutput.within Overheard.part
  toExecutor := h.toExecutor.within Overheard.part
  note event v := { v with heard := listen event v.heard }
  pause seconds v := { v with world := h.pause seconds v.world }

/-- The host that does not listen to events. -/
def Host.deaf (h : Host W) : Host W := { h with note := fun _ w => w }

theorem Host.perform_deaf (h : Host W) (c : Call) : h.deaf.perform c = h.perform c := by
  cases c with
  | edit edit path => cases edit <;> rfl
  | _ => rfl

theorem Host.note_deaf_journaled (h : Host W) (event : Event) (j : Journal W) :
    h.deaf.journaled.note event j = j := rfl

theorem Host.over_overheard (h : Host W) (listen : Event → L → L) :
    Host.Over Overheard.world (h.overheard listen) h.deaf where
  perform c v := by
    cases c with
    | edit edit path => cases edit <;> rfl
    | _ => rfl
  note _ _ := rfl
  pause _ _ := rfl

namespace Interpreter

variable {h : Host W} (deaf : ∀ event w, h.note event w = w)

include deaf

theorem tell_deaf (event : Event) (s : State W) : (standard h).tell event s = s := by
  rw [tell]
  exact congrArg (State.mk s.session s.errors) (deaf event s.world)

theorem dispatch_of_ok {name : String} {b : Builtin} (ho : Builtin.ofName? name = some b)
    {operands : List String} {token : Token} {s t : State W}
    (hr : ∀ synopses, ((b.command h).execute synopses name operands).run s = (.ok token, t)) :
    (standard h).dispatch (name :: operands) s = (token, keep token t) := by
  have hanswer : (standard h).answer (name :: operands) s = (token, t) := by
    rw [answer_of_command h ho]
    refine runCommand_of_ok ?_
    rw [tell_deaf deaf]
    exact hr _
  simp only [dispatch, hanswer, tell_deaf deaf]

end Interpreter

/-! ## Prompts -/

/-- Lines that are typed in, with prompts for the listener. -/
def LineSource.typed (showPrompt : String → L → L) (ending : Ending) (lines : List String) :
    LineSource (Overheard W L) where
  supply := .ofLines ending lines
  showPrompt prompt v := { v with heard := showPrompt prompt v.heard }

/-- Lines without prompts. -/
def LineSource.quiet (ending : Ending) (lines : List String) : LineSource W where
  supply := .ofLines ending lines
  showPrompt _ w := w

theorem Supply.over_ofLines (π : V → W) (ending : Ending) (lines : List String) :
    Supply.Over π (.ofLines ending lines) (.ofLines ending lines) := by
  induction lines with
  | nil => exact .ended ending
  | cons text rest ih => exact .line text ih

theorem Supply.journaled_ofLines (ending : Ending) (lines : List String) :
    (Supply.ofLines ending lines : Supply W).journaled = .ofLines ending lines := by
  induction lines with
  | nil => rfl
  | cons text rest ih => exact congrArg (Supply.line text) ih

theorem LineSource.over_quiet (showPrompt : String → L → L) (ending : Ending)
    (lines : List String) :
    LineSource.Over (Journal.map Overheard.world) (typed (W := W) showPrompt ending lines).journaled
      (quiet ending lines) where
  supply := by
    rw [journaled, typed, Supply.journaled_ofLines]
    exact Supply.over_ofLines _ ending lines
  showPrompt _ _ := rfl

/-! ## The turns of a loop -/

/-- What can be seen of a line that was read. -/
structure Turn where
  /-- What was shown before the line. -/
  prompt : String
  /-- What the line asked of the loop. -/
  token : Token
  /-- The log that the line left. -/
  errors : ErrorLog

namespace Interpreter

def turn (sh : Interpreter W) (line : String) (r : Round W) : Turn :=
  let (token, t) := sh.runLine line r.typed
  { prompt := r.before.session.prompt, token, errors := t.errors }

/-- The turns of a loop, one for each line that it reads. -/
def turns (sh : Interpreter W) (showPrompt : String → W → W) (supply : Supply W) (s : State W) :
    List Turn :=
  List.zipWith sh.turn (sh.linesRead showPrompt supply s) (sh.rounds showPrompt supply s)

section

variable {sh : Interpreter W} {showPrompt : String → W → W} {text : String} {rest : Supply W}
  {s t : State W} {token : Token}

theorem turns_of_terminal (hr : sh.runLine text (prompted showPrompt s) = (token, t))
    (ht : token.isTerminal = true) :
    sh.turns showPrompt (.line text rest) s = [⟨s.session.prompt, token, t.errors⟩] := by
  rw [turns, linesRead_of_terminal hr ht, rounds_of_terminal hr ht]
  simp only [List.zipWith_cons_cons, List.zipWith_nil_left, turn, hr]

theorem turns_of_not_terminal (hr : sh.runLine text (prompted showPrompt s) = (token, t))
    (ht : token.isTerminal = false) :
    sh.turns showPrompt (.line text rest) s =
      ⟨s.session.prompt, token, t.errors⟩ :: sh.turns showPrompt rest (sh.afterRound token t) := by
  rw [turns, linesRead_of_not_terminal hr ht, rounds_of_not_terminal hr ht]
  simp only [List.zipWith_cons_cons, turn, hr]
  rfl

end

/-- The prompts that are shown before lines are those of the turns. -/
theorem take_prompts (sh : Interpreter W) (showPrompt : String → W → W) (ending : Ending)
    (lines : List String) (s : State W) :
    (sh.readLines showPrompt (.ofLines ending lines) s).1.prompts.take lines.length =
      (sh.turns showPrompt (.ofLines ending lines) s).map Turn.prompt := by
  induction lines generalizing s with
  | nil => rfl
  | cons line rest ih =>
    cases hr : sh.runLine line (prompted showPrompt s) with
    | mk token t =>
      cases ht : token.isTerminal with
      | true =>
        rw [Supply.ofLines, readLines_of_terminal hr ht, turns_of_terminal hr ht]
        simp
      | false =>
        rw [Supply.ofLines, readLines_of_not_terminal hr ht, turns_of_not_terminal hr ht]
        exact congrArg (s.session.prompt :: ·) (ih (sh.afterRound token t))

end Interpreter

/-! ## Turns through a map of the worlds -/

open Interpreter in
/-- A host over another one has the same turns. -/
theorem Host.Over.turns {π : V → W} {h' : Host V} {h : Host W} (above : Host.Over π h' h)
    {showPrompt' : String → V → V} {showPrompt : String → W → W}
    (hshow : ∀ prompt v, showPrompt prompt (π v) = π (showPrompt' prompt v))
    {supply' : Supply V} {supply : Supply W} (hsupply : supply'.Over π supply) (s : State V) :
    (standard h).turns showPrompt supply (s.through π) =
      (standard h').turns showPrompt' supply' s := by
  have hprompted (s : State V) :
      prompted showPrompt (s.through π) = (prompted showPrompt' s).through π :=
    congrArg (State.mk s.session s.errors) (hshow s.session.prompt s.world)
  induction hsupply generalizing s with
  | ended ending => rfl
  | @ask look' look after' after _ hafter ih =>
    show (standard h).turns showPrompt (look (π s.world))
      ⟨s.session, s.errors, after (π s.world)⟩ = _
    rw [hafter]
    exact ih s.world { s with world := after' s.world }
  | @line text rest' rest _ ih =>
    have hanswer := above.dispatch (tokenize text) (prompted showPrompt' s)
    rw [← hprompted, ← runLine, ← runLine] at hanswer
    cases hr : (standard h').runLine text (prompted showPrompt' s) with
    | mk token t =>
      rw [hr] at hanswer
      cases ht : token.isTerminal with
      | true =>
        rw [turns_of_terminal hr ht, turns_of_terminal hanswer ht]
        rfl
      | false =>
        have hround : (standard h).turns showPrompt rest
            ((standard h).afterRound token (t.through π)) = _ :=
          (congrArg _ (above.afterRound token t)).trans (ih _)
        rw [turns_of_not_terminal hr ht, turns_of_not_terminal hanswer ht, hround]
        rfl

/-! ## Loops with a listener -/

/-- The calls that a loop makes. -/
def Host.callsOfLoop (h : Host W) (source : LineSource W) (s : State W) : List Entry :=
  ((Interpreter.standard h.journaled).loop source.journaled s.journaled).2.2.world.entries

namespace Interpreter

/-- The turns of a loop that reads from a source. -/
def turnsOf (sh : Interpreter W) (source : LineSource W) (s : State W) : List Turn :=
  sh.turns source.showPrompt source.supply s

/-- A loop with a listener shows as the quiet loop on the deaf host, the journal of which has its
calls. -/
theorem loop_overheard (h : Host W) (listen : Event → L → L) (showPrompt : String → L → L)
    (ending : Ending) (lines : List String) (s : State (Overheard W L)) :
    let host := h.overheard listen
    let source := LineSource.typed showPrompt ending lines
    let start := (s.through Overheard.world).journaled
    let (code, reading, t) := (standard host).loop source s
    let (code', reading', t') := (standard h.deaf.journaled).loop (.quiet ending lines) start
    code = code' ∧ reading = reading' ∧ t.session = t'.session ∧ t.world.world = t'.world.world ∧
      host.callsOfLoop source s = t'.world.entries ∧
      (standard host).turnsOf source s =
        (standard h.deaf.journaled).turnsOf (.quiet ending lines) start := by
  intro host source start
  -- Both loops show as the one with a listener and a journal.
  have above := (h.over_overheard listen).journaled
  have hquiet := LineSource.over_quiet (W := W) showPrompt ending lines
  have hloop : (standard host).loop source s = _ :=
    host.over_journaled.loop source.over_journaled s.journaled
  have hloop' : (standard h.deaf.journaled).loop (.quiet ending lines) start = _ :=
    above.loop hquiet s.journaled
  have hturns : (standard host).turnsOf source s = _ :=
    host.over_journaled.turns source.over_journaled.showPrompt source.over_journaled.supply
      s.journaled
  have hturns' : (standard h.deaf.journaled).turnsOf (.quiet ending lines) start = _ :=
    above.turns hquiet.showPrompt hquiet.supply s.journaled
  rw [hloop, hloop']
  exact ⟨rfl, rfl, rfl, rfl, rfl, hturns.trans hturns'.symm⟩

end Interpreter

end LineShell
