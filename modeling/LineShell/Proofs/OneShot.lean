import LineShell.Proofs.Listener
import LineShell.Proofs.Words

/-!
# One command, given or typed in

A process may be given the words of one command, or it may read them as a line.  The two ways come
to the same for any table of commands, but that only a session starts over after a restart.  Events
and prompts differ, and so they go to a listener, and the commands act on the world beside it.
-/

namespace LineShell

variable {V W L α : Type}

/-! ## Commands beside a listener -/

/-- An action on a part leaves the rest of the world alone. -/
def Action.within (part : Part V W) (x : Action W α) : Action V α := fun s =>
  let (result, t) := x.run (s.through part.get)
  (result, { session := t.session, errors := t.errors, world := part.set t.world s.world })

def Command.within (part : Part V W) (command : Command W) : Command V where
  toSynopsis := command.toSynopsis
  execute synopses name operands := .within part (command.execute synopses name operands)

def Registry.within (part : Part V W) (r : Registry W) : Registry V where
  commands := r.commands.map (Command.within part)
  index := r.index

theorem Registry.resolve_within (part : Part V W) (r : Registry W) (name : String) :
    (r.within part).resolve name = (r.resolve name).map (Command.within part) := by
  have hslot : (r.within part).slot? name = r.slot? name := rfl
  unfold resolve
  rw [hslot]
  cases r.slot? name with
  | none => rfl
  | some slot => exact List.getElem?_map

theorem Registry.synopses_within (part : Part V W) (r : Registry W) :
    (r.within part).synopses = r.synopses := by
  refine Alike.synopses_eq ⟨rfl, ?_⟩
  simp only [within, List.map_map]
  rfl

namespace Interpreter

/-- The interpreter whose events go to a listener. -/
def overheard (sh : Interpreter W) (listen : Event → L → L) : Interpreter (Overheard W L) where
  host := sh.host.overheard listen
  commands := sh.commands.within Overheard.part

def deaf (sh : Interpreter W) : Interpreter W := { sh with host := sh.host.deaf }

section

variable (sh : Interpreter W) (listen : Event → L → L)

/-- The shell is asked in the same way whatever commands there are. -/
theorem runExternal_eq (line : String) (s : State W) :
    sh.runExternal line s = (standard sh.host).runExternal line s := by
  simp only [runExternal, report, tell, standard]

theorem runExternal_overheard (line : String) (s : State (Overheard W L)) :
    sh.deaf.runExternal line (s.through Overheard.world) =
      seen Overheard.world ((sh.overheard listen).runExternal line s) := by
  have hhost : sh.deaf.host = sh.host.deaf := rfl
  have hhost' : (sh.overheard listen).host = sh.host.overheard listen := rfl
  rw [sh.deaf.runExternal_eq, (sh.overheard listen).runExternal_eq, hhost, hhost']
  exact (sh.host.over_overheard listen).planned (planned_runExternal line) s

theorem runCommand_overheard (command : Command W) (name : String) (operands : List String)
    (s : State (Overheard W L)) :
    sh.deaf.runCommand command name operands (s.through Overheard.world) =
      seen Overheard.world
        ((sh.overheard listen).runCommand (command.within Overheard.part) name operands s) := by
  have hsynopses : (sh.overheard listen).commands.synopses = sh.deaf.commands.synopses :=
    Registry.synopses_within Overheard.part sh.commands
  have hrun : seen Overheard.world
      (((command.within Overheard.part).execute sh.deaf.commands.synopses name operands).run
        ((sh.overheard listen).tell
          (.commandStarted (command.names.headD name) operands.length) s)) =
      (command.execute sh.deaf.commands.synopses name operands).run
        (s.through Overheard.world) := rfl
  have hnames : (command.within Overheard.part (V := Overheard W L)).names = command.names := rfl
  have htell (event : Event) (t : State W) : sh.deaf.tell event t = t := rfl
  simp only [runCommand, hsynopses, hnames, htell]
  rw [← hrun]
  -- Behind the command there is only the failure to be told, if it broke off.
  cases ((command.within Overheard.part).execute sh.deaf.commands.synopses name operands).run
      ((sh.overheard listen).tell
        (.commandStarted (command.names.headD name) operands.length) s) with
  | mk result t =>
    cases result with
    | ok token => rfl
    | error cause => rfl

/-- What a dispatch does beside a listener is what it does without one. -/
theorem dispatch_overheard (words : List String) (s : State (Overheard W L)) :
    sh.deaf.dispatch words (s.through Overheard.world) =
      seen Overheard.world ((sh.overheard listen).dispatch words s) := by
  have hanswer : sh.deaf.answer words (s.through Overheard.world) =
      seen Overheard.world ((sh.overheard listen).answer words s) := by
    cases words with
    | nil => rfl
    | cons name operands =>
      have hresolve : (sh.overheard listen).commands.resolve name =
          (sh.commands.resolve name).map (Command.within Overheard.part) :=
        Registry.resolve_within Overheard.part sh.commands name
      simp only [answer, hresolve, deaf]
      cases sh.commands.resolve name with
      | none =>
        exact sh.runExternal_overheard listen (joinWords (name :: operands)) s
      | some command => exact sh.runCommand_overheard listen command name operands s
  simp only [dispatch, hanswer]
  rfl

/-- Who listens has no part in a dispatch. -/
theorem dispatch_unheard (words : List String) {s t : State (Overheard W L)}
    (same : t.through Overheard.world = s.through Overheard.world) :
    let (token, u) := (sh.overheard listen).dispatch words s
    let (token', u') := (sh.overheard listen).dispatch words t
    token' = token ∧ u'.session = u.session ∧ u'.world.world = u.world.world := by
  have hseen : seen Overheard.world ((sh.overheard listen).dispatch words t) =
      seen Overheard.world ((sh.overheard listen).dispatch words s) := by
    rw [← dispatch_overheard, ← dispatch_overheard, same]
  have htoken := congrArg Prod.fst hseen
  have hleft := congrArg Prod.snd hseen
  exact ⟨htoken, congrArg (·.session) hleft, congrArg (·.world) hleft⟩

end

/-! ## The two ways -/

section

variable (sh : Interpreter W) (listen : Event → L → L)

theorem session_afterRound (token : Token) (s : State W) :
    (sh.afterRound token s).session =
      if token = .restart then s.session.reset else s.session := by
  unfold afterRound
  split <;> rfl

theorem world_afterRound_overheard (token : Token) (s : State (Overheard W L)) :
    ((sh.overheard listen).afterRound token s).world.world = s.world.world := by
  unfold afterRound
  split <;> rfl

/-- A session over one line dispatches its words, and it starts over if they ask for that. -/
theorem loop_single (showPrompt : String → L → L) (ending : Ending) (line : String)
    (s : State (Overheard W L)) :
    let run := (sh.overheard listen).loop (.typed showPrompt ending [line]) s
    let (token, t) := (sh.overheard listen).dispatch (tokenize line) s
    run.1 = run.2.2.session.code ∧ run.2.2.errors = {} ∧
      run.2.2.world.world = t.world.world ∧
      run.2.2.session = if token = .restart then t.session.reset else t.session := by
  let hear : String → Overheard W L → Overheard W L :=
    fun prompt v => { v with heard := showPrompt prompt v.heard }
  have hsame := sh.dispatch_unheard listen (tokenize line) (s := s) (t := prompted hear s) rfl
  cases hd : (sh.overheard listen).dispatch (tokenize line) s with
  | mk token t =>
    cases hd' : (sh.overheard listen).dispatch (tokenize line) (prompted hear s) with
    | mk token' t' =>
      have hr : (sh.overheard listen).runLine line (prompted hear s) = (token', t') := hd'
      rw [hd, hd'] at hsame
      obtain ⟨rfl, hsession, hworld⟩ := hsame
      simp only [loop, LineSource.typed, Supply.ofLines]
      rw [← hworld, ← hsession]
      cases ht : token'.isTerminal with
      | true =>
        have hne : token' ≠ .restart := by
          rintro rfl
          cases ht
        rw [readLines_of_terminal hr ht, if_neg hne]
        exact ⟨rfl, rfl, rfl, rfl⟩
      | false =>
        rw [readLines_of_not_terminal hr ht, ← session_afterRound (sh.overheard listen)]
        exact ⟨rfl, rfl, world_afterRound_overheard sh listen token' t', rfl⟩

theorem launch_commandFlag (words : List String) (openSource : Attempt W (LineSource W))
    (s : State W) :
    sh.launch (.ofArgs ("-c" :: words)) openSource s =
      sh.launchCommand words (sh.tell (.launching (.command words)) s) := by
  rw [Invocation.ofArgs_command (by decide)]
  rfl

theorem launchCommand_of_ne_nil {words : List String} (hne : words ≠ []) (s : State W) :
    sh.launchCommand words s =
      ({ result := .ok (sh.dispatch words s).2.session.code, reading := none },
        sh.shutdown (sh.dispatch words s).2) := by
  have hempty : words.isEmpty = false := List.isEmpty_eq_false_iff.mpr hne
  simp only [launchCommand, conclude, hempty, Bool.false_eq_true, if_false]

theorem session_report (kind : Kind) (message : String) (item : Option String) (s : State W) :
    (sh.report kind message item s).session = s.session := by
  have hfail : ((sh.host.fail kind message item).run s).2.session = s.session := rfl
  cases hr : (sh.host.fail kind message item).run s with
  | mk result t =>
    rw [hr] at hfail
    cases result with
    | ok _ =>
      rw [report_of_ok hr]
      exact hfail
    | error cause =>
      rw [report_of_error hr]
      exact hfail

end

/-- The words of a command come to the same whether they are given to the process or typed in as
the only line of a session, for any commands there may be: the world is left the same, the journal
of the calls included, and so is the session, up to the last token and, after a restart, the code.
A command that is given is dispatched as it is, even if its words are no words of a line; but there
has to be one, and none is refused without any dispatch. -/
theorem one_shot_agrees (h : Host W) (commands : Registry (Journal W)) (listen : Event → L → L)
    (showPrompt : String → L → L) (ending : Ending)
    (openSource : Attempt (Overheard (Journal W) L) (LineSource (Overheard (Journal W) L)))
    (s : State (Overheard (Journal W) L)) :
    let sh := overheard { host := h.journaled, commands } listen
    let launched words := sh.launch (.ofArgs ("-c" :: words)) openSource s
    let told words := sh.tell (.launching (.command words)) s
    (∀ words, words ≠ [] → (∀ word ∈ words, IsWord word) →
      let run := sh.loop (.typed showPrompt ending [joinWords words]) s
      let (token, left) := sh.dispatch words s
      let t := (launched words).2
      let u := run.2.2
      t.world.world = u.world.world ∧
        { t.session with code := u.session.code, last := u.session.last } = u.session ∧
        t.errors = {} ∧ u.errors = {} ∧
        (launched words).1.result = .ok left.session.code ∧ t.session.code = left.session.code ∧
        run.1 = u.session.code ∧
        u.session.code = if token = .restart then 0 else left.session.code) ∧
    (∀ words, words ≠ [] →
      let t := (sh.dispatch words (told words)).2
      launched words = ({ result := .ok t.session.code, reading := none }, sh.shutdown t)) ∧
    let refused := sh.report .insufficientArguments "insufficient arguments" none (told [])
    launched [] = ({ result := .ok s.session.code, reading := none }, sh.shutdown refused) := by
  intro sh launched told
  let sh₀ : Interpreter (Journal W) := { host := h.journaled, commands }
  have hlaunched (words : List String) : launched words = sh.launchCommand words (told words) :=
    sh.launch_commandFlag words openSource s
  refine ⟨?_, ?_, ?_⟩
  · intro words hne hwords run
    have hsame := sh₀.dispatch_unheard listen words (s := s) (t := told words) rfl
    have hrun := sh₀.loop_single listen showPrompt ending (joinWords words) s
    rw [tokenize_joinWords hwords] at hrun
    rw [hlaunched, sh.launchCommand_of_ne_nil hne]
    cases hd : sh.dispatch words s with
    | mk token left =>
      cases hd' : sh.dispatch words (told words) with
      | mk token' t =>
        rw [hd, hd'] at hsame
        rw [hd] at hrun
        obtain ⟨hcode, herrors, hworld, hsession⟩ := hrun
        obtain ⟨-, hsession', hworld'⟩ := hsame
        have hrestart : run.2.2.session.code =
            if token = .restart then 0 else left.session.code := by
          rw [hsession, apply_ite Session.code]
          rfl
        refine ⟨?_, ?_, rfl, herrors, ?_, ?_, hcode, hrestart⟩
        · exact hworld'.trans hworld.symm
        · show ({ t.session with code := _, last := _ } : Session) = run.2.2.session
          rw [hsession', hsession]
          split <;> rfl
        · exact congrArg (fun x : Session => Except.ok x.code) hsession'
        · exact congrArg Session.code hsession'
  · intro words hne t
    rw [hlaunched, sh.launchCommand_of_ne_nil hne]
  · intro refused
    have hcode : refused.session = s.session := session_report sh _ _ _ _
    rw [hlaunched]
    simp only [launchCommand, List.isEmpty_nil, if_true, conclude]
    rw [← hcode]

/-- Without words there is an error line, where no words on a line call for nothing. -/
theorem one_shot_empty_refused :
    ¬ ∀ words : List String,
      let s : State (Journal String) :=
        { session := { cwd := "/", home := "/", user := "user" }, errors := {}, world := ⟨"/", []⟩ }
      let sh := standard Host.bare.journaled
      let t := (sh.dispatch words (sh.tell (.launching (.command words)) s)).2
      sh.launch (.ofArgs ("-c" :: words)) (Attempt.refuse (.system .notFound)) s =
        ({ result := .ok t.session.code, reading := none }, sh.shutdown t) := by
  intro all
  have hcalls := congrArg (fun launched => launched.2.world.entries.length) (all [])
  exact absurd hcalls (by decide +kernel)

/-- A command that asks to start over, given to a process and typed in. -/
theorem one_shot_agrees_bare :
    let again : Command (Journal String) :=
      { names := ["again"], description := "", execute := fun _ _ _ => pure .restart }
    let sh := overheard { host := Host.bare.journaled, commands := .ofList [again] }
      fun _ heard => heard + 1
    let s : State (Overheard (Journal String) Nat) :=
      { session := { cwd := "/", home := "/", user := "user", code := 5 }, errors := {},
        world := ⟨⟨"/", []⟩, 0⟩ }
    let launched :=
      sh.launch (.ofArgs ["-c", "again", "now"]) (Attempt.refuse (.system .notFound)) s
    let run := sh.loop (.typed (fun _ heard => heard) .endOfInput [joinWords ["again", "now"]]) s
    (∀ word ∈ ["again", "now"], IsWord word) ∧
      launched.2.world.world = run.2.2.world.world ∧ launched.2.session.code = 5 ∧ run.1 = 0 := by
  intro again sh s launched run
  have hwords : ∀ word ∈ ["again", "now"], IsWord word := by decide +kernel
  have agrees := (one_shot_agrees Host.bare (.ofList [again]) (fun _ heard => heard + 1)
    (fun _ heard => heard) .endOfInput (Attempt.refuse (.system .notFound)) s).1
    ["again", "now"] (by decide) hwords
  refine ⟨hwords, agrees.1, ?_, ?_⟩
  · decide +kernel
  · decide +kernel

end Interpreter
end LineShell
