import LineShell.Process
import LineShell.Proofs.Execution
import LineShell.Proofs.Habit
import LineShell.Proofs.Passage

/-!
# Records and the events that tell of them

A record is never pushed in silence, and nothing tells of a record that was not pushed.  Three
places push, each of which tells of it in its own words, and a log is cleared only when there is
nothing left to push.  So whoever keeps what is told has a list of the records of a process:
`positions_of_process` says that the events with a position tell of the records one by one and in
order, and that the first event to tell of a cleared log, if there is one, has their number.  Of the
host this asks only that the rest of it tells nothing of that kind on its own.

A log that was cleared is gone, so the records of a process are those in the state that it has
`worked` its way to, before it clears anything.
-/

namespace LineShell

variable {W : Type}

/-! ## Work and what comes after it -/

namespace Interpreter

/-- The state that a session leaves before it clears its log. -/
def conversed (sh : Interpreter W) (openSource : Attempt W (LineSource W)) (s : State W) :
    State W :=
  match (Action.call openSource).run s with
  | (.error _, s) => s
  | (.ok source, s) => (sh.readLines source.showPrompt source.supply s).2

/-- The state that a launch leaves before it clears a log. -/
def worked (sh : Interpreter W) (invocation : Invocation)
    (openSource : Attempt W (LineSource W)) (s : State W) : State W :=
  let s := sh.tell (.launching invocation) s
  match invocation with
  | .interactive => sh.conversed openSource (sh.settled (sh.enterHome s))
  | .directory path =>
    match sh.changeDir path s with
    | (.ok _, s) => sh.conversed openSource s
    | (.error cause, s) =>
      sh.report .invalidData "invalid directory" (some path) (sh.tell (.startRefused cause path) s)
  | .command words =>
    if words.isEmpty then
      sh.report .insufficientArguments "insufficient arguments" none s
    else (sh.dispatch words s).2
  | .version => ((sh.host.printAll Standard.versionLines).run s).2
  | .help text => ((sh.host.printAll (textLines text)).run s).2
  | .invalid text =>
    let s := sh.report .invalidArguments "invalid arguments" none s
    ((sh.host.printAll (textLines text)).run s).2

theorem snd_announce (sh : Interpreter W) (lines : List String) (code : State W → ReturnCode)
    (s : State W) : (sh.announce lines code s).2 = ((sh.host.printAll lines).run s).2 := by
  unfold announce
  cases (sh.host.printAll lines).run s with
  | mk told t => cases told <;> rfl

theorem snd_converse (sh : Interpreter W) (openSource : Attempt W (LineSource W)) (s : State W) :
    (sh.converse openSource s).2 = sh.conversed openSource s ∨
      (∃ code, (sh.converse openSource s).1.result = .ok code) ∧
        (sh.converse openSource s).2 = sh.shutdown (sh.conversed openSource s) := by
  unfold converse conversed
  cases (Action.call openSource).run s with
  | mk answer t =>
    cases answer with
    | error cause => exact .inl rfl
    | ok source => exact .inr ⟨⟨_, rfl⟩, rfl⟩

/-- A launch leaves what it has worked its way to, or this with its log cleared.  In the second case
it gives a code. -/
theorem snd_launch (sh : Interpreter W) (invocation : Invocation)
    (openSource : Attempt W (LineSource W)) (s : State W) :
    (sh.launch invocation openSource s).2 = sh.worked invocation openSource s ∨
      (∃ code, (sh.launch invocation openSource s).1.result = .ok code) ∧
        (sh.launch invocation openSource s).2 =
          sh.shutdown (sh.worked invocation openSource s) := by
  cases invocation with
  | interactive =>
    have launched := sh.launchInteractive_eq openSource (sh.tell (.launching .interactive) s)
    simp only [launch, worked, launched]
    exact sh.snd_converse openSource _
  | directory path =>
    simp only [launch, launchIn, worked]
    cases sh.changeDir path (sh.tell (.launching (.directory path)) s) with
    | mk result t =>
      cases result with
      | ok _ => exact sh.snd_converse openSource t
      | error cause => exact .inl rfl
  | command words => exact .inr ⟨⟨_, rfl⟩, rfl⟩
  | version => exact .inl (sh.snd_announce _ _ _)
  | help text => exact .inl (sh.snd_announce _ _ _)
  | invalid text => exact .inl (sh.snd_announce _ _ _)

/-- How a process may end that has worked its way to a state: with a failure and its log as it is,
or with a code, after it has cleared its log once or twice. -/
inductive Ended (sh : Interpreter W) (u : State W) : Except Failure ReturnCode × State W → Prop
  | failed (cause : Failure) : Ended sh u (.error cause, u)
  | cleared (code : ReturnCode) : Ended sh u (.ok code, sh.shutdown u)
  | clearedTwice (code : ReturnCode) : Ended sh u (.ok code, sh.shutdown (sh.shutdown u))

theorem Ended.left {sh : Interpreter W} {u t : State W} {result : Except Failure ReturnCode}
    (ended : Ended sh u (result, t)) :
    (∃ cause, result = .error cause) ∧ t = u ∨
      (∃ code, result = .ok code) ∧ (t = sh.shutdown u ∨ t = sh.shutdown (sh.shutdown u)) := by
  cases ended with
  | failed cause => exact .inl ⟨⟨cause, rfl⟩, rfl⟩
  | cleared code => exact .inr ⟨⟨code, rfl⟩, .inl rfl⟩
  | clearedTwice code => exact .inr ⟨⟨code, rfl⟩, .inr rfl⟩

theorem ended_process (sh : Interpreter W) (invocation : Invocation)
    (openSource : Attempt W (LineSource W)) (s : State W) :
    sh.Ended (sh.worked invocation openSource (sh.tell (.starting Standard.versionNumber) s))
      (sh.process invocation openSource s) := by
  let started := sh.tell (.starting Standard.versionNumber) s
  have left := sh.snd_launch invocation openSource started
  simp only [process]
  cases hr : sh.launch invocation openSource started with
  | mk outcome t =>
    rw [hr] at left
    cases hresult : outcome.result with
    | ok code =>
      rcases left with rfl | ⟨-, rfl⟩
      · exact .cleared code
      · exact .clearedTwice code
    | error cause =>
      rcases left with rfl | ⟨⟨code, hcode⟩, -⟩
      · exact .failed cause
      · cases hresult.symm.trans hcode

section

variable {h : Host W} (works : h.OutputWorks)

include works

theorem announce_of_works (lines : List String) (code : State W → ReturnCode) (s : State W) :
    ∃ c, ((standard h).announce lines code s).1.result = .ok c := by
  obtain ⟨t, printed⟩ := Action.Does.printAll_of_works works lines s
  simp only [announce, standard, printed.run]
  exact ⟨_, rfl⟩

/-- A launch gives a code if its input can be opened and its output works. -/
theorem launch_of_works {openSource : Attempt W (LineSource W)}
    (opens : ∀ w, ∃ source, (openSource w).1 = .ok source) (invocation : Invocation)
    (s : State W) : ∃ c, ((standard h).launch invocation openSource s).1.result = .ok c := by
  have conversed (t : State W) :
      ∃ c, ((standard h).converse openSource t).1.result = .ok c := by
    obtain ⟨source, hopen⟩ := opens t.world
    have hr : openSource t.world = (.ok source, (openSource t.world).2) := Prod.ext hopen rfl
    rw [converse_of_ok hr]
    exact ⟨_, rfl⟩
  cases invocation with
  | interactive =>
    simp only [launch, launchInteractive_eq]
    exact conversed _
  | directory path =>
    simp only [launch, launchIn]
    cases (standard h).changeDir path ((standard h).tell (.launching (.directory path)) s) with
    | mk result t =>
      cases result with
      | ok _ => exact conversed t
      | error cause => exact ⟨_, rfl⟩
  | command words => exact ⟨_, rfl⟩
  | version => exact announce_of_works works _ _ _
  | help text => exact announce_of_works works _ _ _
  | invalid text => exact announce_of_works works _ _ _

theorem process_of_works {openSource : Attempt W (LineSource W)}
    (opens : ∀ w, ∃ source, (openSource w).1 = .ok source) (invocation : Invocation)
    (s : State W) : ∃ code, ((standard h).process invocation openSource s).1 = .ok code := by
  let started := (standard h).tell (.starting Standard.versionNumber) s
  obtain ⟨code, hcode⟩ := launch_of_works works opens invocation started
  simp only [process]
  cases hr : (standard h).launch invocation openSource started with
  | mk outcome t =>
    rw [hr] at hcode
    rw [hcode]
    exact ⟨code, rfl⟩

end
end Interpreter

namespace Habit

open Interpreter

variable {h : Host W} {R : State W → State W → Prop} {aside : W → W → Prop}
  {openSource : Attempt W (LineSource W)}

theorem conversed (habit : Habit h R) (quiet : ∀ s w, aside s.world w → R s { s with world := w })
    (within : Opens aside openSource) (s : State W) :
    R s ((standard h).conversed openSource s) := by
  obtain ⟨opening, reading⟩ := within s.world
  have opened := quiet s _ opening
  unfold Interpreter.conversed
  cases hr : openSource s.world with
  | mk answer w =>
    rw [Action.run_call hr]
    rw [hr] at opened
    cases answer with
    | error cause => exact opened
    | ok source =>
      have keeps := reading source (congrArg Prod.fst hr)
      exact habit.trans opened (habit.readLines quiet keeps.showPrompt keeps.supply _)

/-- A launch keeps a habit until it clears a log. -/
theorem worked (habit : Habit h R) (quiet : ∀ s w, aside s.world w → R s { s with world := w })
    (within : Opens aside openSource) (invocation : Invocation) (s : State W) :
    R s ((standard h).worked invocation openSource s) := by
  have plain : (Event.launching invocation).isPlain = true := rfl
  refine habit.trans (habit.tell plain s) ?_
  let t := (standard h).tell (.launching invocation) s
  have moved (path : String) : R t ((standard h).changeDir path t).2 := habit.changeDir path t
  cases invocation with
  | interactive =>
    have home := moved t.session.home
    refine habit.trans ?_ (habit.conversed quiet within _)
    show R t ((standard h).settled ((standard h).changeDir t.session.home t))
    cases hr : (standard h).changeDir t.session.home t with
    | mk result u =>
      rw [hr] at home
      cases result with
      | ok _ => exact home
      | error cause => exact habit.trans home (habit.tell rfl u)
  | directory path =>
    have there := moved path
    simp only [Interpreter.worked]
    cases hr : (standard h).changeDir path t with
    | mk result u =>
      rw [hr] at there
      cases result with
      | ok _ => exact habit.trans there (habit.conversed quiet within u)
      | error cause =>
        exact habit.trans there (habit.trans (habit.tell rfl u) (habit.report _ _ _ _))
  | command words =>
    cases words with
    | nil => exact habit.report _ _ _ t
    | cons name operands => exact habit.dispatch (name :: operands) t
  | version => exact habit.printAll _ t
  | help text => exact habit.printAll _ t
  | invalid text => exact habit.trans (habit.report _ _ _ t) (habit.printAll _ _)

end Habit

/-! ## What a listener hears -/

namespace Event

/-- Whether an event carries a position. -/
def hasPosition (event : Event) : Bool := (event.fields.lookup "position").isSome

/-- How many records there were in the log that an event says was cleared. -/
def cleared? : Event → Option Nat
  | .logCleared records => some records
  | _ => none

theorem hasPosition_of_isPlain {event : Event} (plain : event.isPlain = true) :
    event.hasPosition = false ∧ event.cleared? = none := by
  cases event <;> first | exact ⟨rfl, rfl⟩ | cases plain

theorem Announces.hasPosition {event : Event} {entry : Record × Nat}
    (announces : event.Announces entry) : event.hasPosition = true ∧ event.cleared? = none := by
  have position : event.hasPosition = true := by rw [Event.hasPosition, announces.position]; rfl
  refine ⟨position, ?_⟩
  cases event <;> first | rfl | cases position

/-- At the level of debugging everything is shown. -/
theorem level_le_debug (event : Event) : event.level.rank ≤ Level.debug.rank := by
  cases event <;> exact Nat.le_of_ble_eq_true rfl

theorem filter_eq_self_of_debug {shows : Event → Bool}
    (debug : ∀ event, event.level.rank ≤ Level.debug.rank → shows event = true)
    (events : List Event) : events.filter shows = events :=
  List.filter_eq_self.mpr fun event _ => debug event event.level_le_debug

end Event

/-- What is heard is added to what was heard before, and tells neither of a record nor of a log that
was cleared. -/
def Hears (heard : W → List Event) (w w' : W) : Prop :=
  ∃ events, heard w' = heard w ++ events ∧ ∀ event ∈ events, event.isPlain = true

theorem Hears.of_eq {heard : W → List Event} {w w' : W} (same : heard w' = heard w) :
    Hears heard w w' := ⟨[], by rw [same, List.append_nil], by simp⟩

/-- Somewhere in the world there is a list of what was told.  The capabilities may add to it what
they have to tell. -/
structure Listens (h : Host W) (heard : W → List Event) : Prop where
  note : ∀ event w, heard (h.note event w) = heard w ++ [event]
  perform : ∀ c w, Hears heard w (h.perform c w).2
  pause : ∀ seconds w, Hears heard w (h.pause seconds w)

/-- What was heard between two states, and what was recorded: the events with a position tell of the
records, one by one and in order. -/
def Announced (heard : W → List Event) (s t : State W) : Prop :=
  ∃ events records, heard t.world = heard s.world ++ events ∧
    t.errors.records = s.errors.records ++ records ∧
    List.Forall₂ Event.Announces (events.filter Event.hasPosition)
      (records.zipIdx s.errors.count) ∧
    events.filterMap Event.cleared? = []

namespace Announced

variable {heard : W → List Event} {s t u : State W}

/-- What records nothing and tells only plain events. -/
theorem of_hears (hears : Hears heard s.world t.world)
    (hrecords : t.errors.records = s.errors.records) : Announced heard s t := by
  obtain ⟨events, hevents, plain⟩ := hears
  refine ⟨events, [], hevents, by rw [hrecords, List.append_nil], ?_, ?_⟩
  · have none : events.filter Event.hasPosition = [] := by
      rw [List.filter_eq_nil_iff]
      intro event he
      simp [(Event.hasPosition_of_isPlain (plain event he)).1]
    rw [none]
    exact .nil
  · rw [List.filterMap_eq_nil_iff]
    exact fun event he => (Event.hasPosition_of_isPlain (plain event he)).2

theorem trans (first : Announced heard s t) (second : Announced heard t u) :
    Announced heard s u := by
  obtain ⟨events, records, hevents, hrecords, announce, quiet⟩ := first
  obtain ⟨events', records', hevents', hrecords', announce', quiet'⟩ := second
  refine ⟨events ++ events', records ++ records', ?_, ?_, ?_, ?_⟩
  · rw [hevents', hevents, List.append_assoc]
  · rw [hrecords', hrecords, List.append_assoc]
  · have hcount : t.errors.count = s.errors.count + records.length := by
      rw [ErrorLog.count, hrecords, List.length_append, ErrorLog.count]
    rw [hcount] at announce'
    rw [List.filter_append, List.zipIdx_append]
    exact List.rel_append announce announce'
  · rw [List.filterMap_append, quiet, quiet', List.append_nil]

end Announced

namespace Listens

variable {h : Host W} {heard : W → List Event} {openSource : Attempt W (LineSource W)}

theorem habit (listens : Listens h heard) : Habit h (Announced heard) where
  refl s := .of_hears (.of_eq rfl) rfl
  trans := .trans
  call c s := .of_hears (listens.perform c s.world) rfl
  session f s := .of_hears (.of_eq rfl) rfl
  pause seconds s := .of_hears (listens.pause seconds s.world) rfl
  tell plain s := .of_hears ⟨_, listens.note _ s.world, by simpa using plain⟩ rfl
  announce r event s announces := by
    refine ⟨[event], [r], listens.note event s.world, rfl, ?_, ?_⟩
    · simp only [List.filter_cons, announces.hasPosition.1, if_true, List.filter_nil]
      exact .cons announces .nil
    · simp [announces.hasPosition.2]

theorem announced_worked (listens : Listens h heard)
    (within : Opens (Hears heard) openSource) (invocation : Invocation) (s : State W) :
    Announced heard s ((Interpreter.standard h).worked invocation openSource
      ((Interpreter.standard h).tell (.starting Standard.versionNumber) s)) := by
  have plain : (Event.starting Standard.versionNumber).isPlain = true := rfl
  have quiet (s : State W) (w : W) (hears : Hears heard s.world w) :
      Announced heard s { s with world := w } := .of_hears hears rfl
  exact (listens.habit.tell plain s).trans (listens.habit.worked quiet within invocation _)

theorem heard_shutdown (listens : Listens h heard) (s : State W) :
    heard ((Interpreter.standard h).shutdown s).world =
      heard s.world ++ [.logCleared s.errors.count] := listens.note _ s.world

/-- What is heard once the work is done tells of cleared logs, the first of which held all records
there were. -/
theorem heard_of_ended (listens : Listens h heard) {u t : State W}
    {result : Except Failure ReturnCode}
    (ended : (Interpreter.standard h).Ended u (result, t)) :
    ∃ clearings, heard t.world = heard u.world ++ clearings ∧
      clearings.filter Event.hasPosition = [] ∧
      (clearings.filterMap Event.cleared?).head? = result.toOption.map fun _ => u.errors.count := by
  cases ended with
  | failed cause => exact ⟨[], (List.append_nil _).symm, rfl, rfl⟩
  | cleared code => exact ⟨_, listens.heard_shutdown u, rfl, rfl⟩
  | clearedTwice code =>
    refine ⟨[.logCleared u.errors.count, .logCleared 0], ?_, rfl, rfl⟩
    rw [listens.heard_shutdown, listens.heard_shutdown, List.append_assoc]
    rfl

end Listens

theorem Event.positions_of_forall₂ {told : List Event} {records : List Record} {n : Nat}
    (announce : List.Forall₂ Event.Announces told (records.zipIdx n)) :
    told.map (fun event => event.fields.lookup "position") =
      (List.range' n records.length).map fun (i : Nat) => some (Numeral.decimal i) := by
  induction records generalizing told n with
  | nil =>
    cases announce
    rfl
  | cons r rest ih =>
    rw [List.zipIdx_cons] at announce
    cases announce with
    | cons first others =>
      rw [List.map_cons, first.position, ih others, List.length_cons, List.range'_succ,
        List.map_cons]

/-- What a listener has of a process that left a state before it cleared its log: the events that
tell of the records, their positions, and the number of records in the first log that was cleared.
Only a process that came to no code clears none. -/
structure Recounts (events : List Event) (u : State W) (result : Except Failure ReturnCode) :
    Prop where
  announces : List.Forall₂ Event.Announces (events.filter Event.hasPosition)
    u.errors.records.zipIdx
  positions : (events.filter Event.hasPosition).map (fun event => event.fields.lookup "position") =
    (List.range u.errors.count).map fun (i : Nat) => some (Numeral.decimal i)
  cleared : (events.filterMap Event.cleared?).head? = result.toOption.map fun _ => u.errors.count

namespace Interpreter

variable {h : Host W} {heard : W → List Event} {openSource : Attempt W (LineSource W)}

theorem recounts_process (listens : Listens h heard) (within : Opens (Hears heard) openSource)
    {invocation : Invocation} {s t : State W} {result : Except Failure ReturnCode}
    (hnew : s.errors = {}) (hr : (standard h).process invocation openSource s = (result, t)) :
    ∃ events, heard t.world = heard s.world ++ events ∧
      Recounts events ((standard h).worked invocation openSource
        ((standard h).tell (.starting Standard.versionNumber) s)) result := by
  have ended := (standard h).ended_process invocation openSource s
  rw [hr] at ended
  obtain ⟨events, records, hevents, hrecords, announce, quiet⟩ :=
    listens.announced_worked within invocation s
  obtain ⟨clearings, hclearings, unpositioned, hcleared⟩ := listens.heard_of_ended ended
  rw [hnew, List.nil_append] at hrecords
  have told : (events ++ clearings).filter Event.hasPosition =
      events.filter Event.hasPosition := by
    rw [List.filter_append, unpositioned, List.append_nil]
  rw [← told, ← hrecords, hnew, ErrorLog.count_empty] at announce
  refine ⟨events ++ clearings, ?_, announce, ?_, ?_⟩
  · rw [hclearings, hevents, List.append_assoc]
  · rw [Event.positions_of_forall₂ announce, List.range_eq_range']
    rfl
  · rw [List.filterMap_append, quiet]
    exact hcleared

/-- The events of a process that carry a position tell of its records, one by one and in order: the
positions count up from zero, and the first log that is cleared, if one is, has as many records.
That holds of whatever carries out the calls and gives the lines, as long as it tells nothing of the
kind itself, and of a log that shows events of debugging.  If every call on the output succeeds and
the lines can be had, then the process comes to a code, and so to a log that is cleared. -/
theorem positions_of_process (listens : Listens h heard)
    (within : Opens (Hears heard) openSource) (invocation : Invocation)
    (session : Session) (w : W) :
    let sh := standard h
    let s : State W := { session, errors := {}, world := w }
    let u := sh.worked invocation openSource (sh.tell (.starting Standard.versionNumber) s)
    let result := (sh.process invocation openSource s).1
    let t := (sh.process invocation openSource s).2
    ((∃ cause, result = .error cause) ∧ t = u ∨
      (∃ code, result = .ok code) ∧ (t = sh.shutdown u ∨ t = sh.shutdown (sh.shutdown u))) ∧
    (h.OutputWorks → (∀ w, ∃ source, (openSource w).1 = .ok source) →
      ∃ code, result = .ok code) ∧
    ∃ events, heard t.world = heard w ++ events ∧
      List.Forall₂ Event.Announces (events.filter Event.hasPosition) u.errors.records.zipIdx ∧
      (events.filter Event.hasPosition).map (fun event => event.fields.lookup "position") =
        (List.range u.errors.count).map (fun (i : Nat) => some (Numeral.decimal i)) ∧
      (events.filterMap Event.cleared?).head? = result.toOption.map (fun _ => u.errors.count) ∧
      ∀ shows : Event → Bool,
        (∀ event, event.level.rank ≤ Level.debug.rank → shows event = true) →
        events.filter shows = events := by
  intro sh s u result t
  have ended : sh.Ended u (result, t) := sh.ended_process invocation openSource s
  have comes (works : h.OutputWorks) (opens : ∀ w, ∃ source, (openSource w).1 = .ok source) :
      ∃ code, result = .ok code := process_of_works works opens invocation s
  obtain ⟨events, hevents, announces, positions, cleared⟩ :=
    recounts_process (t := t) listens within rfl rfl
  exact ⟨ended.left, comes, events, hevents, announces, positions, cleared,
    fun shows debug => Event.filter_eq_self_of_debug debug events⟩

end Interpreter

/-! ## The log of a machine -/

namespace Machine

/-- A child process has no hold on the environment of its parent. -/
theorem environment_spawn (program flag line : String) (site : Shell.Site) :
    (Shell.spawn program flag line site).2.environment = site.environment := by
  unfold Shell.spawn
  split
  · rfl
  · split
    · rfl
    · split <;> rfl

/-- Only running a command line is told, before and after. -/
theorem hears_run (line : String) (m : Machine) :
    Hears events m (host.run line m).2 ∧
      (host.run line m).2.site.environment = m.site.environment := by
  let started := m.note (.spawning "sh" line)
  have kept := environment_spawn "sh" "-c" line started.site
  cases hr : Shell.spawn "sh" "-c" line started.site with
  | mk answer site =>
    rw [hr] at kept
    have hwithin : Attempt.within sitePart (Shell.spawn "sh" "-c" line) started =
        (answer, { started with site }) := by
      have hpart : sitePart.get started = started.site := rfl
      rw [Attempt.within, hpart, hr]
      rfl
    cases answer with
    | ok code =>
      have hrun : host.run line m = (.ok (), { started with site }.note (.childFinished code)) := by
        simp only [host, Shell.executor]
        rw [hwithin]
      rw [hrun]
      refine ⟨⟨[.spawning "sh" line, .childFinished code], List.append_assoc .., ?_⟩, kept⟩
      simp [Event.isPlain]
    | error cause =>
      have hrun : host.run line m = (.error cause, { started with site }) := by
        simp only [host, Shell.executor]
        rw [hwithin]
      rw [hrun]
      exact ⟨⟨[.spawning "sh" line], rfl, by simp [Event.isPlain]⟩, kept⟩

theorem listens_host : Listens host events where
  note event m := rfl
  perform c m := by
    cases c with
    | edit edit path => cases edit <;> exact .of_eq rfl
    | run line => exact (hears_run line m).1
    | _ => exact .of_eq rfl
  pause seconds m := .of_eq rfl

/-- Nothing that a process does changes its environment. -/
theorem habit_environment :
    Habit host fun s t => t.world.site.environment = s.world.site.environment where
  refl _ := rfl
  trans first second := second.trans first
  call c s := by
    cases c with
    | edit edit path => cases edit <;> rfl
    | run line => exact (hears_run line s.world).2
    | _ => rfl
  session _ _ := rfl
  pause _ _ := rfl
  tell _ _ := rfl
  announce _ _ _ _ := rfl

/-- What the terminal changes: the bytes that are left and, for a prompt, those that were shown. -/
def Reads (m m' : Machine) : Prop :=
  m'.site.environment = m.site.environment ∧ m'.events = m.events

theorem reads_showPrompt (prompt : String) (m : Machine) :
    Reads m (if showsPrompts m then emit prompt m else m) := by
  split
  · exact ⟨rfl, rfl⟩
  · exact ⟨rfl, rfl⟩

theorem within_supply (n : Nat) (held : List Char) : (supply n held).Within Reads := by
  induction n generalizing held with
  | zero => trivial
  | succ n ih =>
    refine fun m => ⟨⟨rfl, rfl⟩, ?_⟩
    dsimp only
    split
    · trivial
    · split
      · exact ih _
      · trivial

theorem opens_openTerminal : Opens Reads openTerminal := by
  refine fun m => ⟨⟨rfl, rfl⟩, fun source hopen => ?_⟩
  cases hopen
  exact ⟨reads_showPrompt, within_supply _ _⟩

theorem hears_openTerminal : Opens (Hears events) openTerminal :=
  opens_openTerminal.mono fun _ _ reads => .of_eq reads.2

theorem outputWorks_host : host.OutputWorks := by
  intro c hc m
  cases c <;> first | rfl | cases hc

/-- The state of a process that has done its work and not yet cleared its log. -/
def worked (args : List String) (m : Machine) : State Machine :=
  (Interpreter.standard host).worked (Invocation.ofArgs args) openTerminal
    ((Interpreter.standard host).tell (.starting Standard.versionNumber) m.initialState)

theorem environment_worked (args : List String) (m : Machine) :
    (m.worked args).world.site.environment = m.site.environment := by
  have plain : (Event.starting Standard.versionNumber).isPlain = true := rfl
  have started := habit_environment.tell plain m.initialState
  have quiet (s : State Machine) (w : Machine) (reads : Reads s.world w) :
      w.site.environment = s.world.site.environment := reads.1
  exact habit_environment.trans started (habit_environment.worked quiet opens_openTerminal _ _)

/-- A process leaves what it has worked its way to, with its log cleared. -/
theorem environment_execute (args : List String) (m : Machine) :
    (m.execute args).2.world.site.environment = m.site.environment := by
  have kept := m.environment_worked args
  have ended := (Interpreter.standard host).ended_process (.ofArgs args) openTerminal m.initialState
  rw [execute]
  cases hr : (Interpreter.standard host).process (.ofArgs args) openTerminal m.initialState with
  | mk result t =>
    rw [hr] at ended
    cases ended with
    | failed cause => exact kept
    | cleared code => exact kept
    | clearedTwice code => exact kept

theorem filter_debug : LogFilter.ofVariable (some "debug") = [{ threshold := some .debug }] := by
  decide +kernel

theorem shows_debug (event : Event) :
    (LogFilter.ofVariable (some "debug")).shows event = true := by
  rw [filter_debug]
  have asked : ({ threshold := some .debug } : Directive).asks event = true := by
    simp [Directive.asks]
  simp only [LogFilter.shows, LogFilter.deciding?, List.filter_cons, asked, if_true,
    List.filter_nil, List.foldl_cons, List.foldl_nil, Option.any_some]
  exact decide_eq_true event.level_le_debug

/-- On a machine the terminal always opens and the output always works, so that the log of a process
recounts it up to a log that was cleared; and at the level of debugging nothing of it is left
out. -/
theorem recounts_run (args : List String) (environment : List (String × String))
    (stdin : List UInt8) (files : Files) :
    let m := prepare environment stdin files
    let events := (m.execute args).2.world.events
    (∃ code, Recounts events (m.worked args) (.ok code)) ∧
      (Run.ofProcess args environment stdin files).log =
        (events.filter (LogFilter.ofVariable (environment.lookup "YASH_LOG")).shows).map
          Event.line ∧
      events.filter (LogFilter.ofVariable (some "debug")).shows = events := by
  intro m events
  have opens (m : Machine) : ∃ source, (openTerminal m).1 = .ok source := ⟨_, rfl⟩
  obtain ⟨code, hcode⟩ := Interpreter.process_of_works outputWorks_host opens (.ofArgs args)
    m.initialState
  refine ⟨⟨code, ?_⟩, ?_, List.filter_eq_self.mpr fun event _ => shows_debug event⟩
  · cases hr : (Interpreter.standard host).process (.ofArgs args) openTerminal m.initialState with
    | mk result t =>
      rw [hr] at hcode
      obtain rfl : result = .ok code := hcode
      obtain ⟨told, htold, recounts⟩ :=
        Interpreter.recounts_process listens_host hears_openTerminal rfl hr
      have left : events = told := by
        simp only [events, execute, hr]
        exact htold
      rw [left]
      exact recounts
  · have environment_kept := m.environment_execute args
    have filter : LogFilter.ofVariable ((m.execute args).2.world.valueOf "YASH_LOG") =
        LogFilter.ofVariable (environment.lookup "YASH_LOG") := by
      rw [valueOf, environment_kept]
      rfl
    rw [← filter]
    rfl

end Machine

/-- The second record is the interpreter's own, and a session that ends clears its log before the
process does. -/
theorem Interpreter.positions_of_process_typed :
    let files : Files := { tree := {}, cwd := { live := [] } }
    let typed := "throw late 3\ncd x"
    let m := Machine.prepare [("HOME", "/")] typed.toUTF8.toList files
    let t := ((standard Machine.host).process .interactive Machine.openTerminal m.initialState).2
    Listens Machine.host Machine.events ∧ Opens (Hears Machine.events) Machine.openTerminal ∧
      (t.world.events.filter Event.hasPosition).map (fun event => event.fields.lookup "position") =
        [some "0", some "1"] ∧
      t.world.events.filterMap Event.cleared? = [2, 0] := by
  intro files typed m t
  have listens := Machine.listens_host
  have within := Machine.hears_openTerminal
  obtain ⟨-, -, events, hevents, -, positions, -, -⟩ :=
    positions_of_process listens within .interactive m.initialState.session m
  have told : t.world.events = events := hevents
  rw [← told] at positions
  refine ⟨listens, within, positions.trans ?_, ?_⟩
  · decide +kernel
  · decide +kernel

end LineShell
