import LineShell.Proofs.Movement
import LineShell.Proofs.Runs

/-!
# Habits

A habit is a relation between states that every single step of a command keeps.  The steps are those
of a course, with two restrictions on what is told: an event that tells of a record comes with the
record, and the record is the one that was just pushed; and no command tells that the log was
cleared.  The commands are taken apart once, in `Builtin.keeps`, and from there on whatever the
interpreter does up to the end of a session is a habit: a dispatch, a change of directory, and a
loop that has not yet cleared its log.
-/

namespace LineShell

/-- An event tells of a record and of its position. -/
structure Event.Announces (event : Event) (entry : Record × Nat) : Prop where
  position : event.fields.lookup "position" = some (Numeral.decimal entry.2)
  error : entry.1.origin = .standard → event.fields.lookup "error" = some (quote entry.1.name)
  level : event.level = if entry.1.origin = .standard then .warn else .debug

/-- Whether an event tells neither of a record nor of a log that was cleared. -/
def Event.isPlain : Event → Bool
  | .recorded .. | .unexpected _ | .thrown .. | .logCleared _ => false
  | _ => true

namespace Event.Announces

theorem recorded (kind : Kind) (position : Nat) (message : String) (item : Option String) :
    (Event.recorded kind position message item).Announces (Record.ofKind kind, position) :=
  ⟨rfl, fun _ => rfl, rfl⟩

theorem unexpected (position : Nat) :
    (Event.unexpected position).Announces (Record.ofKind .unknown, position) :=
  ⟨rfl, fun _ => rfl, rfl⟩

theorem thrown (name : String) (code : ReturnCode) (message : String) (position : Nat) :
    (Event.thrown name code position).Announces
      (Record.userDefined name code message, position) :=
  ⟨rfl, nofun, rfl⟩

end Event.Announces

variable {W α β : Type}

/-- What a relation between the states before and after has to satisfy so that commands keep it. -/
structure Habit (h : Host W) (R : State W → State W → Prop) : Prop where
  refl : ∀ s, R s s
  trans : ∀ {s t u : State W}, R s t → R t u → R s u
  call : ∀ c s, R s { s with world := (h.perform c s.world).2 }
  session : ∀ (f : Session → Session) s, R s { s with session := f s.session }
  pause : ∀ seconds s, R s { s with world := h.pause seconds s.world }
  tell : ∀ {event : Event}, event.isPlain = true → ∀ s, R s { s with world := h.note event s.world }
  announce : ∀ r {event : Event} s, event.Announces (r, s.errors.count) →
    R s { s with errors := (s.errors.push r).2, world := h.note event s.world }

def Action.Keeps (R : State W → State W → Prop) (x : Action W α) : Prop := ∀ s, R s (x.run s).2

namespace Habit

variable {h : Host W} {R : State W → State W → Prop}

/-! ## Rules -/

theorem pure (habit : Habit h R) (a : α) : (Pure.pure a : Action W α).Keeps R := habit.refl

theorem bind (habit : Habit h R) {x : Action W α} {f : α → Action W β} (hx : x.Keeps R)
    (hf : ∀ a, (f a).Keeps R) : (x >>= f).Keeps R := by
  intro s
  have first := hx s
  cases hr : x.run s with
  | mk result t =>
    rw [hr] at first
    cases result with
    | ok a =>
      rw [Action.run_bind_ok hr]
      exact habit.trans first (hf a t)
    | error cause =>
      rw [Action.run_bind_error hr]
      exact first

theorem callOf (habit : Habit h R) (c : Call) {attempt : Attempt W α} {reply : α → Reply}
    (hperform : h.perform c = attempt.reply reply) : (Action.call attempt).Keeps R := by
  intro s
  have called := habit.call c s
  rw [hperform] at called
  exact called

theorem attempt (habit : Habit h R) (c : Call) {attempt : Attempt W α} {reply : α → Reply}
    (hperform : h.perform c = attempt.reply reply) : (Action.attempt attempt).Keeps R :=
  habit.callOf c hperform

theorem told (habit : Habit h R) {event : Event} (plain : event.isPlain = true) :
    (h.tell event).Keeps R := habit.tell plain

theorem modifySession (habit : Habit h R) (f : Session → Session) :
    (Action.modifySession f : Action W Unit).Keeps R := habit.session f

theorem paused (habit : Habit h R) (seconds : Nat) :
    (Action.touch (h.pause seconds)).Keeps R := habit.pause seconds

/-- A record and the event that tells of it go together. -/
theorem announced (habit : Habit h R) {r : Record} {event : Nat → Event} {f : Nat → Action W α}
    (announces : ∀ position, (event position).Announces (r, position))
    (hf : ∀ position, (f position).Keeps R) :
    (Action.push r >>= fun position => h.tell (event position) >>= fun _ => f position).Keeps R :=
  by
  intro s
  rw [Action.run_push_bind]
  exact habit.trans (habit.announce r s (announces s.errors.count)) (hf s.errors.count _)

theorem fail (habit : Habit h R) (kind : Kind) (message : String) (item : Option String) :
    (h.fail kind message item).Keeps R :=
  habit.announced (fun position => .recorded kind position message item) fun _ =>
    habit.callOf (.complain message item) rfl

theorem reject (habit : Habit h R) (kind : Kind) (message : String) (item : Option String) :
    (h.reject kind message item).Keeps R :=
  habit.bind (habit.fail kind message item) fun _ => habit.pure _

theorem print (habit : Habit h R) (text : String) : (h.print text).Keeps R :=
  habit.callOf (.line text) rfl

theorem printAll (habit : Habit h R) (lines : List String) : (h.printAll lines).Keeps R := by
  induction lines with
  | nil => exact habit.pure ()
  | cons text rest ih => exact habit.bind (habit.print text) fun _ => ih

theorem rejectAfter (habit : Habit h R) {event : Event} (plain : event.isPlain = true)
    (kind : Kind) (message : String) (item : Option String) :
    (h.tell event >>= fun _ => h.reject kind message item).Keeps R :=
  habit.bind (habit.told plain) fun _ => habit.reject kind message item

end Habit

/-! ## Commands -/

namespace Standard

variable {h : Host W} {R : State W → State W → Prop}

theorem keeps_follow (habit : Habit h R) : (follow h).Keeps R := by
  refine habit.bind (habit.attempt .locate rfl) fun answer => ?_
  cases answer with
  | ok cwd => exact habit.bind (habit.modifySession _) fun _ => habit.pure _
  | error cause => exact habit.pure _

theorem keeps_goTo (habit : Habit h R) (path : String) : (goTo h path).Keeps R := by
  refine habit.bind (habit.attempt (.move path) rfl) fun answer => ?_
  cases answer with
  | ok _ => exact keeps_follow habit
  | error cause => exact habit.rejectAfter rfl _ _ _

theorem keeps_goHome (habit : Habit h R) : (goHome h).Keeps R := by
  refine habit.bind habit.refl fun session => ?_
  refine habit.bind (habit.attempt (.move session.home) rfl) fun answer => ?_
  cases answer with
  | ok _ => exact keeps_follow habit
  | error cause => exact habit.rejectAfter rfl _ _ _

theorem keeps_showDirectory (habit : Habit h R) : (showDirectory h).Keeps R := by
  refine habit.bind (habit.attempt .locate rfl) fun answer => ?_
  cases answer with
  | ok cwd => exact habit.bind (habit.print cwd) fun _ => habit.pure _
  | error cause => exact habit.rejectAfter rfl _ _ _

theorem keeps_showListing (habit : Habit h R) (path : String) : (showListing h path).Keeps R := by
  refine habit.bind (habit.attempt (.list path) rfl) fun answer => ?_
  cases answer with
  | ok names => exact habit.bind (habit.printAll _) fun _ => habit.pure _
  | error cause => exact habit.rejectAfter rfl _ _ _

theorem keeps_defaultListing (habit : Habit h R) : (defaultListing h).Keeps R := by
  refine habit.bind (habit.attempt .locate rfl) fun answer => ?_
  cases answer with
  | ok cwd => exact habit.pure _
  | error cause => exact habit.bind habit.refl fun _ => habit.pure _

theorem keeps_editPath (habit : Habit h R) (edit : PathEdit) (path : String) :
    (editPath h edit path).Keeps R := by
  refine habit.bind (habit.attempt (.edit edit path) rfl) fun answer => ?_
  cases answer with
  | ok _ => exact habit.print _
  | error cause => exact habit.bind (habit.told rfl) fun _ => habit.fail _ _ _

theorem keeps_editAll (habit : Habit h R) (edit : PathEdit) (paths : List String) :
    (editAll h edit paths).Keeps R := by
  induction paths with
  | nil => exact habit.pure ()
  | cons path rest ih => exact habit.bind (keeps_editPath habit edit path) fun _ => ih

theorem keeps_runLine (habit : Habit h R) (line : String) : (runLine h line).Keeps R := by
  refine habit.bind (habit.attempt (.run line) rfl) fun answer => ?_
  cases answer with
  | ok _ => exact habit.pure _
  | error cause => exact habit.rejectAfter rfl _ _ _

theorem keeps_showRecord (habit : Habit h R) (index : Int64) : (showRecord h index).Keeps R :=
  habit.bind habit.refl fun _ => habit.bind (habit.printAll _) fun _ => habit.pure _

theorem keeps_showSelected (habit : Habit h R) (selector : String) :
    (showSelected h selector).Keeps R := by
  unfold showSelected
  by_cases hc : selector ∈ countSelectors
  · simp only [hc, if_true]
    exact habit.bind habit.refl fun _ => habit.bind (habit.print _) fun _ => habit.pure _
  · by_cases hp : ['-', '-'].isPrefixOf selector.toList = true
    · simp only [hc, hp, if_true, if_false]
      exact habit.reject _ _ _
    · simp only [hc, hp, if_false]
      cases Numeral.index? selector with
      | none => exact habit.reject _ _ _
      | some index => exact keeps_showRecord habit index

theorem keeps_leaveWith (habit : Habit h R) (text : String) : (leaveWith h text).Keeps R := by
  unfold leaveWith
  cases Numeral.code? text with
  | none => exact habit.reject _ _ _
  | some code => exact habit.bind (habit.modifySession _) fun _ => habit.pure _

theorem keeps_throwRecord (habit : Habit h R) (name text : String) (words : List String) :
    (throwRecord h name text words).Keeps R := by
  unfold throwRecord
  cases Numeral.code? text with
  | none => exact habit.reject _ _ _
  | some code =>
    exact habit.announced (fun position => .thrown name code (thrownMessage words) position)
      fun _ => habit.pure _

theorem keeps_sleepFor (habit : Habit h R) (text : String) : (sleepFor h text).Keeps R := by
  unfold sleepFor
  cases Numeral.seconds? text with
  | none => exact habit.reject _ _ _
  | some seconds => exact habit.bind (habit.paused seconds) fun _ => habit.pure _

end Standard

open Standard in
/-- Every command keeps every habit. -/
theorem Builtin.keeps {h : Host W} {R : State W → State W → Prop} (habit : Habit h R)
    (b : Builtin) (synopses : List Synopsis) (name : String) (operands : List String) :
    ((b.command h).execute synopses name operands).Keeps R := by
  cases b with
  | cd =>
    cases operands with
    | nil => exact keeps_goHome habit
    | cons path rest => exact keeps_goTo habit path
  | gwd => exact keeps_showDirectory habit
  | exit => exact habit.pure _
  | leave =>
    cases operands with
    | nil => exact habit.pure _
    | cons text rest => exact keeps_leaveWith habit text
  | restart => exact habit.pure _
  | version => exact habit.bind (habit.printAll _) fun _ => habit.pure _
  | clear => exact habit.bind (habit.callOf .clear rfl) fun _ => habit.pure _
  | print => exact habit.bind (habit.print _) fun _ => habit.pure _
  | sleep =>
    cases operands with
    | nil => exact habit.bind (habit.paused 1) fun _ => habit.pure _
    | cons text rest => exact keeps_sleepFor habit text
  | throw =>
    match operands with
    | [] => exact habit.reject _ _ _
    | [_] => exact habit.reject _ _ _
    | name :: text :: words => exact keeps_throwRecord habit name text words
  | trace =>
    cases operands with
    | nil => exact keeps_showRecord habit 1
    | cons selector rest => exact keeps_showSelected habit selector
  | system =>
    cases operands with
    | nil => exact habit.reject _ _ _
    | cons word rest => exact keeps_runLine habit _
  | single edit =>
    cases operands with
    | nil => exact habit.reject _ _ _
    | cons path rest => exact habit.bind (keeps_editPath habit edit path) fun _ => habit.pure _
  | batch edit =>
    cases operands with
    | nil => exact habit.reject _ _ _
    | cons path rest => exact habit.bind (keeps_editAll habit edit _) fun _ => habit.pure _
  | ls =>
    cases operands with
    | nil => exact habit.bind (keeps_defaultListing habit) fun path => keeps_showListing habit path
    | cons path rest => exact keeps_showListing habit path
  | help => exact habit.bind (habit.printAll _) fun _ => habit.pure _

/-! ## The interpreter -/

namespace Habit

open Interpreter

variable {h : Host W} {R : State W → State W → Prop}

theorem report (habit : Habit h R) (kind : Kind) (message : String) (item : Option String)
    (s : State W) : R s ((standard h).report kind message item s) := by
  have failed := habit.fail kind message item s
  cases hr : (h.fail kind message item).run s with
  | mk result t =>
    rw [hr] at failed
    cases result with
    | ok _ =>
      rw [report_of_ok hr]
      exact failed
    | error cause =>
      rw [report_of_error hr]
      exact habit.trans failed (habit.tell rfl t)

theorem breakOff (habit : Habit h R) (name : String) (cause : Failure) (s : State W) :
    R s ((standard h).breakOff name cause s) := by
  rw [breakOff_eq]
  exact habit.trans (habit.tell rfl s) (habit.announce (Record.ofKind .unknown) _ (.unexpected _))

theorem runCommand (habit : Habit h R) (b : Builtin) (name : String) (operands : List String)
    (s : State W) : R s ((standard h).runCommand (b.command h) name operands s).2 := by
  let started := Event.commandStarted ((b.command h).names.headD name) operands.length
  have begun : R s ((standard h).tell started s) := habit.tell rfl s
  have kept := b.keeps habit (standard h).commands.synopses name operands
    ((standard h).tell started s)
  cases hr : ((b.command h).execute (standard h).commands.synopses name operands).run
      ((standard h).tell started s) with
  | mk result t =>
    rw [hr] at kept
    cases result with
    | ok token =>
      rw [runCommand_of_ok hr]
      exact habit.trans begun kept
    | error cause =>
      rw [runCommand_of_error hr]
      exact habit.trans begun (habit.trans kept (habit.breakOff name cause t))

theorem runExternal (habit : Habit h R) (line : String) (s : State W) :
    R s ((standard h).runExternal line s).2 := by
  have keeps : (Action.call (h.run line)).Keeps R := habit.callOf (.run line) rfl
  have called := keeps s
  simp only [Interpreter.runExternal]
  cases hr : (Action.call (h.run line)).run s with
  | mk result t =>
    rw [hr] at called
    have hcall : (Action.call ((standard h).host.run line)).run s = (result, t) := hr
    rw [hcall]
    cases result with
    | ok _ => exact called
    | error cause =>
      exact habit.trans called (habit.trans (habit.tell rfl t) (habit.report _ _ _ _))

theorem answer (habit : Habit h R) (words : List String) (s : State W) :
    R s ((standard h).answer words s).2 := by
  cases words with
  | nil => exact habit.refl s
  | cons name operands =>
    cases ho : Builtin.ofName? name with
    | none =>
      rw [answer_of_external h ho]
      exact habit.runExternal _ s
    | some b =>
      rw [answer_of_command h ho]
      exact habit.runCommand b name operands s

theorem dispatch (habit : Habit h R) (words : List String) (s : State W) :
    R s ((standard h).dispatch words s).2 := by
  let token := ((standard h).answer words s).1
  let t := (standard h).tell (.dispatched token) ((standard h).answer words s).2
  have told : R ((standard h).answer words s).2 t := habit.tell rfl _
  have kept : R t (Interpreter.keep token t) := habit.session (fun x => { x with last := token }) t
  exact habit.trans (habit.answer words s) (habit.trans told kept)

theorem changeDir (habit : Habit h R) (path : String) (s : State W) :
    R s ((standard h).changeDir path s).2 := by
  have moves : (Action.call (h.setCurrentDir path)).Keeps R := habit.callOf (.move path) rfl
  have moved := moves s
  cases hr : h.setCurrentDir path s.world with
  | mk answer w =>
    rw [Action.run_call hr] at moved
    cases answer with
    | error cause =>
      rw [changeDir_refused hr]
      exact moved
    | ok _ =>
      have locates : (Action.call h.currentDir).Keeps R := habit.callOf .locate rfl
      have located := locates { s with world := w }
      cases hl : h.currentDir w with
      | mk answer v =>
        rw [Action.run_call hl] at located
        have moved := habit.trans moved located
        cases answer with
        | error cause =>
          rw [changeDir_unreadable hr hl]
          exact moved
        | ok cwd =>
          rw [changeDir_ok hr hl]
          have followed := habit.session (fun x => { x with cwd }) { s with world := v }
          exact habit.trans moved (habit.trans followed (habit.tell rfl _))

theorem afterRound (habit : Habit h R) (token : Token) (s : State W) :
    R s ((standard h).afterRound token s) := by
  unfold Interpreter.afterRound
  split
  · exact habit.trans (habit.tell rfl s) (habit.session Session.reset _)
  · exact habit.refl s

/-- A loop keeps a habit if its source does, as long as the log is not cleared. -/
theorem readLines (habit : Habit h R) {aside : W → W → Prop}
    (quiet : ∀ s w, aside s.world w → R s { s with world := w }) {showPrompt : String → W → W}
    (hshow : ∀ prompt w, aside w (showPrompt prompt w)) {supply : Supply W}
    (within : supply.Within aside) (s : State W) :
    R s ((standard h).readLines showPrompt supply s).2 := by
  have shown (s : State W) : R s (prompted showPrompt s) :=
    quiet s _ (hshow s.session.prompt s.world)
  induction supply generalizing s with
  | ended ending =>
    have told : ending.event.isPlain = true := by cases ending <;> rfl
    exact habit.trans (shown s) (habit.tell told _)
  | ask look after ih =>
    exact habit.trans (quiet s _ (within s.world).1) (ih s.world (within s.world).2 _)
  | line text rest ih =>
    have typed := shown s
    have answered := habit.dispatch (tokenize text) (prompted showPrompt s)
    cases hr : (standard h).runLine text (prompted showPrompt s) with
    | mk token t =>
      rw [← runLine, hr] at answered
      have round := habit.trans typed answered
      cases ht : token.isTerminal with
      | true =>
        rw [readLines_of_terminal hr ht]
        exact round
      | false =>
        rw [readLines_of_not_terminal hr ht]
        exact habit.trans round (habit.trans (habit.afterRound token t) (ih within _))

end Habit

/-! ## Prompts that are shown -/

/-- A part of the world that a prompt is added to and that nothing else touches. -/
structure Shows (h : Host W) (showPrompt : String → W → W) (shown : W → List String) : Prop where
  prompt : ∀ text w, shown (showPrompt text w) = shown w ++ [text]
  perform : ∀ c w, shown (h.perform c w).2 = shown w
  note : ∀ event w, shown (h.note event w) = shown w
  pause : ∀ seconds w, shown (h.pause seconds w) = shown w

namespace Shows

variable {h : Host W} {showPrompt : String → W → W} {shown : W → List String}

/-- No command shows a prompt. -/
theorem habit (shows : Shows h showPrompt shown) :
    Habit h fun s t => shown t.world = shown s.world where
  refl _ := rfl
  trans first second := second.trans first
  call c s := shows.perform c s.world
  session _ _ := rfl
  pause seconds s := shows.pause seconds s.world
  tell _ s := shows.note _ s.world
  announce _ event s _ := shows.note event s.world

/-- The prompts that a reading lists are those that were shown, in order. -/
theorem prompts_readLines (shows : Shows h showPrompt shown) {supply : Supply W}
    (within : supply.Within fun w w' => shown w' = shown w) (s : State W) :
    let (reading, t) := (Interpreter.standard h).readLines showPrompt supply s
    shown t.world = shown s.world ++ reading.prompts := by
  induction supply generalizing s with
  | ended ending => exact (shows.note ending.event _).trans (shows.prompt _ _)
  | ask look after ih =>
    have looked := ih s.world (within s.world).2 { s with world := after s.world }
    rw [(within s.world).1] at looked
    exact looked
  | line text rest ih =>
    have typed : shown (Interpreter.prompted showPrompt s).world =
        shown s.world ++ [s.session.prompt] := shows.prompt _ _
    have answered := shows.habit.dispatch (tokenize text) (Interpreter.prompted showPrompt s)
    cases hr : (Interpreter.standard h).runLine text (Interpreter.prompted showPrompt s) with
    | mk token t =>
      rw [← Interpreter.runLine, hr, typed] at answered
      cases ht : token.isTerminal with
      | true =>
        rw [Interpreter.readLines_of_terminal hr ht]
        exact answered
      | false =>
        have others := ih within ((Interpreter.standard h).afterRound token t)
        rw [shows.habit.afterRound, answered] at others
        rw [Interpreter.readLines_of_not_terminal hr ht]
        exact others.trans (List.append_assoc ..)

end Shows
end LineShell
