import LineShell.Proofs.Movement

/-!
# Plans

An interpreter does not look into its host: what it does next depends on the answers it got and on
what it remembers itself.  A `Plan` is what is left of an action when the host is taken away, a tree
that branches on answers.  `planned_dispatch` says that a dispatch carries out one and the same plan
on every host, so a law on two runs is an induction over a plan, with four cases, and need not open
any command.

A plan reads of the session only the two directories.  That it cannot read the code or the last
token is part of what is proved.
-/

namespace LineShell

/-- A change of the state that asks the host nothing. -/
inductive Act where
  | push (r : Record)
  | tell (event : Event)
  | pause (seconds : Nat)
  | setCode (code : ReturnCode)
  | setCwd (path : String)
  | keep (token : Token)

inductive Plan (α : Type) where
  | done (a : α)
  | call (c : Call) (next : Except Failure Reply → Plan α)
  | act (a : Act) (next : Plan α)
  /-- Looks up the home directory, the directory of the session, and the error log. -/
  | lookup (next : String → String → ErrorLog → Plan α)

variable {W α β : Type}

namespace Act

def deed : Act → Deed
  | .push r => .push r
  | .tell event => .tell event
  | .pause seconds => .pause seconds
  | .setCode code => .setCode code
  | .setCwd path => .setCwd path
  | .keep token => .keep token

def apply (h : Host W) : Act → State W → State W
  | .push r, s => { s with errors := (s.errors.push r).2 }
  | .tell event, s => { s with world := h.note event s.world }
  | .pause seconds, s => { s with world := h.pause seconds s.world }
  | .setCode code, s => { s with session := { s.session with code } }
  | .setCwd cwd, s => { s with session := { s.session with cwd } }
  | .keep token, s => Interpreter.keep token s

theorem makes (h : Host W) (a : Act) (s : State W) : Deed.Makes h s a.deed (a.apply h s) := by
  cases a <;> constructor

end Act

/-- The state after a call. -/
def State.called (h : Host W) (c : Call) (s : State W) : State W :=
  { s with world := (h.perform c s.world).2 }

namespace Plan

/-- Carries out a plan on a host. -/
def run (h : Host W) : Plan α → State W → α × State W
  | .done a, s => (a, s)
  | .call c next, s => (next (h.perform c s.world).1).run h (s.called h c)
  | .act a next, s => next.run h (a.apply h s)
  | .lookup next, s => (next s.session.home s.session.cwd s.errors).run h s

def bind (f : α → Plan β) : Plan α → Plan β
  | .done a => f a
  | .call c next => .call c fun answer => (next answer).bind f
  | .act a next => .act a (next.bind f)
  | .lookup next => .lookup fun home cwd errors => (next home cwd errors).bind f

theorem run_bind (h : Host W) (f : α → Plan β) (p : Plan α) (s : State W) :
    (p.bind f).run h s = (f (p.run h s).1).run h (p.run h s).2 := by
  induction p generalizing s with
  | done a => rfl
  | call c next ih => exact ih (h.perform c s.world).1 _
  | act a next ih => exact ih (a.apply h s)
  | lookup next ih => exact ih s.session.home s.session.cwd s.errors s

theorem course (h : Host W) (p : Plan α) (s : State W) : ∃ ds, Course h s ds (p.run h s).2 := by
  induction p generalizing s with
  | done a => exact ⟨[], .nil s⟩
  | call c next ih =>
    obtain ⟨ds, course⟩ := ih (h.perform c s.world).1 (s.called h c)
    exact ⟨_, .cons (.call s c) course⟩
  | act a next ih =>
    obtain ⟨ds, course⟩ := ih (a.apply h s)
    exact ⟨_, .cons (a.makes h s) course⟩
  | lookup next ih => exact ih s.session.home s.session.cwd s.errors s

end Plan

/-- There is one plan that this carries out on every host. -/
def Planned (x : (W : Type) → Host W → State W → α × State W) : Prop :=
  ∃ p : Plan α, ∀ W (h : Host W) s, x W h s = p.run h s

/-- The path in a reply to a question for the working directory. -/
def Reply.path : Reply → String
  | .place path => path
  | .done | .names _ => ""

/-- The names in a reply to a question for a listing. -/
def Reply.list : Reply → List String
  | .names found => found
  | .done | .place _ => []

namespace Planned

/-! ## Rules -/

theorem done (a : α) : Planned fun _ _ s => (a, s) := ⟨.done a, fun _ _ _ => rfl⟩

theorem pure (a : α) : Planned fun _ _ => (Pure.pure a : Action _ α).run := done (Except.ok a)

theorem bind {x : (W : Type) → Host W → Action W α} {f : (W : Type) → Host W → α → Action W β}
    (hx : Planned fun W h => (x W h).run) (hf : ∀ a, Planned fun W h => (f W h a).run) :
    Planned fun W h => (x W h >>= f W h).run := by
  obtain ⟨p, hp⟩ := hx
  choose q hq using hf
  let after : Except Failure α → Plan (Except Failure β)
    | .ok a => q a
    | .error cause => .done (.error cause)
  refine ⟨p.bind after, fun W h s => ?_⟩
  have hrun : (x W h).run s = p.run h s := hp W h s
  show (x W h >>= f W h).run s = _
  rw [Plan.run_bind, ← hrun]
  cases hr : (x W h).run s with
  | mk result t =>
    cases result with
    | ok a =>
      rw [Action.run_bind_ok hr]
      exact hq a W h t
    | error cause =>
      rw [Action.run_bind_error hr]
      rfl

theorem tell (event : Event) : Planned fun _ h => (h.tell event).run :=
  ⟨.act (.tell event) (.done (.ok ())), fun _ _ _ => rfl⟩

theorem pause (seconds : Nat) : Planned fun _ h => (Action.touch (h.pause seconds)).run :=
  ⟨.act (.pause seconds) (.done (.ok ())), fun _ _ _ => rfl⟩

theorem push (r : Record) : Planned fun _ _ => (Action.push r : Action _ Nat).run :=
  ⟨.lookup fun _ _ errors => .act (.push r) (.done (.ok errors.count)),
    fun _ _ => Action.run_push r⟩

theorem setCode (code : ReturnCode) :
    Planned fun _ _ => (Action.modifySession fun s => { s with code } : Action _ Unit).run :=
  ⟨.act (.setCode code) (.done (.ok ())), fun _ _ _ => rfl⟩

theorem setCwd (cwd : String) :
    Planned fun _ _ => (Action.modifySession fun s => { s with cwd } : Action _ Unit).run :=
  ⟨.act (.setCwd cwd) (.done (.ok ())), fun _ _ _ => rfl⟩

theorem home {f : (W : Type) → Host W → String → Action W α}
    (hf : ∀ home, Planned fun W h => (f W h home).run) :
    Planned fun W h => (Action.session >>= fun s => f W h s.home).run := by
  choose q hq using hf
  exact ⟨.lookup fun home _ _ => q home, fun W h s => hq s.session.home W h s⟩

theorem cwd {f : (W : Type) → Host W → String → Action W α}
    (hf : ∀ cwd, Planned fun W h => (f W h cwd).run) :
    Planned fun W h => (Action.session >>= fun s => f W h s.cwd).run := by
  choose q hq using hf
  exact ⟨.lookup fun _ cwd _ => q cwd, fun W h s => hq s.session.cwd W h s⟩

theorem errors : Planned fun _ _ => (Action.errors : Action _ ErrorLog).run :=
  ⟨.lookup fun _ _ errors => .done (.ok errors), fun _ _ _ => rfl⟩

theorem call (c : Call) {attempt : (W : Type) → Host W → Attempt W Unit}
    (hperform : ∀ W (h : Host W), h.perform c = (attempt W h).reply fun _ => .done) :
    Planned fun W h => (Action.call (attempt W h)).run := by
  refine ⟨.call c fun answer => .done (answer.map fun _ => ()), fun W h s => ?_⟩
  have hanswer : (h.perform c s.world).1.map (fun _ => ()) = (attempt W h s.world).1 := by
    rw [hperform]
    unfold Attempt.reply
    cases (attempt W h s.world).1 <;> rfl
  have hworld : (h.perform c s.world).2 = (attempt W h s.world).2 := by
    rw [hperform]
    rfl
  simp only [Plan.run, State.called]
  rw [hanswer, hworld]
  rfl

theorem attempt (c : Call) {reply : β → Reply} (read : Reply → β)
    (hread : ∀ b, read (reply b) = b) {attempt : (W : Type) → Host W → Attempt W β}
    (hperform : ∀ W (h : Host W), h.perform c = (attempt W h).reply reply)
    {f : (W : Type) → Host W → Except Failure β → Action W α}
    (hok : ∀ b, Planned fun W h => (f W h (.ok b)).run)
    (herror : ∀ cause, Planned fun W h => (f W h (.error cause)).run) :
    Planned fun W h => (Action.attempt (attempt W h) >>= f W h).run := by
  choose q hq using hok
  choose r hr using herror
  let after : Except Failure Reply → Plan (Except Failure α)
    | .ok reply => q (read reply)
    | .error cause => r cause
  refine ⟨.call c after, fun W h s => ?_⟩
  show (Action.attempt (attempt W h) >>= f W h).run s = _
  rw [Action.run_bind_ok (Action.run_attempt (attempt W h) s)]
  simp only [Plan.run, State.called, hperform, Attempt.reply]
  cases (attempt W h s.world).1 with
  | ok b =>
    simp only [Except.map, after, hread]
    exact hq b W h _
  | error cause => exact hr cause W h _

theorem print (text : String) : Planned fun _ h => (h.print text).run :=
  call (.line text) fun _ _ => rfl

theorem printAll (lines : List String) : Planned fun _ h => (h.printAll lines).run := by
  induction lines with
  | nil => exact pure ()
  | cons text rest ih => exact (print text).bind fun _ => ih

theorem fail (kind : Kind) (message : String) (item : Option String) :
    Planned fun _ h => (h.fail kind message item).run :=
  (push _).bind fun _ => (tell _).bind fun _ => call (.complain message item) fun _ _ => rfl

theorem reject (kind : Kind) (message : String) (item : Option String) :
    Planned fun _ h => (h.reject kind message item).run :=
  (fail kind message item).bind fun _ => pure _

end Planned

/-! ## Commands -/

namespace Standard

open Planned

theorem planned_rejectMissing : Planned fun _ h => (rejectMissing h).run := reject _ _ _

theorem planned_rejectInteger (text : String) : Planned fun _ h => (rejectInteger h text).run :=
  reject _ _ _

theorem planned_follow : Planned fun _ h => (follow h).run := by
  refine attempt .locate Reply.path (fun _ => rfl) (fun _ _ => rfl) (fun cwd => ?_) fun _ => pure _
  exact (setCwd cwd).bind fun _ => pure _

theorem planned_goTo (path : String) : Planned fun _ h => (goTo h path).run :=
  attempt (.move path) (fun _ => ()) (fun _ => rfl) (fun _ _ => rfl) (fun _ => planned_follow)
    fun _ => (tell _).bind fun _ => reject _ _ _

/-- What is left of going home once it is known where home is. -/
def goHomeTo (h : Host W) (home : String) : Action W Token := do
  match ← .attempt (h.setCurrentDir home) with
  | .ok _ => follow h
  | .error cause =>
    h.tell (.homeRefused cause home)
    h.reject .unknown "failed to navigate to home directory" none

theorem planned_goHome : Planned fun _ h => (goHome h).run := by
  refine home (f := fun _ => goHomeTo) fun home => ?_
  exact attempt (.move home) (fun _ => ()) (fun _ => rfl) (fun _ _ => rfl)
    (fun _ => planned_follow) fun _ => (tell _).bind fun _ => reject _ _ _

theorem planned_showDirectory : Planned fun _ h => (showDirectory h).run := by
  refine attempt .locate Reply.path (fun _ => rfl) (fun _ _ => rfl) (fun cwd => ?_) fun _ => ?_
  · exact (Planned.print cwd).bind fun _ => pure _
  · exact (tell _).bind fun _ => reject _ _ _

theorem planned_showListing (path : String) : Planned fun _ h => (showListing h path).run := by
  refine attempt (.list path) Reply.list (fun _ => rfl) (fun _ _ => rfl) (fun names => ?_)
    fun _ => ?_
  · exact (printAll _).bind fun _ => pure _
  · exact (tell _).bind fun _ => reject _ _ _

theorem planned_defaultListing : Planned fun _ h => (defaultListing h).run := by
  refine attempt .locate Reply.path (fun _ => rfl) (fun _ _ => rfl) (fun _ => pure _) fun _ => ?_
  exact cwd (f := fun _ _ cwd => Pure.pure cwd) fun cwd => pure cwd

theorem planned_editPath (edit : PathEdit) (path : String) :
    Planned fun _ h => (editPath h edit path).run :=
  attempt (.edit edit path) (fun _ => ()) (fun _ => rfl) (fun _ _ => rfl)
    (fun _ => Planned.print _) fun _ => (tell _).bind fun _ => fail _ _ _

theorem planned_editAll (edit : PathEdit) (paths : List String) :
    Planned fun _ h => (editAll h edit paths).run := by
  induction paths with
  | nil => exact pure ()
  | cons path rest ih => exact (planned_editPath edit path).bind fun _ => ih

theorem planned_runLine (line : String) : Planned fun _ h => (runLine h line).run :=
  attempt (.run line) (fun _ => ()) (fun _ => rfl) (fun _ _ => rfl) (fun _ => pure _)
    fun _ => (tell _).bind fun _ => reject _ _ _

theorem planned_showRecord (index : Int64) : Planned fun _ h => (showRecord h index).run :=
  errors.bind fun _ => (printAll _).bind fun _ => pure _

theorem planned_showSelected (selector : String) :
    Planned fun _ h => (showSelected h selector).run := by
  unfold showSelected
  by_cases hc : selector ∈ countSelectors
  · simp only [hc, if_true]
    exact errors.bind fun _ => (Planned.print _).bind fun _ => pure _
  · by_cases hp : ['-', '-'].isPrefixOf selector.toList = true
    · simp only [hc, hp, if_true, if_false]
      exact reject _ _ _
    · simp only [hc, hp, if_false]
      cases Numeral.index? selector with
      | none => exact planned_rejectInteger selector
      | some index => exact planned_showRecord index

theorem planned_leaveWith (text : String) : Planned fun _ h => (leaveWith h text).run := by
  unfold leaveWith
  cases Numeral.code? text with
  | none => exact planned_rejectInteger text
  | some code => exact (setCode code).bind fun _ => pure _

theorem planned_throwRecord (name text : String) (words : List String) :
    Planned fun _ h => (throwRecord h name text words).run := by
  unfold throwRecord
  cases Numeral.code? text with
  | none => exact planned_rejectInteger text
  | some code => exact (push _).bind fun _ => (tell _).bind fun _ => pure _

theorem planned_sleepFor (text : String) : Planned fun _ h => (sleepFor h text).run := by
  unfold sleepFor
  cases Numeral.seconds? text with
  | none => exact planned_rejectInteger text
  | some seconds => exact (pause seconds).bind fun _ => pure _

end Standard

open Planned Standard in
theorem Builtin.planned (b : Builtin) (synopses : List Synopsis) (name : String)
    (operands : List String) :
    Planned fun _ h => ((b.command h).execute synopses name operands).run := by
  cases b with
  | cd =>
    cases operands with
    | nil => exact planned_goHome
    | cons path rest => exact planned_goTo path
  | gwd => exact planned_showDirectory
  | exit => exact pure _
  | leave =>
    cases operands with
    | nil => exact pure _
    | cons text rest => exact planned_leaveWith text
  | restart => exact pure _
  | version => exact (printAll _).bind fun _ => pure _
  | clear => exact (call .clear fun _ _ => rfl).bind fun _ => pure _
  | print => exact (Planned.print _).bind fun _ => pure _
  | sleep =>
    cases operands with
    | nil => exact (pause 1).bind fun _ => pure _
    | cons text rest => exact planned_sleepFor text
  | throw =>
    match operands with
    | [] => exact planned_rejectMissing
    | [_] => exact planned_rejectMissing
    | name :: text :: words => exact planned_throwRecord name text words
  | trace =>
    cases operands with
    | nil => exact planned_showRecord 1
    | cons selector rest => exact planned_showSelected selector
  | system =>
    cases operands with
    | nil => exact planned_rejectMissing
    | cons word rest => exact planned_runLine _
  | single edit =>
    cases operands with
    | nil => exact planned_rejectMissing
    | cons path rest => exact (planned_editPath edit path).bind fun _ => pure _
  | batch edit =>
    cases operands with
    | nil => exact planned_rejectMissing
    | cons path rest => exact (planned_editAll edit _).bind fun _ => pure _
  | ls =>
    cases operands with
    | nil => exact planned_defaultListing.bind fun path => planned_showListing path
    | cons path rest => exact planned_showListing path
  | help => exact (printAll _).bind fun _ => pure _

/-! ## The interpreter -/

namespace Interpreter

open Planned

/-- What is left of a report when its line has been handed over. -/
def afterReport : Except Failure Unit → Plan Unit
  | .ok _ => .done ()
  | .error cause => .act (.tell (.errorLineLost cause)) (.done ())

theorem planned_report (kind : Kind) (message : String) (item : Option String) :
    Planned fun _ h s => ((), (standard h).report kind message item s) := by
  obtain ⟨p, hp⟩ := fail kind message item
  refine ⟨p.bind afterReport, fun W h s => ?_⟩
  have hrun : (h.fail kind message item).run s = p.run h s := hp W h s
  rw [Plan.run_bind, ← hrun]
  show ((), (standard h).report kind message item s) = _
  cases hr : (h.fail kind message item).run s with
  | mk result t =>
    cases result with
    | ok _ => exact congrArg ((), ·) (report_of_ok hr)
    | error cause => exact congrArg ((), ·) (report_of_error hr)

/-- What is left of a command when its result is taken up by the interpreter. -/
def afterCommand (name : String) : Except Failure Token → Plan Token
  | .ok token => .done token
  | .error cause =>
    .act (.tell (.commandFailed name cause)) (.lookup fun _ _ errors =>
      .act (.push (Record.ofKind .unknown)) (.act (.tell (.unexpected errors.count))
        (.done .success)))

theorem planned_runCommand (b : Builtin) (name : String) (operands : List String) :
    Planned fun _ h => (standard h).runCommand (b.command h) name operands := by
  obtain ⟨p, hp⟩ := b.planned (Standard.table Host.bare).synopses name operands
  let started := Event.commandStarted (b.names.headD name) operands.length
  refine ⟨.act (.tell started) (p.bind (afterCommand name)), fun W h s => ?_⟩
  have hsynopses : (standard h).commands.synopses = (Standard.table Host.bare).synopses :=
    Standard.synopses_table h Host.bare
  have hstarted : Event.commandStarted ((b.command h).names.headD name) operands.length =
      started := by
    rw [Builtin.names_command]
  have hrun : ((b.command h).execute (standard h).commands.synopses name operands).run
      ((standard h).tell started s) = p.run h ((standard h).tell started s) := by
    rw [hsynopses]
    exact hp W h _
  show (standard h).runCommand (b.command h) name operands s =
    (p.bind (afterCommand name)).run h ((standard h).tell started s)
  rw [Plan.run_bind, ← hrun]
  rw [← hstarted] at hrun ⊢
  cases hr : ((b.command h).execute (standard h).commands.synopses name operands).run
      ((standard h).tell (.commandStarted ((b.command h).names.headD name) operands.length) s) with
  | mk result t =>
    cases result with
    | ok token => exact runCommand_of_ok hr
    | error cause =>
      rw [runCommand_of_error hr, breakOff_eq]
      rfl

theorem planned_runExternal (line : String) :
    Planned fun _ h => (standard h).runExternal line := by
  obtain ⟨p, hp⟩ := planned_report .unknown "failed to run command" (some line)
  let after : Except Failure Reply → Plan Token
    | .ok _ => .done .success
    | .error cause => .act (.tell (.externalRefused cause line)) (p.bind fun _ => .done .success)
  refine ⟨.call (.run line) after, fun W h s => ?_⟩
  simp only [Plan.run, State.called, Host.perform, Attempt.reply, runExternal, standard]
  cases hr : h.run line s.world with
  | mk answer w =>
    rw [Action.run_call hr]
    cases answer with
    | ok _ => rfl
    | error cause =>
      simp only [Except.map, after, Plan.run, Plan.run_bind]
      rw [← hp W h]
      rfl

theorem planned_answer (words : List String) :
    Planned fun _ h => (standard h).answer words := by
  cases words with
  | nil => exact done Token.blank
  | cons name operands =>
    cases ho : Builtin.ofName? name with
    | none =>
      obtain ⟨p, hp⟩ := planned_runExternal (joinWords (name :: operands))
      exact ⟨p, fun W h s => (answer_of_external h ho operands s).trans (hp W h s)⟩
    | some b =>
      obtain ⟨p, hp⟩ := planned_runCommand b name operands
      exact ⟨p, fun W h s => (answer_of_command h ho operands s).trans (hp W h s)⟩

/-- A dispatch carries out the same plan on every host. -/
theorem planned_dispatch (words : List String) :
    Planned fun _ h => (standard h).dispatch words := by
  obtain ⟨p, hp⟩ := planned_answer words
  let after (token : Token) : Plan Token :=
    .act (.tell (.dispatched token)) (.act (.keep token) (.done token))
  refine ⟨p.bind after, fun W h s => ?_⟩
  have hanswer : (standard h).answer words s = p.run h s := hp W h s
  rw [Plan.run_bind, ← hanswer]
  rfl

theorem planned_changeDir (path : String) :
    Planned fun _ h => (standard h).changeDir path := by
  let named : Except Failure Reply → Plan (Except ChangeFailure Unit)
    | .ok reply =>
      .act (.setCwd reply.path) (.act (.tell (.directoryChanged reply.path)) (.done (.ok ())))
    | .error cause => .done (.error (.unreadable cause))
  let moved : Except Failure Reply → Plan (Except ChangeFailure Unit)
    | .ok _ => .call .locate named
    | .error cause => .done (.error (.refused path cause))
  refine ⟨.call (.move path) moved, fun W h s => ?_⟩
  simp only [Plan.run, State.called, Host.perform, Attempt.reply]
  cases hr : h.setCurrentDir path s.world with
  | mk answer w =>
    cases answer with
    | error cause => exact changeDir_refused hr
    | ok _ =>
      simp only [Except.map, moved, Plan.run, State.called, Host.perform, Attempt.reply]
      cases hl : h.currentDir w with
      | mk answer v =>
        cases answer with
        | error cause => exact changeDir_unreadable hr hl
        | ok cwd => exact changeDir_ok hr hl

end Interpreter
end LineShell
