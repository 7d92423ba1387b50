import Mathlib.Logic.Relation
import LineShell.Proofs.Accounting

/-!
# Where the session thinks it is

The working directory is kept twice: by the file system and, as it was last reported, by the
session.  Between two changes of directory the file system may lose its directory, but it never
reports another one; this is what `Host.Steady` asks of it.  Then the session is right about the
directory whenever the file system can name it at all: in every state of every run, after changes
that failed, and while lines are read.

A request is anything that can be asked of an interpreter: words and lines, changes of directory,
whole sessions over a source of lines, and invocations of the process.  `roundsOf` gives the rounds
of the session that a request leads to, if it leads to one, and `prompts_eq` says that its prompts
are theirs.
-/

namespace LineShell

/-! ## Requests -/

/-- What can be asked of an interpreter. -/
inductive Request (W : Type) where
  | words (argv : List String)
  | line (text : String)
  | changeDir (path : String)
  | enterHome
  | loop (source : LineSource W)
  | launch (invocation : Invocation) (openSource : Attempt W (LineSource W))

variable {W : Type}

def Request.Within (aside : W → W → Prop) : Request W → Prop
  | .loop source => source.Within aside
  | .launch _ openSource => Opens aside openSource
  | .words _ | .line _ | .changeDir _ | .enterHome => True

namespace Interpreter

def serve (sh : Interpreter W) : Request W → State W → State W
  | .words argv, s => (sh.dispatch argv s).2
  | .line text, s => (sh.runLine text s).2
  | .changeDir path, s => (sh.changeDir path s).2
  | .enterHome, s => (sh.enterHome s).2
  | .loop source, s => (sh.loop source s).2.2
  | .launch invocation openSource, s => (sh.launch invocation openSource s).2

def serveAll (sh : Interpreter W) : List (Request W) → State W → State W
  | [], s => s
  | request :: rest, s => sh.serveAll rest (sh.serve request s)

/-- The rounds of a session over a source that is opened first. -/
def converseRounds (sh : Interpreter W) (openSource : Attempt W (LineSource W)) (s : State W) :
    List (Round W) :=
  match (Action.call openSource).run s with
  | (.error _, _) => []
  | (.ok source, s) => sh.rounds source.showPrompt source.supply s

def launchRounds (sh : Interpreter W) (openSource : Attempt W (LineSource W)) (s : State W) :
    Invocation → List (Round W)
  | .interactive =>
    match sh.enterHome s with
    | (.ok _, s) => sh.converseRounds openSource s
    | (.error cause, s) => sh.converseRounds openSource (sh.tell (.homeSkipped cause) s)
  | .directory path =>
    match sh.changeDir path s with
    | (.ok _, s) => sh.converseRounds openSource s
    | (.error _, _) => []
  | .command _ | .version | .help _ | .invalid _ => []

/-- The rounds of the session that a request leads to. -/
def roundsOf (sh : Interpreter W) : Request W → State W → List (Round W)
  | .loop source, s => sh.rounds source.showPrompt source.supply s
  | .launch invocation openSource, s =>
    sh.launchRounds openSource (sh.tell (.launching invocation) s) invocation
  | .words _, _ | .line _, _ | .changeDir _, _ | .enterHome, _ => []

def promptsIn (outcome : Outcome) : List String := outcome.reading.elim [] Reading.prompts

def promptsOf (sh : Interpreter W) : Request W → State W → List String
  | .loop source, s => (sh.loop source s).2.1.prompts
  | .launch invocation openSource, s => promptsIn (sh.launch invocation openSource s).1
  | .words _, _ | .line _, _ | .changeDir _, _ | .enterHome, _ => []

theorem prompts_converse (sh : Interpreter W) (openSource : Attempt W (LineSource W))
    (s : State W) :
    promptsIn (sh.converse openSource s).1 =
      (sh.converseRounds openSource s).map (·.before.session.prompt) := by
  simp only [converse, converseRounds]
  cases (Action.call openSource).run s with
  | mk answer t =>
    cases answer with
    | error cause => rfl
    | ok source => exact sh.prompts_readLines source.showPrompt source.supply t

theorem prompts_announce (sh : Interpreter W) (lines : List String)
    (code : State W → ReturnCode) (s : State W) : promptsIn (sh.announce lines code s).1 = [] := by
  simp only [announce]
  cases (sh.host.printAll lines).run s with
  | mk answer t => cases answer <;> rfl

theorem prompts_launch (sh : Interpreter W) (invocation : Invocation)
    (openSource : Attempt W (LineSource W)) (s : State W) :
    promptsIn (sh.launch invocation openSource s).1 =
      (sh.launchRounds openSource (sh.tell (.launching invocation) s) invocation).map
        (·.before.session.prompt) := by
  cases invocation with
  | interactive =>
    simp only [launch, launchInteractive, launchRounds]
    cases sh.enterHome (sh.tell (.launching .interactive) s) with
    | mk answer t => cases answer <;> exact prompts_converse sh openSource _
  | directory path =>
    simp only [launch, launchIn, launchRounds]
    cases sh.changeDir path (sh.tell (.launching (.directory path)) s) with
    | mk answer t =>
      cases answer with
      | ok _ => exact prompts_converse sh openSource t
      | error cause => rfl
  | command words => rfl
  | version => exact prompts_announce sh _ _ _
  | help text => exact prompts_announce sh _ _ _
  | invalid text => exact prompts_announce sh _ _ _

theorem prompts_eq (sh : Interpreter W) (request : Request W) (s : State W) :
    sh.promptsOf request s = (sh.roundsOf request s).map (·.before.session.prompt) := by
  cases request with
  | loop source => exact sh.prompts_readLines source.showPrompt source.supply s
  | launch invocation openSource => exact sh.prompts_launch invocation openSource s
  | _ => rfl

end Interpreter

/-! ## Hosts that keep their directory -/

/-- A step of the world that is no successful change of directory.  What `aside` admits is left to
those who read lines. -/
inductive Drift (h : Host W) (aside : W → W → Prop) : W → W → Prop
  | call {c : Call} (hc : c.isMove = false) (w : W) : Drift h aside w (h.perform c w).2
  | refused {path : String} {cause : Failure} {w w' : W}
      (hr : h.setCurrentDir path w = (.error cause, w')) : Drift h aside w w'
  | note (event : Event) (w : W) : Drift h aside w (h.note event w)
  | pause (seconds : Nat) (w : W) : Drift h aside w (h.pause seconds w)
  | aside {w w' : W} (ha : aside w w') : Drift h aside w w'

abbrev Drifts (h : Host W) (aside : W → W → Prop) : W → W → Prop :=
  Relation.ReflTransGen (Drift h aside)

/-- A world in which a stretch without a change of directory begins: the first one, and every one
right after a directory was entered. -/
inductive Arrival (h : Host W) (aside : W → W → Prop) (start : W) : W → Prop
  | start : Arrival h aside start start
  | moved {o w w' : W} {path : String} (ho : Arrival h aside start o) (drifts : Drifts h aside o w)
      (hr : h.setCurrentDir path w = (.ok (), w')) : Arrival h aside start w'

/-- The directory can be named right after it was entered, and as long as no other one is entered it
has no other name. -/
structure Host.Steady (h : Host W) (aside : W → W → Prop) (start : W) : Prop where
  named : ∀ {o w w' : W} {path : String}, Arrival h aside start o → Drifts h aside o w →
    h.setCurrentDir path w = (.ok (), w') → ∃ cwd, (h.currentDir w').1 = .ok cwd
  same : ∀ {o w : W} {cwd cwd' : String}, Arrival h aside start o → Drifts h aside o w →
    (h.currentDir o).1 = .ok cwd → (h.currentDir w).1 = .ok cwd' → cwd' = cwd

/-- The session remembers the directory that the file system reported when it was entered. -/
def InStep (h : Host W) (aside : W → W → Prop) (start : W) (s : State W) : Prop :=
  ∃ o, Arrival h aside start o ∧ Drifts h aside o s.world ∧
    (h.currentDir o).1 = .ok s.session.cwd

/-! ## Deeds that stay in the directory -/

def Deed.Stays (d : Deed) : Prop :=
  d.cwd? = none ∧ ∀ path, d ≠ .call (.move path) (.ok .done)

theorem Deed.Common.stays {d : Deed} (common : d.Common) : d.Stays := by
  cases d with
  | call c answer =>
    refine ⟨rfl, fun path hd => ?_⟩
    cases hd
    cases common
  | setCwd path => exact common.elim
  | _ => exact ⟨rfl, fun path hd => by cases hd⟩

theorem Deed.Still.stays {d : Deed} (still : d.Still) : d.Stays := by
  refine ⟨still.2, fun path hd => ?_⟩
  rw [hd] at still
  cases still.1

theorem Deed.stays_of_refused (path : String) (cause : Failure) {ds : List Deed}
    (common : ∀ d ∈ ds, d.Common) : ∀ d ∈ .call (.move path) (.error cause) :: ds, d.Stays := by
  refine List.forall_mem_cons.mpr ⟨⟨rfl, ?_⟩, fun d hd => (common d hd).stays⟩
  intro path h
  cases h

theorem Deed.Makes.drift {h : Host W} (aside : W → W → Prop) {s t : State W} {c : Call}
    {answer : Except Failure Reply} (made : Deed.Makes h s (.call c answer) t)
    (hc : c.isMove = false) : Drift h aside s.world t.world := by
  have drift : Drift h aside s.world (h.perform c s.world).2 := .call hc s.world
  rw [made.perform_eq.1] at drift
  exact drift

theorem Deed.Makes.drifts {h : Host W} (aside : W → W → Prop) {s t : State W} {d : Deed}
    (made : Deed.Makes h s d t) (stays : d.Stays) : Drifts h aside s.world t.world := by
  cases made with
  | call c =>
    refine .single ?_
    cases c with
    | move path =>
      cases hr : h.setCurrentDir path s.world with
      | mk answer w =>
        have hworld : (h.perform (.move path) s.world).2 = w := congrArg Prod.snd hr
        cases answer with
        | error cause =>
          rw [hworld]
          exact .refused hr
        | ok _ =>
          have hanswer : (h.perform (.move path) s.world).1 = .ok .done := by
            simp [Host.perform, Attempt.reply, hr, Except.map]
          exact absurd (by rw [hanswer]) (stays.2 path)
    | _ => exact .call rfl s.world
  | tell event => exact .single (.note event s.world)
  | pause seconds => exact .single (.pause seconds s.world)
  | _ => exact .refl

theorem Course.drifts {h : Host W} (aside : W → W → Prop) {s t : State W} {ds : List Deed}
    (course : Course h s ds t) (stays : ∀ d ∈ ds, d.Stays) : Drifts h aside s.world t.world := by
  refine course.induct (R := fun t => Drifts h aside s.world t.world) ?_ stays .refl
  intro t d u hd made drifts
  exact drifts.trans (made.drifts aside hd)

theorem Course.cwd_of_stays {h : Host W} {s t : State W} {ds : List Deed}
    (course : Course h s ds t) (stays : ∀ d ∈ ds, d.Stays) :
    t.session.cwd = s.session.cwd := by
  have hnone : cwdsOf ds = [] := List.filterMap_eq_nil_iff.mpr fun d hd => (stays d hd).1
  rw [course.cwd, hnone]
  rfl

namespace InStep

variable {h : Host W} {aside : W → W → Prop} {start : W} {s t : State W}

theorem of_start {s : State W} (here : (h.currentDir s.world).1 = .ok s.session.cwd) :
    InStep h aside s.world s := ⟨s.world, .start, .refl, here⟩

theorem eq_cwd (inStep : InStep h aside start s) (steady : h.Steady aside start) {cwd : String}
    (hcwd : (h.currentDir s.world).1 = .ok cwd) : cwd = s.session.cwd := by
  obtain ⟨o, arrival, drifts, here⟩ := inStep
  exact steady.same arrival drifts here hcwd

theorem drifts (inStep : InStep h aside start s) (drifts : Drifts h aside s.world t.world)
    (hcwd : t.session.cwd = s.session.cwd) : InStep h aside start t := by
  obtain ⟨o, arrival, before, here⟩ := inStep
  exact ⟨o, arrival, before.trans drifts, hcwd ▸ here⟩

theorem course (inStep : InStep h aside start s) {ds : List Deed} (course : Course h s ds t)
    (stays : ∀ d ∈ ds, d.Stays) : InStep h aside start t :=
  inStep.drifts (course.drifts aside stays) (course.cwd_of_stays stays)

/-- A movement that enters a directory takes the session along. -/
theorem movement (inStep : InStep h aside start s) (steady : h.Steady aside start)
    {ds : List Deed} (course : Course h s ds t) (movement : Movement ds) :
    InStep h aside start t := by
  obtain ⟨o, arrival, before, -⟩ := id inStep
  cases movement with
  | refused common => exact inStep.course course (Deed.stays_of_refused _ _ common)
  | unnamed =>
    -- A steady host names the directory right after the move, so this course is none of its own.
    obtain _ | ⟨moved, _ | ⟨located, -⟩⟩ := course
    obtain ⟨_, hmoved, -⟩ := Attempt.of_reply_ok moved.perform_eq.1
    have hlocated := Attempt.of_reply_error located.perform_eq.1
    obtain ⟨cwd, hcwd⟩ := steady.named arrival before hmoved
    rw [hlocated] at hcwd
    cases hcwd
  | followed =>
    obtain _ | ⟨moved, _ | ⟨located, _ | ⟨made, _ | _⟩⟩⟩ := course
    obtain ⟨_, hmoved, -⟩ := Attempt.of_reply_ok moved.perform_eq.1
    obtain ⟨cwd, hlocated, hcwd⟩ := Attempt.of_reply_ok located.perform_eq.1
    cases hcwd
    cases made
    exact ⟨_, .moved arrival before hmoved, .single (located.drift aside rfl),
      congrArg Prod.fst hlocated⟩

end InStep

/-- Only one command may enter directories. -/
theorem Errand.Account.stays {e : Errand} {ds : List Deed} (account : e.Account ds)
    (hcd : ∀ operands, e ≠ .command .cd operands) : ∀ d ∈ ds, d.Stays := by
  intro d hd
  rcases account.permitted d hd with hcommon | hopens | rfl
  · exact hcommon.stays
  · cases e with
    | blank => exact hopens.elim
    | external line =>
      refine ⟨?_, fun path h => ?_⟩
      · cases d with
        | setCwd path => exact hopens.elim
        | _ => rfl
      · rw [h] at hopens
        exact hopens
    | command b operands =>
      have hb : b ≠ .cd := fun h => hcd operands (h ▸ rfl)
      refine ⟨?_, fun path h => ?_⟩
      · cases d with
        | setCwd path => exact absurd hopens hb
        | _ => rfl
      · rw [h] at hopens
        exact hb hopens.1
  · exact ⟨rfl, fun path h => by cases h⟩

namespace Interpreter

variable {h : Host W} {aside : W → W → Prop} {start : W}

theorem inStep_dispatch (steady : h.Steady aside start) (words : List String) (s : State W)
    (inStep : InStep h aside start s) :
    InStep h aside start ((standard h).dispatch words s).2 := by
  by_cases hcd : ∃ operands, Errand.ofWords words = .command .cd operands
  · obtain ⟨operands, hcd⟩ := hcd
    obtain ⟨before, ds, after, course, movement, hbefore, hafter⟩ := movement_dispatch h hcd s
    obtain ⟨t, course, ended⟩ := course.split
    obtain ⟨u, begun, course⟩ := course.split
    have first := inStep.course begun fun d hd => (hbefore d hd).stays
    have second := first.movement steady course movement
    exact second.course ended fun d hd => (hafter d hd).stays
  · obtain ⟨-, ds, course, account⟩ := account_dispatch h words s
    exact inStep.course course (account.stays (not_exists.mp hcd))

theorem inStep_changeDir (steady : h.Steady aside start) (path : String) {s : State W}
    (inStep : InStep h aside start s) :
    InStep h aside start ((standard h).changeDir path s).2 := by
  obtain ⟨ds, after, course, movement, still, -⟩ := movement_changeDir h path s
  obtain ⟨t, course, ended⟩ := course.split
  exact (inStep.movement steady course movement).course ended fun d hd => (still d hd).stays

theorem inStep_tell (event : Event) {s : State W} (inStep : InStep h aside start s) :
    InStep h aside start ((standard h).tell event s) :=
  inStep.drifts (.single (.note event s.world)) rfl

theorem drifts_report (h : Host W) (aside : W → W → Prop) {kind : Kind}
    (hk : kind ≠ .insufficientData) (message : String) (item : Option String) (s : State W) :
    Drifts h aside s.world ((standard h).report kind message item s).world ∧
      ((standard h).report kind message item s).session.cwd = s.session.cwd := by
  obtain ⟨ds, es, course, ⟨r, conduct⟩, silent⟩ :=
    conduct_report h hk message item s (fun _ => False) false
  have stays : ∀ d ∈ ds ++ es, d.Stays := by
    refine List.forall_mem_append.mpr ⟨?_, ?_⟩
    · exact fun d hd => ((conduct.permitted d hd).resolve_right id).stays
    · exact fun d hd => (silent d hd).2.stays
  exact ⟨course.drifts aside stays, course.cwd_of_stays stays⟩

theorem inStep_report {kind : Kind} (hk : kind ≠ .insufficientData) (message : String)
    (item : Option String) {s : State W} (inStep : InStep h aside start s) :
    InStep h aside start ((standard h).report kind message item s) := by
  obtain ⟨drifts, hcwd⟩ := drifts_report h aside hk message item s
  exact inStep.drifts drifts hcwd

theorem law_inStep (steady : h.Steady aside start) :
    Law (standard h) aside fun _ s t => InStep h aside start s → InStep h aside start t where
  refl _ := id
  trans first second := second ∘ first
  dispatch := inStep_dispatch steady
  tell event _ := inStep_tell event
  aside _ _ ha inStep := inStep.drifts (.single (.aside ha)) rfl
  reset _ inStep := inStep.drifts .refl rfl

/-! ## Whatever is asked -/

theorem inStep_loop (steady : h.Steady aside start) {source : LineSource W}
    (within : source.Within aside) {s : State W} (inStep : InStep h aside start s) :
    InStep h aside start ((standard h).loop source s).2.2 := by
  have read := (law_inStep steady).readLines within.showPrompt within.supply s inStep
  exact (inStep_tell _ read).drifts .refl rfl

theorem inStep_converse (steady : h.Steady aside start) {openSource : Attempt W (LineSource W)}
    (opens : Opens aside openSource) {s : State W} (inStep : InStep h aside start s) :
    InStep h aside start ((standard h).converse openSource s).2 ∧
      ∀ r ∈ (standard h).converseRounds openSource s,
        InStep h aside start r.before ∧ InStep h aside start r.typed := by
  have opened : InStep h aside start { s with world := (openSource s.world).2 } :=
    inStep.drifts (.single (.aside (opens s.world).1)) rfl
  simp only [converse, converseRounds]
  cases ho : openSource s.world with
  | mk answer w =>
    rw [Action.run_call ho]
    rw [ho] at opened
    cases answer with
    | error cause => exact ⟨opened, by simp⟩
    | ok source =>
      have within := (opens s.world).2 source (congrArg Prod.fst ho)
      exact ⟨inStep_loop steady within opened,
        (law_inStep steady).rounds within.showPrompt within.supply opened⟩

theorem inStep_announce (lines : List String) (code : State W → ReturnCode) {s : State W}
    (inStep : InStep h aside start s) :
    InStep h aside start ((standard h).announce lines code s).2 := by
  have writes : (h.printAll lines).Abides h (fun _ => False) false {} fun _ => True :=
    .printAll lines
  obtain ⟨ds, course, conduct⟩ := writes s
  have written := inStep.course course fun d hd => ((conduct.permitted d hd).resolve_right id).stays
  have hrun : ((standard h).announce lines code s).2 = ((h.printAll lines).run s).2 := by
    simp only [announce, standard]
    cases (h.printAll lines).run s with
    | mk answer t => cases answer <;> rfl
  rw [hrun]
  exact written

theorem inStep_launch (steady : h.Steady aside start) (invocation : Invocation)
    {openSource : Attempt W (LineSource W)} (opens : Opens aside openSource) {s : State W}
    (inStep : InStep h aside start s) :
    InStep h aside start ((standard h).launch invocation openSource s).2 ∧
      ∀ r ∈ (standard h).launchRounds openSource
          ((standard h).tell (.launching invocation) s) invocation,
        InStep h aside start r.before ∧ InStep h aside start r.typed := by
  let sh := standard h
  have begun : InStep h aside start (sh.tell (.launching invocation) s) := inStep_tell _ inStep
  cases invocation with
  | interactive =>
    have entered : InStep h aside start (sh.enterHome (sh.tell (.launching .interactive) s)).2 :=
      inStep_changeDir steady s.session.home begun
    simp only [launch, launchInteractive, launchRounds]
    cases hr : sh.enterHome (sh.tell (.launching .interactive) s) with
    | mk answer t =>
      rw [hr] at entered
      cases answer with
      | ok _ => exact inStep_converse steady opens entered
      | error cause => exact inStep_converse steady opens (inStep_tell _ entered)
  | directory path =>
    have entered : InStep h aside start
        (sh.changeDir path (sh.tell (.launching (.directory path)) s)).2 :=
      inStep_changeDir steady path begun
    simp only [launch, launchIn, launchRounds]
    cases hr : sh.changeDir path (sh.tell (.launching (.directory path)) s) with
    | mk answer t =>
      rw [hr] at entered
      cases answer with
      | ok _ => exact inStep_converse steady opens entered
      | error cause =>
        exact ⟨inStep_report (by decide) _ _ (inStep_tell _ entered), by simp⟩
  | command words =>
    refine ⟨?_, by simp [launchRounds]⟩
    have done : InStep h aside start (if words.isEmpty then
        sh.report .insufficientArguments "insufficient arguments" none
          (sh.tell (.launching (.command words)) s)
        else (sh.dispatch words (sh.tell (.launching (.command words)) s)).2) := by
      split
      · exact inStep_report (by decide) _ _ begun
      · exact inStep_dispatch steady words _ begun
    exact (inStep_tell _ done).drifts .refl rfl
  | version => exact ⟨inStep_announce _ _ begun, by simp [launchRounds]⟩
  | help text => exact ⟨inStep_announce _ _ begun, by simp [launchRounds]⟩
  | invalid text =>
    exact ⟨inStep_announce _ _ (inStep_report (by decide) _ _ begun), by simp [launchRounds]⟩

theorem inStep_serve (steady : h.Steady aside start) {request : Request W}
    (within : request.Within aside) {s : State W} (inStep : InStep h aside start s) :
    InStep h aside start ((standard h).serve request s) := by
  cases request with
  | words argv => exact inStep_dispatch steady argv s inStep
  | line text => exact inStep_dispatch steady (tokenize text) s inStep
  | changeDir path => exact inStep_changeDir steady path inStep
  | enterHome => exact inStep_changeDir steady s.session.home inStep
  | loop source => exact inStep_loop steady within inStep
  | launch invocation openSource => exact (inStep_launch steady invocation within inStep).1

theorem inStep_serveAll (steady : h.Steady aside start) {requests : List (Request W)}
    (within : ∀ request ∈ requests, request.Within aside) {s : State W}
    (inStep : InStep h aside start s) :
    InStep h aside start ((standard h).serveAll requests s) := by
  induction requests generalizing s with
  | nil => exact inStep
  | cons request rest ih =>
    obtain ⟨first, others⟩ := List.forall_mem_cons.mp within
    exact ih others (inStep_serve steady first inStep)

theorem inStep_roundsOf (steady : h.Steady aside start) {request : Request W}
    (within : request.Within aside) {s : State W} (inStep : InStep h aside start s) :
    ∀ r ∈ (standard h).roundsOf request s,
      InStep h aside start r.before ∧ InStep h aside start r.typed := by
  cases request with
  | loop source => exact (law_inStep steady).rounds within.showPrompt within.supply inStep
  | launch invocation openSource => exact (inStep_launch steady invocation within inStep).2
  | _ => simp [roundsOf]

end Interpreter

end LineShell
