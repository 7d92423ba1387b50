import LineShell.Proofs.Batch

/-!
# Runs of actions, deed by deed

A `Course` says where deeds lead, and `Action.Does` adds what came of the action that did them.  The
rules below follow the binds of an action, so that the deeds of a command are written down in the
order of its text.  `comes_to_of_does` then says what a dispatch makes of them: its calls, the
records it appends and the session it leaves are those of its command, but for one more record if
the command broke off.

A host is one world with capabilities that act on all of it.  Behind most hosts there is a file
system that keeps to itself: calls on files are answered by its state alone, and nothing that is
written, told or waited for reaches it.  `Host.Holds` says so of any file system, whatever it
answers.  What a dispatch does to the files is then what the file system does when it is given the
calls of the dispatch once more, one after the other.
-/

namespace LineShell

variable {W α β : Type}

theorem Action.bind_assoc {γ : Type} (x : Action W α) (f : α → Action W β) (g : β → Action W γ) :
    x >>= f >>= g = x >>= fun a => f a >>= g := by
  refine funext fun s => ?_
  show (x >>= f >>= g).run s = (x >>= fun a => f a >>= g).run s
  cases hx : x.run s with
  | mk r t =>
    cases r with
    | ok a => rw [run_bind, run_bind_ok hx, run_bind_ok hx, run_bind]
    | error cause => rw [run_bind_error hx, run_bind_error (run_bind_error hx)]

/-- The action gives a result, and the deeds lead to the state that it leaves. -/
structure Action.Does (h : Host W) (x : Action W α) (s : State W) (ds : List Deed)
    (r : Except Failure α) (t : State W) : Prop where
  run : x.run s = (r, t)
  course : Course h s ds t

namespace Action.Does

variable {h : Host W} {s t u : State W} {ds es : List Deed}

theorem pure (a : α) (s : State W) : Does h (Pure.pure a) s [] (.ok a) s := ⟨rfl, .nil s⟩

theorem bind {x : Action W α} {f : α → Action W β} {a : α} {r : Except Failure β}
    (first : Does h x s ds (.ok a) t) (second : Does h (f a) t es r u) :
    Does h (x >>= f) s (ds ++ es) r u := by
  constructor
  · rw [run_bind_ok first.run]
    exact second.run
  · exact first.course.append second.course

theorem bind_error {x : Action W α} {f : α → Action W β} {cause : Failure}
    (first : Does h x s ds (.error cause) t) : Does h (x >>= f) s ds (.error cause) t :=
  ⟨run_bind_error first.run, first.course⟩

theorem bind_pure {x : Action W α} {r : Except Failure α} (first : Does h x s ds r t) (b : β) :
    Does h (x >>= fun _ => Pure.pure b) s ds (r.map fun _ => b) t := by
  cases r with
  | error cause => exact first.bind_error
  | ok a => exact ⟨run_bind_ok first.run, first.course⟩

theorem tell (event : Event) (s : State W) :
    Does h (h.tell event) s [.tell event] (.ok ()) { s with world := h.note event s.world } :=
  ⟨rfl, .single (.tell s event)⟩

theorem attempt {c : Call} {attempt : Attempt W α} {reply : α → Reply}
    (hperform : h.perform c = attempt.reply reply) (s : State W) :
    Does h (Action.attempt attempt) s [.call c ((attempt s.world).1.map reply)]
      (.ok (attempt s.world).1) { s with world := (attempt s.world).2 } := by
  have made := Deed.Makes.call (h := h) s c
  rw [hperform] at made
  exact ⟨rfl, .single made⟩

theorem call {c : Call} {attempt : Attempt W Unit}
    (hperform : h.perform c = attempt.reply fun _ => .done) (s : State W) :
    ∃ told t, Does h (Action.call attempt) s [.call c (told.map fun _ => .done)] told t :=
  ⟨_, _, rfl, course_call hperform s⟩

theorem print (text : String) (s : State W) :
    ∃ told t, Does h (h.print text) s [.call (.line text) (told.map fun _ => .done)] told t :=
  call rfl s

theorem fail (kind : Kind) (message : String) (item : Option String) (s : State W) :
    ∃ told t, Does h (h.fail kind message item) s
      [.push (Record.ofKind kind), .tell (.recorded kind s.errors.count message item),
        .call (.complain message item) (told.map fun _ => .done)] told t :=
  ⟨_, _, rfl, course_fail h kind message item s⟩

/-! ## An output that works -/

section

variable (works : h.OutputWorks)

include works

theorem told_of_works (ds : List Deed) {x : Action W Unit} {told : Except Failure Unit} {c : Call}
    (does : Does h x s (ds ++ [.call c (told.map fun _ => .done)]) told t)
    (ho : c.isOutput = true) : told = .ok () := by
  have heard := does.course.heard works ⟨c, told.map fun _ => .done⟩ (by simp)
  cases told with
  | ok _ => rfl
  | error cause =>
    have lost : Entry.isLost ⟨c, .error cause⟩ = true := ho
    cases lost.symm.trans heard

theorem print_of_works (text : String) (s : State W) :
    ∃ t, Does h (h.print text) s [.call (.line text) (.ok .done)] (.ok ()) t := by
  obtain ⟨told, t, does⟩ := print text s
  obtain rfl := told_of_works works [] does rfl
  exact ⟨t, does⟩

theorem printAll_of_works (lines : List String) (s : State W) :
    ∃ t, Does h (h.printAll lines) s (lines.map fun text => .call (.line text) (.ok .done))
      (.ok ()) t := by
  induction lines generalizing s with
  | nil => exact ⟨s, .pure () s⟩
  | cons text rest ih =>
    obtain ⟨t, first⟩ := print_of_works works text s
    obtain ⟨u, others⟩ := ih t
    exact ⟨u, first.bind others⟩

theorem reject_of_works (kind : Kind) (message : String) (item : Option String) (s : State W) :
    ∃ t, Does h (h.reject kind message item) s
      [.push (Record.ofKind kind), .tell (.recorded kind s.errors.count message item),
        .call (.complain message item) (.ok .done)] (.ok .success) t := by
  obtain ⟨told, t, does⟩ := fail kind message item s
  obtain rfl := told_of_works works [_, _] does rfl
  exact ⟨t, does.bind_pure Token.success⟩

end

end Action.Does

theorem Host.outputWorks_bare : Host.bare.OutputWorks := by
  intro c hc w
  cases c <;> first | rfl | cases hc

/-! ## Deeds that leave the session alone -/

/-- The deeds make the calls and push the records, and the session stays as it was. -/
structure Tally (ds : List Deed) (calls : List Entry) (records : List Record) : Prop where
  calls : entriesOf ds = calls
  records : recordsOf ds = records
  codes : codesOf ds = []
  cwds : cwdsOf ds = []

namespace Tally

variable {ds es : List Deed} {calls calls' : List Entry} {records records' : List Record}

theorem nil : Tally [] [] [] := ⟨rfl, rfl, rfl, rfl⟩

theorem append (first : Tally ds calls records) (second : Tally es calls' records') :
    Tally (ds ++ es) (calls ++ calls') (records ++ records') := by
  constructor
  · rw [entriesOf_append, first.calls, second.calls]
  · rw [recordsOf_append, first.records, second.records]
  · rw [codesOf_append, first.codes, second.codes, List.append_nil]
  · rw [cwdsOf_append, first.cwds, second.cwds, List.append_nil]

theorem cons_call (rest : Tally ds calls records) (c : Call) (answer : Except Failure Reply) :
    Tally (.call c answer :: ds) (⟨c, answer⟩ :: calls) records := by
  have made : Tally [.call c answer] [⟨c, answer⟩] [] := ⟨rfl, rfl, rfl, rfl⟩
  exact made.append rest

theorem cons_tell (rest : Tally ds calls records) (event : Event) :
    Tally (.tell event :: ds) calls records := by
  have told : Tally [.tell event] [] [] := ⟨rfl, rfl, rfl, rfl⟩
  exact told.append rest

theorem lines (lines : List String) (answer : Except Failure Reply) :
    Tally (lines.map fun text => .call (.line text) answer)
      (lines.map fun text => ⟨.line text, answer⟩) [] := by
  induction lines with
  | nil => exact nil
  | cons text rest ih => exact ih.cons_call (.line text) answer

theorem fail (kind : Kind) (event : Event) (message : String) (item : Option String)
    (answer : Except Failure Reply) :
    Tally [.push (Record.ofKind kind), .tell event, .call (.complain message item) answer]
      [⟨.complain message item, answer⟩] [Record.ofKind kind] :=
  ⟨rfl, rfl, rfl, rfl⟩

end Tally

/-! ## Lines for the host's shell -/

/-- What handing over a line takes: one call, and a second one if the line was refused, which says
so and may fail in turn. -/
inductive Handed (line : String) : Option (Except Failure Unit) → List Entry → Prop
  | started : Handed line none [⟨.run line, .ok .done⟩]
  | refused (cause : Failure) (told : Except Failure Unit) :
      Handed line (some told) [⟨.run line, .error cause⟩,
        ⟨.complain "failed to run command" (some line), told.map fun _ => .done⟩]

/-! ## Dispatches -/

theorem Course.session {h : Host W} {s t : State W} {ds : List Deed} (course : Course h s ds t) :
    t.session =
      { cwd := (cwdsOf ds).getLast?.getD s.session.cwd
        home := s.session.home
        user := s.session.user
        code := (codesOf ds).getLast?.getD s.session.code
        last := t.session.last } := by
  obtain ⟨hhome, huser⟩ := course.owner
  rw [← course.code, ← course.cwd, ← hhome, ← huser]

/-- The deeds of the interpreter after a command, given how many records the command left. -/
def aftermath (name : String) (count : Nat) : Except Failure Token → List Deed
  | .ok token => [.tell (.dispatched token), .keep token]
  | .error cause =>
    [.tell (.commandFailed name cause), .push (Record.ofKind .unknown), .tell (.unexpected count),
      .tell (.dispatched .success), .keep .success]

/-- What is recorded of a command that broke off. -/
def lossRecords : Except Failure Token → List Record
  | .ok _ => []
  | .error _ => [Record.ofKind .unknown]

@[simp] theorem entriesOf_aftermath (name : String) (count : Nat) (r : Except Failure Token) :
    entriesOf (aftermath name count r) = [] := by
  cases r <;> rfl

@[simp] theorem recordsOf_aftermath (name : String) (count : Nat) (r : Except Failure Token) :
    recordsOf (aftermath name count r) = lossRecords r := by
  cases r <;> rfl

@[simp] theorem codesOf_aftermath (name : String) (count : Nat) (r : Except Failure Token) :
    codesOf (aftermath name count r) = [] := by
  cases r <;> rfl

@[simp] theorem cwdsOf_aftermath (name : String) (count : Nat) (r : Except Failure Token) :
    cwdsOf (aftermath name count r) = [] := by
  cases r <;> rfl

/-- What a dispatch comes to if its command takes the deeds and ends in the result. -/
structure ComesTo (h : Host W) (words : List String) (s : State W) (ds : List Deed)
    (r : Except Failure Token) : Prop where
  token : ((Interpreter.standard h).dispatch words s).1 = r.toOption.getD .success
  calls : h.callsOf words s = entriesOf ds
  records : ((Interpreter.standard h).dispatch words s).2.errors.records =
    s.errors.records ++ (recordsOf ds ++ lossRecords r)
  session : ((Interpreter.standard h).dispatch words s).2.session =
    { cwd := (cwdsOf ds).getLast?.getD s.session.cwd
      home := s.session.home
      user := s.session.user
      code := (codesOf ds).getLast?.getD s.session.code
      last := some (r.toOption.getD .success) }

/-- A dispatch makes the calls, appends the records and keeps the token of success, and that is all
it does to the log and to the session. -/
structure AmountsTo (h : Host W) (words : List String) (s : State W) (calls : List Entry)
    (records : List Record) : Prop where
  token : ((Interpreter.standard h).dispatch words s).1 = .success
  calls : h.callsOf words s = calls
  records : ((Interpreter.standard h).dispatch words s).2.errors.records =
    s.errors.records ++ records
  session : ((Interpreter.standard h).dispatch words s).2.session =
    { s.session with last := some .success }

theorem ComesTo.amountsTo {h : Host W} {words : List String} {s : State W} {ds : List Deed}
    {r : Except Failure Token} {calls : List Entry} {records : List Record}
    (comes : ComesTo h words s ds r) (tally : Tally ds calls records)
    (success : r.toOption.getD .success = .success) :
    AmountsTo h words s calls (records ++ lossRecords r) := by
  constructor
  · rw [comes.token, success]
  · rw [comes.calls, tally.calls]
  · rw [comes.records, tally.records]
  · rw [comes.session, tally.codes, tally.cwds, success]
    rfl

namespace Interpreter

theorem dispatch_of_does (h : Host W) {name : String} {b : Builtin}
    (ho : Builtin.ofName? name = some b) {operands : List String} {s t : State W}
    {ds : List Deed} {r : Except Failure Token} {event : Event}
    (hevent : event = .commandStarted ((b.command h).names.headD name) operands.length)
    (does : Action.Does h
      ((b.command h).execute (standard h).commands.synopses name operands)
      ((standard h).tell event s) ds r t) :
    ((standard h).dispatch (name :: operands) s).1 = r.toOption.getD .success ∧
      Course h s ([.tell event] ++ ds ++ aftermath name t.errors.count r)
        ((standard h).dispatch (name :: operands) s).2 := by
  have begun : Course h s [.tell event] ((standard h).tell event s) := .single (.tell s event)
  have course := begun.append does.course
  have hrun := does.run
  rw [hevent] at hrun
  simp only [dispatch, answer_of_command h ho]
  cases r with
  | ok token =>
    rw [runCommand_of_ok hrun]
    exact ⟨rfl, course.append (.cons (.tell t _) (.single (.keep _ token)))⟩
  | error cause =>
    rw [runCommand_of_error hrun]
    have broke := course_breakOff h name cause t
    exact ⟨rfl, course.append (broke.append (.cons (.tell _ _) (.single (.keep _ .success))))⟩

/-- What a dispatch does to the log and to the session, and which calls it makes, is read off its
deeds on the host with the journal. -/
theorem read_course {h : Host W} {words : List String} {s : State W} {ds : List Deed}
    (course : Course h.journaled s.journaled ds
      ((standard h.journaled).dispatch words s.journaled).2) :
    h.callsOf words s = entriesOf ds ∧
      ((standard h).dispatch words s).2.errors.records = s.errors.records ++ recordsOf ds ∧
      ((standard h).dispatch words s).2.session =
        { cwd := (cwdsOf ds).getLast?.getD s.session.cwd
          home := s.session.home
          user := s.session.user
          code := (codesOf ds).getLast?.getD s.session.code
          last := some ((standard h).dispatch words s).1 } := by
  have plain : forgetting ((standard h.journaled).dispatch words s.journaled) =
      (standard h).dispatch words s := forgetting_dispatch h words s.journaled
  have hsession := course.session
  rw [dispatch_last] at hsession
  rw [← plain]
  exact ⟨course.entries, course.records, hsession⟩

theorem comes_to_of_does (h : Host W) {name : String} {b : Builtin}
    (ho : Builtin.ofName? name = some b) (operands : List String) (s : State W) :
    ∃ event synopses, ∀ ds r t,
      Action.Does h.journaled ((b.command h.journaled).execute synopses name operands)
        ((standard h.journaled).tell event s.journaled) ds r t →
      ComesTo h (name :: operands) s ds r := by
  let started := Event.commandStarted ((b.command h.journaled).names.headD name) operands.length
  refine ⟨started, (standard h.journaled).commands.synopses, fun ds r t does => ?_⟩
  obtain ⟨htoken, course⟩ := dispatch_of_does h.journaled ho rfl does
  have plain : forgetting ((standard h.journaled).dispatch (name :: operands) s.journaled) =
      (standard h).dispatch (name :: operands) s := forgetting_dispatch h _ s.journaled
  have token : ((standard h).dispatch (name :: operands) s).1 = r.toOption.getD .success := by
    rw [← plain]
    exact htoken
  obtain ⟨hcalls, hrecords, hsession⟩ := read_course course
  rw [token] at hsession
  refine ⟨token, ?_, ?_, ?_⟩
  · simpa using hcalls
  · simpa using hrecords
  · simpa using hsession

theorem amountsTo_of_course {h : Host W} {words : List String} {s : State W} {ds : List Deed}
    {calls : List Entry} {records : List Record}
    (course : Course h.journaled s.journaled ds
      ((standard h.journaled).dispatch words s.journaled).2)
    (tally : Tally ds calls records)
    (token : ((standard h).dispatch words s).1 = .success) :
    AmountsTo h words s calls records := by
  obtain ⟨hcalls, hrecords, hsession⟩ := read_course course
  refine ⟨token, ?_, ?_, ?_⟩
  · rw [hcalls, tally.calls]
  · rw [hrecords, tally.records]
  · rw [hsession, tally.codes, tally.cwds, token]
    rfl

/-! ## Outside of commands -/

/-- A failure outside of any command is recorded and written, and that it could not be written is
only told. -/
theorem tally_report (h : Host W) (kind : Kind) (message : String) (item : Option String)
    (s : State W) :
    ∃ told : Except Failure Unit, ∃ ds, Course h s ds ((standard h).report kind message item s) ∧
      Tally ds [⟨.complain message item, told.map fun _ => .done⟩] [Record.ofKind kind] := by
  obtain ⟨told, t, does⟩ := Action.Does.fail (h := h) kind message item s
  have tally := Tally.fail kind (.recorded kind s.errors.count message item) message item
    (told.map fun _ => .done)
  cases told with
  | ok u =>
    have hrun : ((standard h).host.fail kind message item).run s = (.ok u, t) := does.run
    rw [report_of_ok hrun]
    exact ⟨.ok u, _, does.course, tally⟩
  | error cause =>
    have hrun : ((standard h).host.fail kind message item).run s = (.error cause, t) := does.run
    rw [report_of_error hrun]
    exact ⟨.error cause, _, does.course.append (.single (.tell t (.errorLineLost cause))),
      tally.append (Tally.nil.cons_tell _)⟩

/-- A line for the host's shell is one call, and a second one with a record if it was refused. -/
theorem tally_external (h : Host W) (line : String) (s : State W) :
    ∃ outcome calls ds, Handed line outcome calls ∧
      Course h s ds ((standard h).runExternal line s).2 ∧
      Tally ds calls (outcome.toList.map fun _ => Record.ofKind .unknown) := by
  cases hr : h.run line s.world with
  | mk answer w =>
    have made : Deed.Makes h s (.call (.run line) (answer.map fun _ => .done))
        { s with world := w } :=
      .of_perform (by simp [Host.perform, Attempt.reply, hr])
    simp only [runExternal, standard, Action.run_call hr]
    cases answer with
    | ok u => exact ⟨none, _, _, .started, .single made, Tally.nil.cons_call _ _⟩
    | error cause =>
      obtain ⟨told, ds, course, tally⟩ := tally_report h .unknown "failed to run command"
        (some line) ((standard h).tell (.externalRefused cause line) { s with world := w })
      exact ⟨some told, _, _, .refused cause told, .cons made (.cons (.tell _ _) course),
        (tally.cons_tell _).cons_call _ _⟩

/-- Words that no command answers to hand over their line and record a refusal. -/
theorem amountsTo_external (h : Host W) {word : String} (hword : Builtin.ofName? word = none)
    (words : List String) (s : State W) :
    ∃ outcome calls, Handed (joinWords (word :: words)) outcome calls ∧
      AmountsTo h (word :: words) s calls (outcome.toList.map fun _ => Record.ofKind .unknown) := by
  have hanswer := answer_of_external h.journaled hword words s.journaled
  obtain ⟨outcome, calls, ds, handed, course, tally⟩ :=
    tally_external h.journaled (joinWords (word :: words)) s.journaled
  have ended : Course h.journaled
      ((standard h.journaled).runExternal (joinWords (word :: words)) s.journaled).2
      [.tell (.dispatched .success), .keep .success]
      ((standard h.journaled).dispatch (word :: words) s.journaled).2 := by
    simp only [dispatch, hanswer, (account_runExternal h.journaled _ _).1]
    exact .cons (.tell _ _) (.single (.keep _ _))
  have last : Tally [.tell (.dispatched .success), .keep .success] [] [] := ⟨rfl, rfl, rfl, rfl⟩
  have tally := tally.append last
  rw [List.append_nil, List.append_nil] at tally
  have token : ((standard h).dispatch (word :: words) s).1 = .success := by
    rw [(account_dispatch h (word :: words) s).1, Errand.ofWords_external hword]
    rfl
  exact ⟨outcome, calls, handed, amountsTo_of_course (course.append ended) tally token⟩

end Interpreter

/-! ## File systems behind a host -/

variable {F : Type}

/-- A host that has nothing but a file system.  What is written is dropped, and command lines do
nothing. -/
def FileSystem.alone (fs : FileSystem F) : Host F where
  toFileSystem := fs
  writeLine _ files := (.ok (), files)
  writeError _ _ files := (.ok (), files)
  clear files := (.ok (), files)
  run _ files := (.ok (), files)
  note _ files := files
  pause _ files := files

/-- The files that show of the world are those of the file system, and only calls on files and
command lines reach them. -/
structure Host.Holds (h : Host W) (fs : FileSystem F) (files : W → F) : Prop where
  filing : ∀ c, c.isFiling = true → ∀ w,
    fs.alone.perform c (files w) = ((h.perform c w).1, files (h.perform c w).2)
  output : ∀ c, c.isOutput = true → ∀ w, files (h.perform c w).2 = files w
  note : ∀ event w, files (h.note event w) = files w
  pause : ∀ seconds w, files (h.pause seconds w) = files w

theorem FileSystem.holds_alone (fs : FileSystem F) : fs.alone.Holds fs id where
  filing _ _ _ := rfl
  output c hc _ := by cases c <;> first | rfl | cases hc
  note _ _ := rfl
  pause _ _ := rfl

theorem FileSystem.outputWorks_alone (fs : FileSystem F) : fs.alone.OutputWorks := by
  intro c hc w
  cases c <;> first | rfl | cases hc

/-- A call on files is answered as the file system answers it. -/
theorem Host.Holds.answers {h : Host W} {fs : FileSystem F} {files : W → F}
    (holds : h.Holds fs files) {c : Call} (hc : c.isFiling = true) {f : α → Reply}
    (hf : ∀ a b, f a = f b → a = b) {own : Attempt W α} {theirs : Attempt F α}
    (hown : h.perform c = own.reply f) (htheirs : fs.alone.perform c = theirs.reply f) {w : W}
    {answer : Except Failure α} {after : F} (answered : theirs (files w) = (answer, after)) :
    ∃ v, own w = (answer, v) ∧ files v = after := by
  have hfiling := holds.filing c hc w
  simp only [hown, htheirs, Attempt.reply, answered, Prod.mk.injEq] at hfiling
  obtain ⟨hanswer, hafter⟩ := hfiling
  refine ⟨(own w).2, ?_, hafter.symm⟩
  cases hr : own w with
  | mk given v =>
    rw [hr] at hanswer
    cases answer with
    | ok a =>
      cases given with
      | ok b => rw [hf a b (Except.ok.inj hanswer)]
      | error cause => cases hanswer
    | error cause =>
      cases given with
      | ok b => cases hanswer
      | error cause' => rw [Except.error.inj hanswer]

theorem Host.Holds.setCurrentDir {h : Host W} {fs : FileSystem F} {files : W → F} {w : W}
    {path : String} {answer : Except Failure Unit} {after : F} (holds : h.Holds fs files)
    (moved : fs.setCurrentDir path (files w) = (answer, after)) :
    ∃ v, h.setCurrentDir path w = (answer, v) ∧ files v = after :=
  holds.answers (c := .move path) rfl (fun _ _ _ => rfl) rfl rfl moved

theorem Host.Holds.currentDir {h : Host W} {fs : FileSystem F} {files : W → F} {w : W}
    {answer : Except Failure String} {after : F} (holds : h.Holds fs files)
    (named : fs.currentDir (files w) = (answer, after)) :
    ∃ v, h.currentDir w = (answer, v) ∧ files v = after :=
  holds.answers (c := .locate) rfl (fun _ _ => Reply.place.inj) rfl rfl named

theorem Host.Holds.of_over {V : Type} {h : Host W} {fs : FileSystem F} {files : W → F}
    {π : V → W} {h' : Host V} (holds : h.Holds fs files) (above : Host.Over π h' h) :
    h'.Holds fs fun v => files (π v) where
  filing c hc v := by
    have hfiling := holds.filing c hc (π v)
    rwa [above.perform] at hfiling
  output c hc v := by
    have houtput := holds.output c hc (π v)
    rwa [above.perform] at houtput
  note event v := by
    rw [← above.note]
    exact holds.note event (π v)
  pause seconds v := by
    rw [← above.pause]
    exact holds.pause seconds (π v)

theorem Host.Holds.journaled {h : Host W} {fs : FileSystem F} {files : W → F}
    (holds : h.Holds fs files) : h.journaled.Holds fs fun j => files j.world :=
  holds.of_over h.over_journaled

/-- Calls that were answered by the file system, or by others who left the files alone. -/
inductive FileSystem.Replay (fs : FileSystem F) : F → List Entry → F → Prop
  | nil (files : F) : Replay fs files [] files
  | filing {files next after : F} {e : Entry} {entries : List Entry}
      (filing : e.call.isFiling = true)
      (answered : fs.alone.perform e.call files = (e.answer, next))
      (rest : Replay fs next entries after) : Replay fs files (e :: entries) after
  | aside {files after : F} {e : Entry} {entries : List Entry}
      (aside : e.call.isFiling = false) (rest : Replay fs files entries after) :
      Replay fs files (e :: entries) after

/-- Whether a call is none that runs a command line. -/
def Entry.isTame (e : Entry) : Bool := e.call.isFiling || e.call.isOutput

theorem Host.Holds.aside_of_tame {h : Host W} {fs : FileSystem F} {files : W → F}
    (holds : h.Holds fs files) {e : Entry} (tame : e.isTame = true)
    (aside : e.call.isFiling = false) (w : W) : files (h.perform e.call w).2 = files w := by
  rw [Entry.isTame, aside, Bool.false_or] at tame
  exact holds.output e.call tame w

/-- What a course does to the files can be had again from its calls, if those that are not on files
leave them alone. -/
theorem Course.replayed {h : Host W} {fs : FileSystem F} {files : W → F}
    (holds : h.Holds fs files) {s t : State W} {ds : List Deed} (course : Course h s ds t)
    (aside : ∀ e ∈ entriesOf ds, e.call.isFiling = false →
      ∀ w, files (h.perform e.call w).2 = files w) :
    fs.Replay (files s.world) (entriesOf ds) (files t.world) := by
  induction course with
  | nil s => exact .nil _
  | cons made _ ih =>
    cases made with
    | call c =>
      rw [entriesOf_cons] at aside ⊢
      obtain ⟨first, others⟩ := List.forall_mem_cons.mp aside
      have rest := ih others
      cases hc : c.isFiling with
      | true => exact .filing hc (holds.filing c hc _) rest
      | false =>
        rw [first hc] at rest
        exact .aside hc rest
    | tell event =>
      have rest := ih aside
      rw [holds.note] at rest
      exact rest
    | pause seconds =>
      have rest := ih aside
      rw [holds.pause] at rest
      exact rest
    | _ => exact ih aside

namespace FileSystem.Replay

variable {fs : FileSystem F} {files after : F} {entries : List Entry}

/-- The first call of a replay, if it is on the files. -/
theorem first {c : Call} {answer : Except Failure Reply}
    (replay : fs.Replay files (⟨c, answer⟩ :: entries) after) (hc : c.isFiling = true) :
    (fs.alone.perform c files).1 = answer ∧
      fs.Replay (fs.alone.perform c files).2 entries after := by
  cases replay with
  | filing _ answered rest =>
    rw [answered]
    exact ⟨rfl, rest⟩
  | aside aside => cases hc.symm.trans aside

/-- The first call of a replay, if it is not. -/
theorem rest_of_aside {e : Entry} (replay : fs.Replay files (e :: entries) after)
    (aside : e.call.isFiling = false) : fs.Replay files entries after := by
  cases replay with
  | filing filing => cases filing.symm.trans aside
  | aside _ rest => exact rest

/-- An attempt is answered by the file system, and the report on it leaves the files alone. -/
theorem edited {edit : PathEdit} {path : String} {answer : Except Failure Reply}
    {told : Except Failure Unit}
    (replay : fs.Replay files (edit.entries path answer told ++ entries) after) :
    answer = (fs.edit edit path files).1.map (fun _ => .done) ∧
      fs.Replay (fs.edit edit path files).2 entries after := by
  have reported : (edit.report path answer).isFiling = false := by cases answer <;> rfl
  obtain ⟨answered, rest⟩ := replay.first rfl
  exact ⟨answered.symm, rest.rest_of_aside reported⟩

end FileSystem.Replay

namespace Interpreter

theorem world_journaled (h : Host W) (words : List String) (s : State W) :
    ((standard h.journaled).dispatch words s.journaled).2.world.world =
      ((standard h).dispatch words s).2.world :=
  congrArg (·.2.world) (forgetting_dispatch h words s.journaled)

/-- What a dispatch does to the files can be had again from the file system and the calls. -/
theorem replayed_dispatch {h : Host W} {fs : FileSystem F} {files : W → F}
    (holds : h.Holds fs files) {words : List String} {s : State W}
    (tame : ∀ e ∈ h.callsOf words s, e.isTame = true) :
    fs.Replay (files s.world) (h.callsOf words s)
      (files ((standard h).dispatch words s).2.world) := by
  obtain ⟨ds, course, hcalls⟩ := course_calls h words s
  rw [hcalls] at tame ⊢
  rw [← world_journaled]
  exact course.replayed holds.journaled fun e he => holds.journaled.aside_of_tame (tame e he)

end Interpreter
end LineShell
