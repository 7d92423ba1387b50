import LineShell.Proofs.Execution

/-!
# Commands that fail

A command other than a batch can fail once.  Either it refuses its operands, and then it has asked
nothing of the host; or one call of the host has failed, and then whatever it asked before was a
question.  In both cases it has written one error line and recorded one failure, so a host whose
failed calls do nothing has had nothing done to it.  `Action.FailsAs` names the kind under which an
action fails, and the commands are gone through once, in `Builtin.failsAs`.
-/

namespace LineShell

variable {W F α : Type}

/-- The kinds under which operands are refused. -/
def Kind.isRefusal : Kind → Bool
  | .insufficientArguments | .invalidData | .invalidToken => true
  | .invalidArguments | .insufficientData | .unknown => false

/-- Whether a call only asks how things are. -/
def Call.isQuery : Call → Bool
  | .list _ | .locate => true
  | _ => false

/-- Whether a call has failed or was a mere question. -/
def Entry.isIdle (e : Entry) : Bool := e.failed || e.call.isQuery

/-- What shows of the world changes only by calls that work and are neither questions nor calls on
the output. -/
structure Host.Careful (h : Host W) (files : W → F) : Prop where
  failed : ∀ c w cause, (h.perform c w).1 = .error cause → files (h.perform c w).2 = files w
  query : ∀ c, c.isQuery = true → ∀ w, files (h.perform c w).2 = files w
  output : ∀ c, c.isOutput = true → ∀ w, files (h.perform c w).2 = files w
  note : ∀ event w, files (h.note event w) = files w
  pause : ∀ seconds w, files (h.pause seconds w) = files w

theorem Host.Careful.journaled {h : Host W} {files : W → F} (careful : h.Careful files) :
    h.journaled.Careful fun j => files j.world where
  failed c j cause hc := by
    rw [h.perform_journaled] at hc ⊢
    exact careful.failed c j.world cause hc
  query c hc j := by
    rw [h.perform_journaled]
    exact careful.query c hc j.world
  output c hc j := by
    rw [h.perform_journaled]
    exact careful.output c hc j.world
  note event j := careful.note event j.world
  pause seconds j := careful.pause seconds j.world

theorem Course.kept {h : Host W} {files : W → F} (careful : h.Careful files) {s t : State W}
    {ds : List Deed} (course : Course h s ds t)
    (idle : ∀ e ∈ entriesOf ds, e.isIdle = true ∨ e.call.isOutput = true) :
    files t.world = files s.world := by
  refine course.induct (R := fun u => files u.world = files s.world)
    (D := fun d => ∀ e ∈ d.entry?, e.isIdle = true ∨ e.call.isOutput = true) ?_
    (fun d hd e he => idle e (List.mem_filterMap.mpr ⟨d, hd, he⟩)) rfl
  intro u d v hd made kept
  cases made with
  | call c =>
    rw [← kept]
    rcases hd _ rfl with hidle | houtput
    · rcases Bool.or_eq_true_iff.mp hidle with hfailed | hquery
      · cases hr : (h.perform c u.world).1 with
        | ok reply => simp [Entry.failed, hr, Except.isOk, Except.toBool] at hfailed
        | error cause => exact careful.failed c u.world cause hr
      · exact careful.query c hquery u.world
    · exact careful.output c houtput u.world
  | tell event => exact (careful.note event u.world).trans kept
  | pause seconds => exact (careful.pause seconds u.world).trans kept
  | _ => exact kept

/-! ## Deeds that fail and deeds that do not -/

/-- Deeds that push no record of the interpreter. -/
def Smooth (ds : List Deed) : Prop := ∀ r ∈ recordsOf ds, r.isStandard = false

theorem smooth_of_records {ds : List Deed} (hnone : recordsOf ds = []) : Smooth ds := by
  intro r hr
  rw [hnone] at hr
  cases hr

/-- The calls of a failure: what was asked did nothing, and the last call wrote the error line.
Operands are refused before anything is asked. -/
def Mishap (kind : Kind) (calls : List Entry) : Prop :=
  ∃ asked message item, calls = asked ++ [⟨.complain message item, .ok .done⟩] ∧
    (∀ e ∈ asked, e.call.isOutput = false ∧ e.isIdle = true) ∧
    (kind.isRefusal = true → asked = [])

namespace Mishap

variable {kind : Kind} {calls : List Entry}

theorem refusal (kind : Kind) (message : String) (item : Option String) :
    Mishap kind [⟨.complain message item, .ok .done⟩] :=
  ⟨[], message, item, rfl, by simp, fun _ => rfl⟩

theorem cons (mishap : Mishap kind calls) (hk : kind.isRefusal = false) {e : Entry}
    (ho : e.call.isOutput = false) (idle : e.isIdle = true) : Mishap kind (e :: calls) := by
  obtain ⟨asked, message, item, rfl, hasked, -⟩ := mishap
  refine ⟨e :: asked, message, item, rfl, List.forall_mem_cons.mpr ⟨⟨ho, idle⟩, hasked⟩, ?_⟩
  intro hrefusal
  rw [hk] at hrefusal
  cases hrefusal

theorem idle (mishap : Mishap kind calls) :
    ∀ e ∈ calls, e.isIdle = true ∨ e.call.isOutput = true := by
  obtain ⟨asked, message, item, rfl, hasked, -⟩ := mishap
  refine List.forall_mem_append.mpr ⟨fun e he => .inl (hasked e he).2, ?_⟩
  simp [Call.isOutput]

theorem output (mishap : Mishap kind calls) :
    ∃ message item,
      calls.filter (·.call.isOutput) = [⟨.complain message item, .ok .done⟩] ∧
      (kind.isRefusal = true → calls = [⟨.complain message item, .ok .done⟩]) := by
  obtain ⟨asked, message, item, rfl, hasked, hrefusal⟩ := mishap
  refine ⟨message, item, ?_, fun hk => by rw [hrefusal hk]; rfl⟩
  have hnone : asked.filter (·.call.isOutput) = [] := by
    rw [List.filter_eq_nil_iff]
    intro e he
    simp [(hasked e he).1]
  rw [List.filter_append, hnone]
  rfl

end Mishap

namespace Action

/-- Every run of the action works and records no failure. -/
def Succeeds (h : Host W) (x : Action W α) : Prop :=
  ∀ s, ∃ ds a t, Does h x s ds (.ok a) t ∧ Smooth ds

/-- Every run of the action records no failure or one of the kind, which is then all that it has
done. -/
def FailsAs (h : Host W) (kind : Kind) (x : Action W Token) : Prop :=
  ∀ s, ∃ ds token t, Does h x s ds (.ok token) t ∧
    (Smooth ds ∨ ∃ calls, Mishap kind calls ∧ Tally ds calls [Record.ofKind kind] ∧
      token = .success)

theorem Succeeds.failsAs {h : Host W} {x : Action W Token} (succeeds : Succeeds h x)
    (kind : Kind) : FailsAs h kind x := by
  intro s
  obtain ⟨ds, token, t, does, smooth⟩ := succeeds s
  exact ⟨ds, token, t, does, .inl smooth⟩

theorem FailsAs.session {h : Host W} {kind : Kind} {f : Session → Action W Token}
    (hf : ∀ x, FailsAs h kind (f x)) : FailsAs h kind (Action.session >>= f) := by
  intro s
  obtain ⟨ds, token, t, does, outcome⟩ := hf s.session s
  exact ⟨ds, token, t, ⟨does.run, does.course⟩, outcome⟩

section

variable {h : Host W} (works : h.OutputWorks)

include works

/-- An action that keeps the discipline and may make no call that owes an error line. -/
theorem Abides.succeeds {may : Deed → Prop} {wanted : Bool} {dues : Dues} {P : α → Prop}
    {x : Action W α} (abides : Abides h may wanted dues P x) (hown : dues.own = 0)
    (hmay : ∀ c answer, may (.call c answer) → c.owesComplaint wanted = false) :
    Succeeds h x := by
  intro s
  obtain ⟨ds, course, conduct⟩ := abides s
  have owes : ∀ e ∈ entriesOf ds, Entry.isRefusal wanted e = false := by
    intro e he
    obtain ⟨d, hd, hentry⟩ := List.mem_filterMap.mp he
    cases d with
    | call c answer =>
      obtain rfl := Option.some.inj hentry
      have hc : c.owesComplaint wanted = false := by
        rcases conduct.permitted _ hd with hcommon | hopen
        · have ho : c.isOutput = true := hcommon
          cases c <;> first | rfl | cases ho
        · exact hmay c answer hopen
      simp [Entry.isRefusal, hc]
    | _ => cases hentry
  have hcomplaints := conduct.complaints
  have hrefusals : (entriesOf ds).countP (Entry.isRefusal wanted) = 0 :=
    List.countP_eq_zero.mpr fun e he => by simp [owes e he]
  rw [hrefusals, hown] at hcomplaints
  have hrecords := conduct.records
  rw [hcomplaints] at hrecords
  have smooth : Smooth ds := by
    intro r hr
    simpa using List.countP_eq_zero.mp hrecords r hr
  have hlost := conduct.lost
  have heard : (entriesOf ds).countP Entry.isLost = 0 :=
    List.countP_eq_zero.mpr fun e he => by simp [course.heard works e he]
  rw [heard] at hlost
  cases hr : x.run s with
  | mk r t =>
    rw [hr] at course hlost
    cases r with
    | ok a => exact ⟨ds, a, t, ⟨hr, course⟩, smooth⟩
    | error cause => cases hlost

theorem FailsAs.reject (kind : Kind) (message : String) (item : Option String) :
    FailsAs h kind (h.reject kind message item) := by
  intro s
  obtain ⟨t, does⟩ := Does.reject_of_works works kind message item s
  exact ⟨_, .success, t, does,
    .inr ⟨_, .refusal kind message item, .fail kind _ message item _, rfl⟩⟩

/-- One call that may fail, and an action that goes on if it does not. -/
theorem FailsAs.attempt {β : Type} {attempt : Attempt W β}
    {f : Except Failure β → Action W Token} (c : Call) {reply : β → Reply}
    (hperform : h.perform c = attempt.reply reply) (ho : c.isOutput = false)
    (hok : ∀ b, Succeeds h (f (.ok b))) {kind : Kind} (hk : kind.isRefusal = false)
    {event : Failure → Event} {message : String} {item : Option String}
    (herror : ∀ cause, f (.error cause) =
      (h.tell (event cause) >>= fun _ => h.reject kind message item)) :
    FailsAs h kind (Action.attempt attempt >>= f) := by
  intro s
  have called := Does.attempt hperform s
  cases hr : (attempt s.world).1 with
  | ok b =>
    rw [hr] at called
    obtain ⟨ds, token, t, does, smooth⟩ := hok b { s with world := (attempt s.world).2 }
    exact ⟨_, token, t, called.bind does, .inl smooth⟩
  | error cause =>
    rw [hr] at called
    have told := Does.tell (h := h) (event cause) { s with world := (attempt s.world).2 }
    obtain ⟨t, rejected⟩ := Does.reject_of_works works kind message item
      { s with world := h.note (event cause) (attempt s.world).2 }
    have after := told.bind (f := fun _ => h.reject kind message item) rejected
    rw [← herror] at after
    have mishap := (Mishap.refusal kind message item).cons (e := ⟨c, .error cause⟩) hk ho rfl
    have tally := (Tally.fail kind (.recorded kind s.errors.count message item) message item
      (.ok .done)).cons_tell (event cause)
    exact ⟨_, .success, t, called.bind after, .inr ⟨_, mishap, tally.cons_call c _, rfl⟩⟩

omit works in
/-- A question may be asked first. -/
theorem FailsAs.query {β : Type} {x : Action W β} {f : β → Action W Token} {kind : Kind}
    (hk : kind.isRefusal = false)
    (asks : ∀ s, ∃ c answer b t, Does h x s [.call c answer] (.ok b) t ∧
      c.isOutput = false ∧ c.isQuery = true)
    (hf : ∀ b, FailsAs h kind (f b)) : FailsAs h kind (x >>= f) := by
  intro s
  obtain ⟨c, answer, b, t, asked, ho, hquery⟩ := asks s
  obtain ⟨ds, token, u, does, outcome⟩ := hf b t
  refine ⟨_, token, u, asked.bind does, ?_⟩
  rcases outcome with smooth | ⟨calls, mishap, tally, htoken⟩
  · exact .inl smooth
  · have idle : Entry.isIdle ⟨c, answer⟩ = true := by simp [Entry.isIdle, hquery]
    exact .inr ⟨_, mishap.cons hk ho idle, tally.cons_call c answer, htoken⟩

end

end Action

/-! ## The commands -/

namespace Standard

open LineShell.Action

variable {h : Host W} (works : h.OutputWorks)

include works

theorem succeeds_follow : Succeeds h (follow h) := by
  let may : Deed → Prop := fun d => d.entry? = none ∨ ∃ answer, d = .call .locate answer
  have abides : (follow h).Abides h may false {} (· = .success) :=
    abides_follow (fun answer => .inr ⟨answer, rfl⟩) fun _ => .inl rfl
  refine abides.succeeds works rfl ?_
  rintro c answer (hnone | ⟨_, hlocate⟩)
  · cases hnone
  · cases hlocate
    rfl

/-- Lines that are written when all went well. -/
theorem succeeds_printAll (lines : List String) :
    Succeeds h (h.printAll lines >>= fun _ => pure Token.success) := by
  intro s
  obtain ⟨t, does⟩ := Does.printAll_of_works works lines s
  exact ⟨_, .success, t, does.bind_pure Token.success,
    smooth_of_records (Tally.lines lines _).records⟩

theorem succeeds_print (text : String) :
    Succeeds h (h.print text >>= fun _ => pure Token.success) := by
  intro s
  obtain ⟨t, does⟩ := Does.print_of_works works text s
  exact ⟨_, .success, t, does.bind_pure Token.success, smooth_of_records rfl⟩

theorem failsAs_goTo (path : String) : FailsAs h .invalidArguments (goTo h path) :=
  .attempt works (.move path) rfl rfl (fun _ => succeeds_follow works) rfl fun _ => rfl

theorem failsAs_goHome : FailsAs h .unknown (goHome h) :=
  .session fun session => .attempt works (.move session.home) rfl rfl
    (fun _ => succeeds_follow works) rfl fun _ => rfl

theorem failsAs_showDirectory : FailsAs h .unknown (showDirectory h) :=
  .attempt works .locate rfl rfl (fun cwd => succeeds_print works cwd) rfl fun _ => rfl

theorem failsAs_showListing (path : String) : FailsAs h .invalidArguments (showListing h path) :=
  .attempt works (.list path) rfl rfl
    (fun names => succeeds_printAll works (listingLines path names)) rfl fun _ => rfl

omit works in
/-- Whoever cannot be told where it is takes the directory that the session remembers. -/
theorem does_defaultListing (h : Host W) (s : State W) :
    Does h (defaultListing h) s [.call .locate ((h.currentDir s.world).1.map .place)]
      (.ok ((h.currentDir s.world).1.toOption.getD s.session.cwd))
      { s with world := (h.currentDir s.world).2 } := by
  have asked := Does.attempt (h := h) (c := .locate) rfl s
  cases hr : (h.currentDir s.world).1 with
  | ok cwd =>
    rw [hr] at asked
    exact asked.bind (.pure cwd _)
  | error cause =>
    rw [hr] at asked
    let t : State W := { s with world := (h.currentDir s.world).2 }
    have looked : Does h (Action.session >>= fun session => pure session.cwd) t []
        (.ok t.session.cwd) t := ⟨rfl, .nil t⟩
    exact asked.bind looked

omit works in
theorem asks_defaultListing (h : Host W) (s : State W) :
    ∃ c answer path t, Does h (defaultListing h) s [.call c answer] (.ok path) t ∧
      c.isOutput = false ∧ c.isQuery = true :=
  ⟨.locate, _, _, _, does_defaultListing h s, rfl, rfl⟩

theorem failsAs_runLine (line : String) : FailsAs h .unknown (runLine h line) := by
  refine .attempt works (.run line) rfl rfl (fun _ s => ?_) rfl fun _ => rfl
  exact ⟨[], .success, s, .pure _ s, smooth_of_records rfl⟩

theorem failsAs_editPath (edit : PathEdit) (path : String) :
    FailsAs h .invalidArguments (editPath h edit path >>= fun _ => pure Token.success) := by
  -- The report is the end of the attempt, so the two binds are taken the other way round.
  rw [editPath, Action.bind_assoc]
  exact .attempt works (.edit edit path) rfl rfl (fun _ => succeeds_print works _) rfl
    fun _ => rfl

end Standard

namespace Builtin

open LineShell.Action Standard

/-- Whether a command may make a call whose failure the user has to know of. -/
def isVenture : Builtin → Bool
  | .cd | .gwd | .ls | .system | .single _ | .batch _ => true
  | _ => false

theorem owes_nothing {b : Builtin} (hb : b.isVenture = false) {operands : List String} {c : Call}
    {answer : Except Failure Reply} (hopens : b.opens operands (.call c answer)) :
    c.owesComplaint (b == .gwd) = false := by
  cases c with
  | edit edit path =>
    rcases hopens with ⟨rfl, -⟩ | ⟨rfl, -⟩ <;> cases hb
  | list path =>
    obtain ⟨rfl, -⟩ := hopens
    cases hb
  | locate =>
    rcases hopens with rfl | rfl | ⟨rfl, -⟩ <;> cases hb
  | move path =>
    obtain ⟨rfl, -⟩ := hopens
    cases hb
  | run line =>
    obtain ⟨rfl, -⟩ := hopens
    cases hb
  | _ => rfl

/-- To refuse its operands is all that a command does with them. -/
theorem execute_of_refuses (h : Host W) {b : Builtin} {operands : List String}
    (hr : b.refuses operands = true) (synopses : List Synopsis) (name : String) :
    ∃ kind message item,
      (b.command h).execute synopses name operands = h.reject kind message item := by
  cases b with
  | leave =>
    cases operands with
    | nil => cases hr
    | cons text rest =>
      have hcode : Numeral.code? text = none := by simpa [refuses] using hr
      refine ⟨.invalidData, "invalid integer", some text, ?_⟩
      show leaveWith h text = _
      rw [leaveWith, hcode, rejectInteger]
  | sleep =>
    cases operands with
    | nil => cases hr
    | cons text rest =>
      have hseconds : Numeral.seconds? text = none := by simpa [refuses] using hr
      refine ⟨.invalidData, "invalid integer", some text, ?_⟩
      show sleepFor h text = _
      rw [sleepFor, hseconds, rejectInteger]
  | throw =>
    rcases operands with _ | ⟨name, _ | ⟨text, words⟩⟩
    · exact ⟨_, _, _, rfl⟩
    · exact ⟨_, _, _, rfl⟩
    · have hcode : Numeral.code? text = none := by simpa [refuses] using hr
      refine ⟨.invalidData, "invalid integer", some text, ?_⟩
      show throwRecord h name text words = _
      rw [throwRecord, hcode, rejectInteger]
  | trace =>
    cases operands with
    | nil => cases hr
    | cons text rest =>
      have hselected : isMisselected text = true := hr
      simp only [isMisselected, Bool.and_eq_true, decide_eq_true_eq, Bool.or_eq_true,
        Option.isNone_iff_eq_none] at hselected
      obtain ⟨hcount, hother⟩ := hselected
      by_cases hoption : ['-', '-'].isPrefixOf text.toList = true
      · refine ⟨.invalidToken, "invalid option", some text, ?_⟩
        show showSelected h text = _
        rw [showSelected, if_neg hcount, if_pos hoption]
      · have hindex := hother.resolve_left hoption
        refine ⟨.invalidData, "invalid integer", some text, ?_⟩
        show showSelected h text = _
        rw [showSelected, if_neg hcount, if_neg hoption, hindex, rejectInteger]
  | system =>
    cases operands with
    | nil => exact ⟨_, _, _, rfl⟩
    | cons word rest => cases hr
  | single edit =>
    cases operands with
    | nil => exact ⟨_, _, _, rfl⟩
    | cons path rest => cases hr
  | batch edit =>
    cases operands with
    | nil => exact ⟨_, _, _, rfl⟩
    | cons path rest => cases hr
  | _ => cases hr

/-- A command other than a batch fails at most once, under one kind. -/
theorem failsAs {h : Host W} (works : h.OutputWorks) {b : Builtin}
    (hb : ∀ edit, b ≠ .batch edit) (synopses : List Synopsis) (name : String)
    (operands : List String) :
    ∃ kind, FailsAs h kind ((b.command h).execute synopses name operands) := by
  cases hr : b.refuses operands with
  | true =>
    obtain ⟨kind, message, item, hreject⟩ := execute_of_refuses h hr synopses name
    rw [hreject]
    exact ⟨kind, .reject works kind message item⟩
  | false =>
    cases hv : b.isVenture with
    | false =>
      have succeeds := (b.abides h synopses name operands).succeeds works (by simp [dues, hr])
        fun _ _ => owes_nothing hv
      exact ⟨.unknown, succeeds.failsAs .unknown⟩
    | true =>
      cases b with
      | cd =>
        cases operands with
        | nil => exact ⟨_, failsAs_goHome works⟩
        | cons path rest => exact ⟨_, failsAs_goTo works path⟩
      | gwd => exact ⟨_, failsAs_showDirectory works⟩
      | ls =>
        cases operands with
        | nil =>
          exact ⟨_, .query rfl (asks_defaultListing h) (failsAs_showListing works)⟩
        | cons path rest => exact ⟨_, failsAs_showListing works path⟩
      | system =>
        cases operands with
        | nil => cases hr
        | cons word rest => exact ⟨_, failsAs_runLine works _⟩
      | single edit =>
        cases operands with
        | nil => cases hr
        | cons path rest => exact ⟨_, failsAs_editPath works edit path⟩
      | batch edit => exact absurd rfl (hb edit)
      | _ => cases hv

end Builtin

/-! ## The interpreter -/

namespace Interpreter

/-- A dispatch of anything but a batch appends no record of the interpreter, or one, and then its
calls are those of a failure. -/
theorem smooth_or_mishap {h : Host W} (works : h.OutputWorks) {words : List String}
    (hwords : ∀ name ∈ words.head?, ∀ edit, name ∉ Standard.batchNames edit) (s : State W) :
    (∃ added, ((standard h).dispatch words s).2.errors.records = s.errors.records ++ added ∧
      ∀ r ∈ added, r.isStandard = false) ∨
    ∃ kind calls, Mishap kind calls ∧ AmountsTo h words s calls [Record.ofKind kind] := by
  cases words with
  | nil => exact .inl ⟨[], by simp [dispatch, answer, keep, tell], by simp⟩
  | cons name operands =>
    cases ho : Builtin.ofName? name with
    | none =>
      obtain ⟨outcome, calls, handed, amounts⟩ := amountsTo_external h ho operands s
      cases handed with
      | started => exact .inl ⟨[], amounts.records, by simp⟩
      | refused cause told =>
        have heard := calls_heard works (name :: operands) s
          ⟨.complain "failed to run command" (some (joinWords (name :: operands))),
            told.map fun _ => .done⟩
          (by rw [amounts.calls]; simp)
        have htold : told = .ok () := by
          cases told with
          | ok u => rfl
          | error cause => cases heard
        subst htold
        refine .inr ⟨.unknown, _, ?_, amounts⟩
        exact (Mishap.refusal _ _ _).cons rfl rfl rfl
    | some b =>
      have hb : ∀ edit, b ≠ .batch edit := by
        rintro edit rfl
        exact hwords name rfl edit (Builtin.ofName?_eq_some_iff.mp ho)
      obtain ⟨event, synopses, comes⟩ := comes_to_of_does h ho operands s
      obtain ⟨kind, fails⟩ := Builtin.failsAs works.journaled hb synopses name operands
      obtain ⟨ds, token, t, does, outcome⟩ :=
        fails ((standard h.journaled).tell event s.journaled)
      have comes := comes ds _ t does
      rcases outcome with smooth | ⟨calls, mishap, tally, rfl⟩
      · refine .inl ⟨recordsOf ds, ?_, smooth⟩
        rw [comes.records, lossRecords, List.append_nil]
      · exact .inr ⟨kind, calls, mishap, comes.amountsTo tally rfl⟩

/-- A dispatch of anything but a batch that records a failure of the interpreter has recorded one
and written one error line, and neither the files nor the session are any different but for the
token.  If the operands were refused, nothing else was asked of the host. -/
theorem failure_leaves_intact {h : Host W} {files : W → F} (works : h.OutputWorks)
    (careful : h.Careful files) {words : List String}
    (hwords : ∀ name ∈ words.head?, ∀ edit, name ∉ Standard.batchNames edit) (s : State W) :
    let t := ((standard h).dispatch words s).2
    ∀ added, t.errors.records = s.errors.records ++ added →
      (∃ r ∈ added, r.origin = .standard) →
      ((standard h).dispatch words s).1 = .success ∧ files t.world = files s.world ∧
        t.session = { s.session with last := some .success } ∧
        ∃ kind message item, added = [Record.ofKind kind] ∧
          (h.callsOf words s).filter (·.call.isOutput) = [⟨.complain message item, .ok .done⟩] ∧
          (kind ∈ [.insufficientArguments, .invalidData, .invalidToken] →
            h.callsOf words s = [⟨.complain message item, .ok .done⟩]) := by
  intro t added hadded hstandard
  rcases smooth_or_mishap works hwords s with ⟨new, hnew, smooth⟩ | ⟨kind, calls, mishap, amounts⟩
  · obtain rfl : added = new := List.append_cancel_left (hadded.symm.trans hnew)
    obtain ⟨r, hr, horigin⟩ := hstandard
    have hsmooth := smooth r hr
    simp [Record.isStandard, horigin] at hsmooth
  · obtain rfl : added = [Record.ofKind kind] :=
      List.append_cancel_left (hadded.symm.trans amounts.records)
    obtain ⟨ds, course, hcalls⟩ := course_calls h words s
    have kept := course.kept careful.journaled (by
      rw [← hcalls, amounts.calls]
      exact mishap.idle)
    rw [world_journaled] at kept
    obtain ⟨message, item, houtput, hrefusal⟩ := mishap.output
    refine ⟨amounts.token, kept, amounts.session, kind, message, item, rfl, ?_, fun hkind => ?_⟩
    · rw [amounts.calls]
      exact houtput
    · rw [amounts.calls]
      refine hrefusal ?_
      simp only [List.mem_cons, List.not_mem_nil, or_false] at hkind
      rcases hkind with rfl | rfl | rfl <;> rfl

/-- A directory without a name cannot be entered, and the one before is still the working
directory. -/
theorem failure_leaves_intact_bare :
    let s : State String :=
      { session := { cwd := "/", home := "/", user := "user" }, errors := {}, world := "/" }
    let t := ((standard Host.bare).dispatch ["cd", ""] s).2
    Host.bare.OutputWorks ∧ Host.bare.Careful id ∧
      (∀ name ∈ ["cd", ""].head?, ∀ edit, name ∉ Standard.batchNames edit) ∧
      t.errors.records = [Record.ofKind .invalidArguments] ∧ t.world = "/" ∧
      t.session = { s.session with last := some .success } ∧
      ∃ message item, (Host.bare.callsOf ["cd", ""] s).filter (·.call.isOutput) =
        [⟨.complain message item, .ok .done⟩] := by
  intro s t
  have works : Host.bare.OutputWorks := Host.outputWorks_bare
  have careful : Host.bare.Careful id :=
    { failed := by
        intro c w cause hc
        cases c with
        | edit edit path => cases edit <;> rfl
        | move path =>
          simp only [Host.perform, Attempt.reply, Host.bare] at hc ⊢
          split
          · rfl
          · next hne =>
            rw [if_neg hne] at hc
            cases hc
        | _ => rfl
      query := fun c hc w => by cases c <;> first | rfl | cases hc
      output := fun c hc w => by cases c <;> first | rfl | cases hc
      note := fun _ _ => rfl
      pause := fun _ _ => rfl }
  have hwords : ∀ name ∈ ["cd", ""].head?, ∀ edit, name ∉ Standard.batchNames edit := by
    intro name hname edit
    obtain rfl := Option.some.inj hname
    cases edit <;> decide
  have ht : t = ((standard Host.bare).dispatch ["cd", ""] s).2 := rfl
  have hrecords : t.errors.records = [Record.ofKind .invalidArguments] := by decide +kernel
  rw [ht] at hrecords ⊢
  obtain ⟨-, hworld, hsession, kind, message, item, -, houtput, -⟩ :=
    failure_leaves_intact works careful hwords s [Record.ofKind .invalidArguments] hrecords
      ⟨_, List.mem_singleton_self _, rfl⟩
  exact ⟨works, careful, hwords, hrecords, hworld, hsession, message, item, houtput⟩

end Interpreter
end LineShell
