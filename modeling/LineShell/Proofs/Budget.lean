import LineShell.Proofs.Outcome
import LineShell.Proofs.Plan
import LineShell.Proofs.Runs

/-!
# When the output breaks

The same session is run twice, once with an output that always works and once with an output that
works for so many calls and then never again.  The two runs do the same up to the first call that
fails.  After it their logs and their files may go different ways, but nothing more is shown, and
both read the same lines and end with the same code.  What the second run shows is therefore what
the first run writes, cut off where the budget ends.
-/

namespace LineShell

variable {W α : Type}

/-! ## An output with a budget -/

/-- Why a call on the output fails, which may depend on all that was asked of it before. -/
abbrev Refusal := List Call → Call → Failure

/-- A world with an output of which so many more calls work, all of them if there is no bound. -/
structure Metered (W : Type) where
  world : W
  left : Option Nat
  /-- The calls on the output so far. -/
  asked : List Call := []

namespace Metered

def part : Part (Metered W) W where
  get m := m.world
  set world m := { m with world }

/-- Makes a call on the output, which works as long as the budget lasts. -/
def spend (refusal : Refusal) (c : Call) : Attempt (Metered W) Unit := fun m =>
  let asked := m.asked ++ [c]
  match m.left with
  | none => (.ok (), { m with asked })
  | some 0 => (.error (refusal m.asked c), { m with asked })
  | some (left + 1) => (.ok (), { m with left := some left, asked })

def output (refusal : Refusal) : Output (Metered W) where
  writeLine text := spend refusal (.line text)
  writeError message item := spend refusal (.complain message item)
  clear := spend refusal .clear

end Metered

/-- The host with another output, one with a budget.  Once it is used up every call on the output
fails. -/
def Host.metered (h : Host W) (refusal : Refusal) : Host (Metered W) where
  toFileSystem := h.toFileSystem.within Metered.part
  toOutput := Metered.output refusal
  toExecutor := h.toExecutor.within Metered.part
  note event m := { m with world := h.note event m.world }
  pause seconds m := { m with world := h.pause seconds m.world }

theorem Host.perform_metered (h : Host W) (refusal : Refusal) {c : Call}
    (ho : c.isOutput = false) (m : Metered W) :
    (h.metered refusal).perform c m =
      ((h.perform c m.world).1, { m with world := (h.perform c m.world).2 }) := by
  cases c with
  | edit edit path => cases edit <;> rfl
  | line text => cases ho
  | complain message item => cases ho
  | clear => cases ho
  | _ => rfl

theorem Host.perform_metered_output (h : Host W) (refusal : Refusal) {c : Call}
    (ho : c.isOutput = true) (m : Metered W) :
    (h.metered refusal).perform c m =
      (Metered.spend refusal c).reply (fun _ => .done) m := by
  cases c with
  | line text => rfl
  | complain message item => rfl
  | clear => rfl
  | _ => cases ho

/-! ## What is written and what is shown -/

/-- The calls on the output, whether they worked or not. -/
def writtenIn (entries : List Entry) : List Call :=
  (entries.map Entry.call).filter Call.isOutput

/-- The calls on the output that worked. -/
def shownIn (entries : List Entry) : List Call := writtenIn (entries.filter (!·.failed))

@[simp] theorem writtenIn_append (as bs : List Entry) :
    writtenIn (as ++ bs) = writtenIn as ++ writtenIn bs := by
  simp [writtenIn]

@[simp] theorem shownIn_append (as bs : List Entry) :
    shownIn (as ++ bs) = shownIn as ++ shownIn bs := by
  simp [shownIn]

@[simp] theorem writtenIn_singleton (e : Entry) :
    writtenIn [e] = if e.call.isOutput then [e.call] else [] := by
  cases ho : e.call.isOutput <;> simp [writtenIn, ho]

@[simp] theorem shownIn_singleton (e : Entry) :
    shownIn [e] = if e.call.isOutput && !e.failed then [e.call] else [] := by
  cases ho : e.call.isOutput <;> cases hf : e.failed <;> simp [shownIn, writtenIn, ho, hf]

/-! ## Two runs side by side -/

/-- The host with a budget for its output and a journal of the calls. -/
abbrev Host.rationed (h : Host W) (refusal : Refusal) : Host (Journal (Metered W)) :=
  (h.metered refusal).journaled

namespace State

def metered (s : State W) (left : Option Nat) : State (Journal (Metered W)) :=
  { s with world := { world := { world := s.world, left } } }

/-- The state without the journal and the budget. -/
def plain (s : State (Journal (Metered W))) : State W := { s with world := s.world.world.world }

def left (s : State (Journal (Metered W))) : Option Nat := s.world.world.left

def written (s : State (Journal (Metered W))) : List Call := writtenIn s.world.entries

def shown (s : State (Journal (Metered W))) : List Call := shownIn s.world.entries

end State

/-- The first run writes freely, and the second one has done the same out of its budget. -/
structure Together (budget : Nat) (s t : State (Journal (Metered W))) : Prop where
  plain : t.plain = s.plain
  free : s.left = none
  left : ∃ left, t.left = some left ∧ left + s.written.length = budget
  shown : t.shown = s.written

/-- The second run has met with a refusal, at a call that the first run made. -/
structure Parted (budget : Nat) (s t : State (Journal (Metered W))) : Prop where
  spent : t.left = some 0
  beyond : budget < s.written.length
  shown : t.shown = s.written.take budget

def Abreast (budget : Nat) (s t : State (Journal (Metered W))) : Prop :=
  Together budget s t ∨ Parted budget s t

section

variable {h : Host W} {refusal : Refusal} {budget : Nat}
  {s s' t t' : State (Journal (Metered W))} {ds es : List Deed}

theorem Course.written (course : Course (h.rationed refusal) s ds s') :
    s'.written = s.written ++ writtenIn (entriesOf ds) := by
  rw [State.written, course.entries, writtenIn_append]
  rfl

/-- Nothing is shown once the budget is used up. -/
theorem Course.shown_of_spent (course : Course (h.rationed refusal) t es t')
    (spent : t.left = some 0) : t'.left = some 0 ∧ t'.shown = t.shown := by
  let R (u : State (Journal (Metered W))) : Prop := u.left = some 0 ∧ u.shown = t.shown
  refine course.induct (R := R) (D := fun _ => True) ?_ (fun _ _ => trivial) ⟨spent, rfl⟩
  rintro u d v - made ⟨hleft, hshown⟩
  cases made with
  | call c =>
    have hleft' : u.world.world.left = some 0 := hleft
    cases ho : c.isOutput with
    | false =>
      have hperform := h.perform_metered refusal ho u.world.world
      constructor
      · simp only [State.left, Host.perform_journaled, hperform]
        exact hleft'
      · rw [← hshown]
        simp [State.shown, Host.perform_journaled, ho]
    | true =>
      have hperform := h.perform_metered_output refusal ho u.world.world
      simp only [Attempt.reply, Metered.spend, hleft', Except.map] at hperform
      constructor
      · simp only [State.left, Host.perform_journaled, hperform]
      · rw [← hshown]
        simp [State.shown, Host.perform_journaled, hperform, Entry.failed, Except.isOk,
          Except.toBool]
  | _ => exact ⟨hleft, hshown⟩

theorem Parted.course (parted : Parted budget s t) (first : Course (h.rationed refusal) s ds s')
    (second : Course (h.rationed refusal) t es t') : Parted budget s' t' := by
  obtain ⟨hspent, hshown⟩ := second.shown_of_spent parted.spent
  have hbeyond := parted.beyond
  refine ⟨hspent, ?_, ?_⟩
  · rw [first.written, List.length_append]
    omega
  · rw [hshown, parted.shown, first.written, List.take_append_of_le_length (Nat.le_of_lt hbeyond)]

namespace Together

/-- What touches neither the output nor the journal keeps the runs together. -/
theorem aside (together : Together budget s t) (hplain : t'.plain = s'.plain)
    (hs : s'.left = s.left ∧ s'.world.entries = s.world.entries)
    (ht : t'.left = t.left ∧ t'.world.entries = t.world.entries) : Together budget s' t' := by
  refine ⟨hplain, ?_, ?_, ?_⟩
  · rw [hs.1, together.free]
  · rw [ht.1, State.written, hs.2]
    exact together.left
  · rw [State.shown, State.written, hs.2, ht.2]
    exact together.shown

theorem act (together : Together budget s t) (a : Act) :
    Together budget (a.apply (h.rationed refusal) s) (a.apply (h.rationed refusal) t) := by
  have hplain (u : State (Journal (Metered W))) :
      (a.apply (h.rationed refusal) u).plain = a.apply h u.plain := by
    cases a <;> rfl
  refine together.aside ?_ ?_ ?_
  · rw [hplain, hplain, together.plain]
  · cases a <;> exact ⟨rfl, rfl⟩
  · cases a <;> exact ⟨rfl, rfl⟩

variable (h refusal) in
/-- A call that is none on the output has the same answer on both sides. -/
theorem call (together : Together budget s t) {c : Call} (ho : c.isOutput = false) :
    ((h.rationed refusal).perform c t.world).1 = ((h.rationed refusal).perform c s.world).1 ∧
      Together budget (s.called (h.rationed refusal) c) (t.called (h.rationed refusal) c) := by
  have hworld : t.world.world.world = s.world.world.world :=
    congrArg State.world together.plain
  have hperform := h.perform_metered refusal ho s.world.world
  have hperform' := h.perform_metered refusal ho t.world.world
  rw [hworld] at hperform'
  simp only [State.called, Host.perform_journaled, hperform, hperform']
  refine ⟨trivial, ?_, together.free, ?_, ?_⟩
  · exact congrArg (fun u : State W => { u with world := (h.perform c s.world.world.world).2 })
      together.plain
  · obtain ⟨left, hleft, hsum⟩ := together.left
    exact ⟨left, hleft, by simpa [State.written, ho] using hsum⟩
  · have hshown := together.shown
    simp only [State.shown, State.written] at hshown
    simp [State.shown, State.written, ho, hshown]

variable (h refusal) in
/-- A call on the output works on both sides or tells the runs apart. -/
theorem output (together : Together budget s t) {c : Call} (ho : c.isOutput = true) :
    (((h.rationed refusal).perform c t.world).1 = ((h.rationed refusal).perform c s.world).1 ∧
      Together budget (s.called (h.rationed refusal) c) (t.called (h.rationed refusal) c)) ∨
    Parted budget (s.called (h.rationed refusal) c) (t.called (h.rationed refusal) c) := by
  obtain ⟨left, hleft, hsum⟩ := together.left
  have hleft : t.world.world.left = some left := hleft
  have hfree : s.world.world.left = none := together.free
  have hshown := together.shown
  simp only [State.shown, State.written] at hshown hsum
  have hperform := h.perform_metered_output refusal ho s.world.world
  have hperform' := h.perform_metered_output refusal ho t.world.world
  simp only [Attempt.reply, Metered.spend, hfree, Except.map] at hperform
  have hwritten : (s.called (h.rationed refusal) c).written = writtenIn s.world.entries ++ [c] := by
    simp [State.called, State.written, Host.perform_journaled, ho]
  have hlength : (s.called (h.rationed refusal) c).written.length =
      (writtenIn s.world.entries).length + 1 := by
    rw [hwritten, List.length_append, List.length_singleton]
  cases left with
  | zero =>
    simp only [Attempt.reply, Metered.spend, hleft, Except.map] at hperform'
    have hbudget : budget = (writtenIn s.world.entries).length := by omega
    refine Or.inr ⟨?_, by omega, ?_⟩
    · simp only [State.called, State.left, Host.perform_journaled, hperform']
    · rw [hwritten, hbudget, List.take_left, ← hshown]
      simp [State.called, State.shown, Host.perform_journaled, hperform', Entry.failed,
        Except.isOk, Except.toBool]
  | succ left =>
    simp only [Attempt.reply, Metered.spend, hleft, Except.map] at hperform'
    refine Or.inl ⟨?_, ?_, ?_, ⟨left, ?_, by omega⟩, ?_⟩
    · simp only [Host.perform_journaled, hperform, hperform']
    · simp only [State.called, Host.perform_journaled, hperform, hperform']
      exact together.plain
    · simp only [State.called, State.left, Host.perform_journaled, hperform]
    · simp only [State.called, State.left, Host.perform_journaled, hperform']
    · rw [hwritten, ← hshown]
      simp [State.called, State.shown, Host.perform_journaled, hperform', ho, Entry.failed,
        Except.isOk, Except.toBool]

/-- A plan is carried out with one result on both sides, or it tells the runs apart. -/
theorem run (p : Plan α) (together : Together budget s t) :
    ((p.run (h.rationed refusal) t).1 = (p.run (h.rationed refusal) s).1 ∧
      Together budget (p.run (h.rationed refusal) s).2 (p.run (h.rationed refusal) t).2) ∨
    Parted budget (p.run (h.rationed refusal) s).2 (p.run (h.rationed refusal) t).2 := by
  induction p generalizing s t with
  | done a => exact Or.inl ⟨rfl, together⟩
  | act a next ih => exact ih (together.act a)
  | lookup next ih =>
    have hsession : t.session = s.session :=
      congrArg (fun u : State W => u.session) together.plain
    have herrors : t.errors = s.errors := congrArg (fun u : State W => u.errors) together.plain
    simp only [Plan.run, hsession, herrors]
    exact ih _ _ _ together
  | call c next ih =>
    simp only [Plan.run]
    cases ho : c.isOutput with
    | false =>
      obtain ⟨hanswer, after⟩ := together.call h refusal ho
      rw [hanswer]
      exact ih _ after
    | true =>
      rcases together.output h refusal ho with ⟨hanswer, after⟩ | parted
      · rw [hanswer]
        exact ih _ after
      · -- From here on the two sides follow different branches of the plan.
        obtain ⟨ds, first⟩ := Plan.course (h.rationed refusal) (next _) _
        obtain ⟨es, second⟩ := Plan.course (h.rationed refusal) (next _) _
        exact Or.inr (parted.course first second)

end Together

namespace Abreast

theorem start (budget : Nat) (s : State W) :
    Abreast budget (s.metered none) (s.metered (some budget)) :=
  Or.inl ⟨rfl, rfl, ⟨budget, rfl, rfl⟩, rfl⟩

theorem aside (abreast : Abreast budget s t) (hplain : t.plain = s.plain → t'.plain = s'.plain)
    (hs : s'.left = s.left ∧ s'.world.entries = s.world.entries)
    (ht : t'.left = t.left ∧ t'.world.entries = t.world.entries) : Abreast budget s' t' := by
  rcases abreast with together | parted
  · exact Or.inl (together.aside (hplain together.plain) hs ht)
  · refine Or.inr ⟨?_, ?_, ?_⟩
    · rw [ht.1, parted.spent]
    · rw [State.written, hs.2]
      exact parted.beyond
    · rw [State.shown, State.written, hs.2, ht.2]
      exact parted.shown

variable (h refusal) in
theorem planned (abreast : Abreast budget s t)
    {x : (W : Type) → Host W → State W → α × State W} (hx : Planned x) :
    Abreast budget (x _ (h.rationed refusal) s).2 (x _ (h.rationed refusal) t).2 := by
  obtain ⟨p, hp⟩ := hx
  rw [hp, hp]
  rcases abreast with together | parted
  · exact (together.run p).imp_left And.right
  · obtain ⟨ds, first⟩ := p.course (h.rationed refusal) s
    obtain ⟨es, second⟩ := p.course (h.rationed refusal) t
    exact Or.inr (parted.course first second)

theorem shown (abreast : Abreast budget s t) : t.shown = s.written.take budget := by
  rcases abreast with together | parted
  · obtain ⟨left, -, hsum⟩ := together.left
    rw [together.shown, List.take_of_length_le (by omega)]
  · exact parted.shown

theorem plain (abreast : Abreast budget s t) (within : s.written.length ≤ budget) :
    t.plain = s.plain := by
  rcases abreast with together | parted
  · exact together.plain
  · exact absurd parted.beyond (Nat.not_lt.mpr within)

end Abreast
end

/-! ## Sessions -/

/-- A source of lines that are known beforehand.  A prompt is no call on the output. -/
def LineSource.script (showPrompt : String → W → W) (ending : Ending) (lines : List String) :
    LineSource (Journal (Metered W)) where
  supply := .ofLines ending lines
  showPrompt prompt j :=
    { j with world := { j.world with world := showPrompt prompt j.world.world } }

namespace Interpreter

variable (h : Host W) (refusal : Refusal) {budget : Nat}
  {s t : State (Journal (Metered W))}

theorem abreast_tell (abreast : Abreast budget s t) {event event' : Event}
    (hevent : t.plain = s.plain → event' = event) :
    Abreast budget ((standard (h.rationed refusal)).tell event s)
      ((standard (h.rationed refusal)).tell event' t) := by
  refine abreast.aside (fun hplain => ?_) ⟨rfl, rfl⟩ ⟨rfl, rfl⟩
  rw [hevent hplain]
  exact congrArg ((standard h).tell event) hplain

theorem abreast_afterRound (abreast : Abreast budget s t) (token : Token) :
    Abreast budget ((standard (h.rationed refusal)).afterRound token s)
      ((standard (h.rationed refusal)).afterRound token t) := by
  unfold afterRound
  split
  · have told : Abreast budget
        ((standard (h.rationed refusal)).tell (.restarted s.session.code) s)
        ((standard (h.rationed refusal)).tell (.restarted t.session.code) t) :=
      abreast_tell h refusal abreast fun hplain =>
        congrArg (fun u : State W => Event.restarted u.session.code) hplain
    refine told.aside (fun hplain => ?_) ⟨rfl, rfl⟩ ⟨rfl, rfl⟩
    exact congrArg (fun u : State W => { u with session := u.session.reset }) hplain
  · exact abreast

theorem abreast_readLines (showPrompt : String → W → W) (ending : Ending) (lines : List String)
    (abreast : Abreast budget s t) :
    let source := LineSource.script showPrompt ending lines
    Abreast budget
      ((standard (h.rationed refusal)).readLines source.showPrompt source.supply s).2
      ((standard (h.rationed refusal)).readLines source.showPrompt source.supply t).2 := by
  let shown := (LineSource.script showPrompt ending lines).showPrompt
  have prompted {s t : State (Journal (Metered W))} (abreast : Abreast budget s t) :
      Abreast budget (prompted shown s) (prompted shown t) :=
    abreast.aside (congrArg (prompted showPrompt)) ⟨rfl, rfl⟩ ⟨rfl, rfl⟩
  show Abreast budget
    ((standard (h.rationed refusal)).readLines shown (.ofLines ending lines) s).2
    ((standard (h.rationed refusal)).readLines shown (.ofLines ending lines) t).2
  clear_value shown
  induction lines generalizing s t with
  | nil => exact abreast_tell h refusal (prompted abreast) fun _ => rfl
  | cons line rest ih =>
    have answered := (prompted abreast).planned h refusal
      (planned_dispatch (tokenize line))
    have htoken := token_runLine (h.rationed refusal) line (Interpreter.prompted shown s)
    have htoken' := token_runLine (h.rationed refusal) line (Interpreter.prompted shown t)
    rw [← runLine, ← runLine] at answered
    cases hr : (standard (h.rationed refusal)).runLine line (Interpreter.prompted shown s) with
    | mk token u =>
      cases hr' : (standard (h.rationed refusal)).runLine line (Interpreter.prompted shown t) with
      | mk token' u' =>
        rw [hr] at htoken answered
        rw [hr'] at htoken' answered
        obtain rfl : token' = token := htoken'.trans htoken.symm
        cases ht : token'.isTerminal with
        | true =>
          rw [Supply.ofLines, readLines_of_terminal hr ht, readLines_of_terminal hr' ht]
          exact answered
        | false =>
          rw [Supply.ofLines, readLines_of_not_terminal hr ht, readLines_of_not_terminal hr' ht]
          exact ih (abreast_afterRound h refusal answered token')

theorem abreast_loop (showPrompt : String → W → W) (ending : Ending) (lines : List String)
    (abreast : Abreast budget s t) :
    let source := LineSource.script showPrompt ending lines
    Abreast budget ((standard (h.rationed refusal)).loop source s).2.2
      ((standard (h.rationed refusal)).loop source t).2.2 := by
  intro source
  have read := abreast_readLines h refusal showPrompt ending lines abreast
  have told := abreast_tell h refusal read fun hplain =>
    congrArg (fun u : State W => Event.logCleared u.errors.count) hplain
  refine told.aside (fun hplain => ?_) ⟨rfl, rfl⟩ ⟨rfl, rfl⟩
  exact congrArg (fun u : State W => { u with errors := u.errors.clear }) hplain

theorem abreast_respondAll (lines : List String) (abreast : Abreast budget s t) :
    Abreast budget ((standard (h.rationed refusal)).respondAll (lines.map .line) s)
      ((standard (h.rationed refusal)).respondAll (lines.map .line) t) := by
  induction lines generalizing s t with
  | nil => exact abreast
  | cons line rest ih => exact ih (abreast.planned h refusal (planned_dispatch (tokenize line)))

/-- An output that breaks after so many calls shows what one that works is made to write, cut off
there.  The session reads the same lines and ends with the same code, and if the budget is enough it
ends in the same state. -/
theorem shown_within_budget (h : Host W) (refusal : Refusal) (budget : Nat) (s : State W) :
    let sh := standard (h.rationed refusal)
    (∀ showPrompt ending lines,
      let source := LineSource.script showPrompt ending lines
      let (code, reading, t) := sh.loop source (s.metered none)
      let (code', reading', t') := sh.loop source (s.metered (some budget))
      t'.shown = t.written.take budget ∧
        reading'.prompts.length = reading.prompts.length ∧ reading'.unread = reading.unread ∧
        code' = code ∧ (t.written.length ≤ budget → t'.plain = t.plain)) ∧
    ∀ lines : List String,
      let t := sh.respondAll (lines.map .line) (s.metered none)
      let t' := sh.respondAll (lines.map .line) (s.metered (some budget))
      t'.shown = t.written.take budget ∧ (t.written.length ≤ budget → t'.plain = t.plain) := by
  intro sh
  refine ⟨fun showPrompt ending lines => ?_, fun lines => ?_⟩
  · have abreast := abreast_loop h refusal showPrompt ending lines
      (Abreast.start budget s)
    let source := LineSource.script (W := W) showPrompt ending lines
    obtain ⟨hprompts, hunread, hcode⟩ :=
      readLines_ofLines (h.rationed refusal) source.showPrompt ending lines (s.metered none)
    obtain ⟨hprompts', hunread', hcode'⟩ := readLines_ofLines (h.rationed refusal)
      source.showPrompt ending lines (s.metered (some budget))
    exact ⟨abreast.shown, hprompts'.trans hprompts.symm, hunread'.trans hunread.symm,
      hcode'.trans hcode.symm, abreast.plain⟩
  · have abreast := abreast_respondAll h refusal lines (Abreast.start budget s)
    exact ⟨abreast.shown, abreast.plain⟩

/-- Two files that cannot be made, with a budget for one error line.  The second failure is
recorded, and so is that nobody could be told of it. -/
example :
    let s : State String :=
      { session := { cwd := "/", home := "/", user := "user" }, errors := {}, world := "/" }
    let sh := standard (Host.bare.rationed fun _ _ => .brokenPipe)
    let t := (sh.runLine "mks a b" (s.metered (some 1))).2
    t.shown = [.complain "failed to create file" (some "a")] ∧ t.errors.count = 3 := by
  decide +kernel

end Interpreter
end LineShell
