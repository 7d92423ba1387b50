import LineShell.Proofs.Budget
import LineShell.Proofs.Execution

/-!
# Two ways to the host's shell

A line reaches the host's shell by the command for it, or because no command answers to its first
word.  What either way asks of the host is one of a few lists of calls, `Handed`.  Which one it is
the host decides by its answers, and a host that does not listen to events answers the same calls
in the same world the same: `Host.Answers` is a relation that leaves no choice.  So the two ways
make the same calls and leave the same world, and they can only differ in what they record.
-/

namespace LineShell

variable {V W L : Type}

/-! ## Calls and the world they leave -/

/-- The calls were answered by the host, one after the other, and lead from one world to another. -/
inductive Host.Answers (h : Host W) : W → List Entry → W → Prop
  | nil (w : W) : Answers h w [] w
  | cons {w v u : W} {e : Entry} {entries : List Entry}
      (answered : h.perform e.call w = (e.answer, v)) (rest : Answers h v entries u) :
      Answers h w (e :: entries) u

namespace Host.Answers

variable {h : Host W} {w v : W} {entries : List Entry}

/-- The same calls lead to the same world. -/
theorem unique (answers : h.Answers w entries v) {v' : W} (other : h.Answers w entries v') :
    v = v' := by
  induction answers with
  | nil w =>
    cases other
    rfl
  | cons answered _ ih =>
    cases other with
    | cons answered' rest' =>
      rw [answered] at answered'
      obtain rfl := congrArg Prod.snd answered'
      exact ih rest'

/-- The first of the calls is answered in the world before all of them. -/
theorem head {c : Call} {answer : Except Failure Reply}
    (answers : h.Answers w (⟨c, answer⟩ :: entries) v) : (h.perform c w).1 = answer := by
  cases answers with
  | cons answered _ => exact congrArg Prod.fst answered

theorem tail {e : Entry} (answers : h.Answers w (e :: entries) v) :
    h.Answers (h.perform e.call w).2 entries v := by
  cases answers with
  | cons answered rest =>
    rw [answered]
    exact rest

end Host.Answers

/-- Without a pause, what a run leaves of a part of the world that does not listen is up to its
calls. -/
theorem Course.answered {π : V → W} {h' : Host V} {h : Host W}
    (perform : ∀ c v, h.perform c (π v) = ((h'.perform c v).1, π (h'.perform c v).2))
    (deaf : ∀ event v, π (h'.note event v) = π v) {s t : State V} {ds : List Deed}
    (course : Course h' s ds t) (unpaused : ∀ seconds, Deed.pause seconds ∉ ds) :
    h.Answers (π s.world) (entriesOf ds) (π t.world) := by
  induction course with
  | nil s => exact .nil _
  | @cons s t u d ds made _ ih =>
    have rest := ih fun seconds hmem => unpaused seconds (List.mem_cons_of_mem d hmem)
    cases made with
    | call c => exact .cons (perform c s.world) rest
    | tell event => rwa [deaf] at rest
    | pause seconds => exact absurd List.mem_cons_self (unpaused seconds)
    | _ => exact rest

/-! ## The calls of a line -/

/-- The host decides which calls are made. -/
theorem Handed.unique {h : Host W} {line : String} {outcome outcome' : Option (Except Failure Unit)}
    {calls calls' : List Entry} {w v v' : W} (handed : Handed line outcome calls)
    (answers : h.Answers w calls v) (handed' : Handed line outcome' calls')
    (answers' : h.Answers w calls' v') : outcome = outcome' ∧ calls = calls' := by
  cases handed with
  | started =>
    cases handed' with
    | started => exact ⟨rfl, rfl⟩
    | refused cause told => cases answers.head.symm.trans answers'.head
  | refused cause told =>
    cases handed' with
    | started => cases answers.head.symm.trans answers'.head
    | refused cause' told' =>
      obtain rfl : cause = cause' := Except.error.inj (answers.head.symm.trans answers'.head)
      have hsecond := answers.tail.head.symm.trans answers'.tail.head
      obtain rfl : told = told' := by
        cases told <;> cases told' <;> simp_all [Except.map]
      exact ⟨rfl, rfl⟩

namespace Standard

/-- The command hands over its line and records a refusal, and it breaks off if it cannot say
so. -/
theorem does_runLine (h : Host W) (line : String) (s : State W) :
    ∃ outcome calls ds r t, Action.Does h (runLine h line) s ds r t ∧ Handed line outcome calls ∧
      Tally ds calls (outcome.toList.map fun _ => Record.ofKind .unknown) ∧
      r = (outcome.getD (.ok ())).map fun _ => Token.success := by
  have handed := Action.Does.attempt (h := h) (c := .run line) rfl s
  cases hr : (h.run line s.world).1 with
  | ok u =>
    rw [hr] at handed
    exact ⟨none, _, _, _, _, handed.bind (.pure Token.success _), .started,
      Tally.nil.cons_call _ _, rfl⟩
  | error cause =>
    rw [hr] at handed
    let t : State W := { s with world := (h.run line s.world).2 }
    have told := Action.Does.tell (h := h) (.shellRefused cause line) t
    obtain ⟨answer, u, failed⟩ := Action.Does.fail (h := h) .unknown "failed to run command"
      (some line) ((Interpreter.standard h).tell (.shellRefused cause line) t)
    have rejected := told.bind (f := fun _ => h.reject .unknown "failed to run command" (some line))
      (failed.bind_pure Token.success)
    have tally := (Tally.fail .unknown (.recorded .unknown s.errors.count "failed to run command"
      (some line)) "failed to run command" (some line) (answer.map fun _ => .done)).cons_tell
        (.shellRefused cause line)
    exact ⟨some answer, _, _, _, u, handed.bind rejected, .refused cause answer,
      tally.cons_call _ _, rfl⟩

end Standard

namespace Interpreter

/-- The command for a line hands it over and records a refusal, and a second failure if it could
not say so. -/
theorem amountsTo_system (h : Host W) {name : String} (hname : name ∈ ["sh", "sys", "system"])
    (word : String) (words : List String) (s : State W) :
    ∃ outcome calls, Handed (joinWords (word :: words)) outcome calls ∧
      AmountsTo h (name :: word :: words) s calls
        ((outcome.toList.map fun _ => Record.ofKind .unknown) ++
          lossRecords ((outcome.getD (.ok ())).map fun _ => Token.success)) := by
  have ho : Builtin.ofName? name = some .system := Builtin.ofName?_eq_some_iff.mpr hname
  obtain ⟨event, synopses, comes⟩ := comes_to_of_does h ho (word :: words) s
  obtain ⟨outcome, calls, ds, r, t, does, handed, tally, rfl⟩ :=
    Standard.does_runLine h.journaled (joinWords (word :: words))
      ((standard h.journaled).tell event s.journaled)
  refine ⟨outcome, calls, handed, (comes ds _ t does).amountsTo tally ?_⟩
  rcases outcome with _ | _ | _ <;> rfl

/-- The calls of a dispatch without a pause lead to the world that it leaves, whoever listens. -/
theorem answers_callsOf (h : Host W) (listen : Event → L → L) {words : List String}
    (unpaused : ∀ seconds, ¬ (Errand.ofWords words).opens (.pause seconds))
    (s : State (Overheard W L)) :
    h.Answers s.world.world ((h.overheard listen).callsOf words s)
      ((standard (h.overheard listen)).dispatch words s).2.world.world := by
  obtain ⟨-, ds, course, account⟩ := account_dispatch (h.overheard listen).journaled words
    s.journaled
  have hcalls : (h.overheard listen).callsOf words s = entriesOf ds := course.entries
  have perform (c : Call) (j : Journal (Overheard W L)) :
      h.perform c j.world.world = (((h.overheard listen).journaled.perform c j).1,
        ((h.overheard listen).journaled.perform c j).2.world.world) := by
    rw [Host.perform_journaled, ← h.perform_deaf]
    exact (h.over_overheard listen).perform c j.world
  rw [hcalls, ← world_journaled]
  refine course.answered perform (fun _ _ => rfl) fun seconds hmem => ?_
  rcases account.permitted _ hmem with hcommon | hopens | hkeep
  · exact hcommon
  · exact unpaused seconds hopens
  · cases hkeep

/-- Words that no command answers to come to the same with a command for the host's shell in front
of them.  The two ways hand over the same line and say the same of it, and they leave the same
world and the same session.  They record the same as well, unless the line was refused and this
could not be said: then the command has failed in its turn. -/
theorem shell_paths_agree (h : Host W) (listen : Event → L → L) {name : String}
    (hname : name ∈ ["sh", "sys", "system"]) (word : String) (words : List String)
    (hword : (standard (h.overheard listen)).commands.resolve word = none)
    (s : State (Overheard W L)) :
    let host := h.overheard listen
    let line := joinWords (word :: words)
    let explicit := (standard host).dispatch (name :: word :: words) s
    let implicit := (standard host).dispatch (word :: words) s
    let calls := host.callsOf (word :: words) s
    host.callsOf (name :: word :: words) s = calls ∧
      explicit.1 = .success ∧ implicit.1 = .success ∧
      explicit.2.world.world = implicit.2.world.world ∧
      explicit.2.session = { s.session with last := some .success } ∧
      implicit.2.session = { s.session with last := some .success } ∧
      (calls = [⟨.run line, .ok .done⟩] ∧
          explicit.2.errors.records = s.errors.records ∧
          implicit.2.errors.records = s.errors.records ∨
        ∃ cause, ∃ told : Except Failure Unit,
          calls = [⟨.run line, .error cause⟩,
            ⟨.complain "failed to run command" (some line), told.map fun _ => .done⟩] ∧
          implicit.2.errors.records = s.errors.records ++ [Record.ofKind .unknown] ∧
          explicit.2.errors.records = s.errors.records ++
            if told.isOk then [Record.ofKind .unknown]
            else [Record.ofKind .unknown, Record.ofKind .unknown]) := by
  intro host line explicit implicit calls
  have hword : Builtin.ofName? word = none := by
    have hresolve := Builtin.resolve_table host word
    rw [show (Standard.table host).resolve word = none from hword] at hresolve
    exact Option.map_eq_none_iff.mp hresolve.symm
  obtain ⟨outcome, calls₁, handed, amounts⟩ := amountsTo_system host hname word words s
  obtain ⟨outcome', calls₂, handed', amounts'⟩ := amountsTo_external host hword words s
  have answers : h.Answers s.world.world calls₁ explicit.2.world.world := by
    rw [← amounts.calls]
    have ho : Builtin.ofName? name = some .system := Builtin.ofName?_eq_some_iff.mpr hname
    refine answers_callsOf h listen (fun seconds => ?_) s
    rw [Errand.ofWords_command ho]
    exact nofun
  have answers' : h.Answers s.world.world calls₂ implicit.2.world.world := by
    rw [← amounts'.calls]
    refine answers_callsOf h listen (fun seconds => ?_) s
    rw [Errand.ofWords_external hword]
    exact nofun
  obtain ⟨rfl, rfl⟩ := handed.unique answers handed' answers'
  refine ⟨amounts.calls.trans amounts'.calls.symm, amounts.token, amounts'.token,
    answers.unique answers', amounts.session, amounts'.session, ?_⟩
  cases handed with
  | started =>
    refine .inl ⟨amounts'.calls, ?_, ?_⟩
    · simpa [lossRecords, Except.map] using amounts.records
    · simpa using amounts'.records
  | refused cause told =>
    refine .inr ⟨cause, told, amounts'.calls, amounts'.records, ?_⟩
    rw [amounts.records]
    cases told <;> rfl

/-- The line cannot be run and no error line is taken: the command has failed twice. -/
theorem shell_paths_agree_metered :
    let s : State (Overheard (Metered String) Nat) :=
      { session := { cwd := "/", home := "/", user := "user" }, errors := {},
        world := ⟨{ world := "/", left := some 0 }, 0⟩ }
    let host := (Host.bare.metered fun _ _ => .brokenPipe).overheard fun _ heard => heard + 1
    let explicit := (standard host).dispatch ["sys", "print me", ""] s
    let implicit := (standard host).dispatch ["print me", ""] s
    "sys" ∈ ["sh", "sys", "system"] ∧ (standard host).commands.resolve "print me" = none ∧
      host.callsOf ["sys", "print me", ""] s = host.callsOf ["print me", ""] s ∧
      explicit.2.world.world = implicit.2.world.world ∧
      explicit.2.session = { s.session with last := some .success } ∧
      explicit.2.errors.count = 2 ∧ implicit.2.errors.count = 1 ∧
      explicit.2.world.heard ≠ implicit.2.world.heard := by
  intro s
  have hname : "sys" ∈ ["sh", "sys", "system"] := by decide
  obtain ⟨hcalls, -, -, hworld, hsession, -⟩ :=
    shell_paths_agree (Host.bare.metered fun _ _ => .brokenPipe) (fun _ heard => heard + 1) hname
      "print me" [""] rfl s
  refine ⟨hname, rfl, hcalls, hworld, hsession, ?_⟩
  decide +kernel

end Interpreter
end LineShell
