import LineShell.Files.System
import LineShell.Proofs.Budget
import LineShell.Proofs.Execution

/-!
# A batch that is cut short

A command for many paths reports on each of them, and the first report that cannot be made ends it.
Up to there the file system has done what it was asked, and the log has a record for each path that
failed; the report itself is answered for by one more record, which comes last.  The paths that are
left are never attempted.
-/

namespace LineShell

variable {W F : Type}

/-- Makes an edit at each path in order, whatever came of those before. -/
def FileSystem.editEach (fs : FileSystem F) (edit : PathEdit) :
    List String → F → List (Except Failure Unit) × F
  | [], files => ([], files)
  | path :: rest, files =>
    let (answer, next) := fs.edit edit path files
    let (answers, after) := fs.editEach edit rest next
    (answer :: answers, after)

/-- A path that was attempted: what the file system answered, and what came of the report. -/
structure Tried where
  path : String
  answer : Except Failure Unit
  told : Except Failure Unit

namespace Tried

/-- The attempt and the report on it. -/
def entries (edit : PathEdit) (x : Tried) : List Entry :=
  edit.entries x.path (x.answer.map fun _ => .done) x.told

/-- What is recorded of an attempt. -/
def records (x : Tried) : List Record :=
  if x.answer.isOk then [] else [Record.ofKind .invalidArguments]

theorem length_entries (edit : PathEdit) (tried : List Tried) :
    (tried.flatMap (entries edit)).length = 2 * tried.length := by
  induction tried with
  | nil => rfl
  | cons x tried ih =>
    rw [List.flatMap_cons, List.length_append, ih, List.length_cons]
    simp [entries, PathEdit.entries]
    omega

theorem tame {edit : PathEdit} {x : Tried} {e : Entry} (he : e ∈ x.entries edit) :
    e.isTame = true := by
  rcases List.mem_cons.mp he with rfl | he
  · rfl
  · obtain rfl := List.mem_singleton.mp he
    simp [Entry.isTame, PathEdit.isOutput_report]

end Tried

/-- The paths are attempted in order, up to the first one that cannot be reported on. -/
inductive Tries : List String → List Tried → Except Failure Unit → Prop
  | nil : Tries [] [] (.ok ())
  | told {x : Tried} {rest : List String} {tried : List Tried} {r : Except Failure Unit}
      (told : x.told = .ok ()) (after : Tries rest tried r) : Tries (x.path :: rest) (x :: tried) r
  | lost {x : Tried} {cause : Failure} (lost : x.told = .error cause) (rest : List String) :
      Tries (x.path :: rest) [x] (.error cause)

/-- The attempts are those of the first paths, and the last of them is the first one that could not
be reported on, or else the last of all. -/
structure CutShort (paths : List String) (tried : List Tried) : Prop where
  operands : tried.map Tried.path = paths.take tried.length
  before : ∀ x ∈ tried.dropLast, x.told = .ok ()
  last : tried.length = paths.length ∨ ∃ x ∈ tried.getLast?, x.told.isOk = false

namespace Tries

variable {paths : List String} {tried : List Tried} {r : Except Failure Unit}

theorem ne_nil (tries : Tries paths tried r) (hpaths : paths ≠ []) : tried ≠ [] := by
  cases tries with
  | nil => exact absurd rfl hpaths
  | _ => exact List.cons_ne_nil _ _

theorem result (tries : Tries paths tried r) :
    lossRecords (r.map fun _ => Token.success) =
      if tried.all (·.told.isOk) then [] else [Record.ofKind .unknown] := by
  induction tries with
  | nil => rfl
  | told told after ih => simpa [told, Except.isOk, Except.toBool] using ih
  | lost lost rest => simp [lost, Except.isOk, Except.toBool, Except.map, lossRecords]

theorem cutShort (tries : Tries paths tried r) : CutShort paths tried := by
  induction tries with
  | nil => exact ⟨rfl, by simp, .inl rfl⟩
  | @told x rest tried r told after ih =>
    refine ⟨?_, ?_, ?_⟩
    · rw [List.map_cons, ih.operands, List.length_cons, List.take_succ_cons]
    · intro y hy
      cases tried with
      | nil => cases hy
      | cons z tried =>
        rcases List.mem_cons.mp hy with rfl | hy
        · exact told
        · exact ih.before y hy
    · rcases ih.last with hall | ⟨y, hy, hlost⟩
      · exact .inl (by rw [List.length_cons, List.length_cons, hall])
      · refine .inr ⟨y, ?_, hlost⟩
        cases tried with
        | nil => cases hy
        | cons z tried => rwa [List.getLast?_cons_cons]
  | @lost x cause lost rest =>
    exact ⟨rfl, by simp, .inr ⟨x, rfl, by simp [lost, Except.isOk, Except.toBool]⟩⟩

end Tries

/-! ## The commands -/

namespace Standard

theorem does_editPath (h : Host W) (edit : PathEdit) (path : String) (s : State W) :
    ∃ x : Tried, x.path = path ∧ ∃ ds t, Action.Does h (editPath h edit path) s ds x.told t ∧
      Tally ds (x.entries edit) x.records := by
  have hperform : h.perform (.edit edit path) = (h.edit edit path).reply fun _ => .done := rfl
  have attempted := Action.Does.attempt hperform s
  cases hanswer : (h.edit edit path s.world).1 with
  | ok u =>
    rw [hanswer] at attempted
    obtain ⟨told, t, reported⟩ := Action.Does.print (h := h) (labeledLine edit.done path)
      { s with world := (h.edit edit path s.world).2 }
    refine ⟨⟨path, .ok u, told⟩, rfl, _, t, attempted.bind reported, ?_⟩
    exact (Tally.lines [_] _).cons_call _ _
  | error cause =>
    rw [hanswer] at attempted
    let failed := Event.editFailed cause path edit
    obtain ⟨told, t, reported⟩ := Action.Does.fail (h := h) .invalidArguments edit.failed
      (some path) ((Interpreter.standard h).tell failed
        { s with world := (h.edit edit path s.world).2 })
    refine ⟨⟨path, .error cause, told⟩, rfl, _, t,
      attempted.bind ((Action.Does.tell failed _).bind reported), ?_⟩
    exact ((Tally.fail _ _ _ _ _).cons_tell failed).cons_call _ _

theorem does_editAll (h : Host W) (edit : PathEdit) (paths : List String) (s : State W) :
    ∃ tried r, Tries paths tried r ∧ ∃ ds t, Action.Does h (editAll h edit paths) s ds r t ∧
      Tally ds (tried.flatMap (Tried.entries edit)) (tried.flatMap Tried.records) := by
  induction paths generalizing s with
  | nil => exact ⟨[], .ok (), .nil, [], s, .pure () s, .nil⟩
  | cons path rest ih =>
    obtain ⟨x, rfl, ds, t, does, tally⟩ := does_editPath h edit path s
    cases htold : x.told with
    | ok u =>
      rw [htold] at does
      obtain ⟨tried, r, tries, es, v, others, tally'⟩ := ih t
      exact ⟨x :: tried, r, .told htold tries, ds ++ es, v, does.bind others,
        tally.append tally'⟩
    | error cause =>
      rw [htold] at does
      refine ⟨[x], .error cause, .lost htold rest, ds, t, does.bind_error, ?_⟩
      simpa using tally

end Standard

/-! ## The files -/

namespace FileSystem.Replay

variable {fs : FileSystem F} {files after : F} {entries : List Entry} {edit : PathEdit}

/-- An attempt is answered by the file system, and the report on it leaves the files alone. -/
theorem tried {x : Tried} (replay : fs.Replay files (x.entries edit ++ entries) after) :
    (fs.edit edit x.path files).1 = x.answer ∧
      fs.Replay (fs.edit edit x.path files).2 entries after := by
  obtain ⟨hanswer, rest⟩ := replay.edited
  refine ⟨?_, rest⟩
  cases ha : (fs.edit edit x.path files).1 <;> cases hx : x.answer <;>
    simp_all [Except.map]

theorem editEach {tried : List Tried}
    (replay : fs.Replay files (tried.flatMap (Tried.entries edit)) after) :
    fs.editEach edit (tried.map Tried.path) files = (tried.map Tried.answer, after) := by
  induction tried generalizing files with
  | nil =>
    cases replay
    rfl
  | cons x tried ih =>
    obtain ⟨hanswer, rest⟩ := replay.tried
    cases hr : fs.edit edit x.path files with
    | mk answer next =>
      rw [hr] at hanswer rest
      simp only [List.map_cons, FileSystem.editEach, hr, ih rest, ← hanswer]

end FileSystem.Replay

/-- A file system behind an output that breaks once its budget is used up. -/
theorem Host.holds_metered (fs : FileSystem F) (refusal : Refusal) :
    (fs.alone.metered refusal).Holds fs Metered.world where
  filing c hc m := by
    have ho : c.isOutput = false := by cases c <;> first | rfl | cases hc
    rw [Host.perform_metered _ _ ho]
  output c hc m := by
    rw [Host.perform_metered_output _ _ hc, Attempt.reply, Metered.spend]
    split <;> rfl
  note _ _ := rfl
  pause _ _ := rfl

namespace Interpreter

/-- A command for many paths attempts them as the file system answers, and what it does comes from
its attempts. -/
theorem tries_dispatch {h : Host W} {fs : FileSystem F} {files : W → F}
    (holds : h.Holds fs files) {edit : PathEdit} {name : String}
    (hname : name ∈ Standard.batchNames edit) (path : String) (rest : List String)
    (s : State W) :
    ∃ tried r, Tries (path :: rest) tried r ∧
      fs.editEach edit (tried.map Tried.path) (files s.world) =
        (tried.map Tried.answer,
          files ((standard h).dispatch (name :: path :: rest) s).2.world) ∧
      AmountsTo h (name :: path :: rest) s (tried.flatMap (Tried.entries edit))
        (tried.flatMap Tried.records ++ lossRecords (r.map fun _ => Token.success)) := by
  have ho : Builtin.ofName? name = some (.batch edit) := Builtin.ofName?_eq_some_iff.mpr hname
  obtain ⟨event, synopses, comes⟩ := comes_to_of_does h ho (path :: rest) s
  obtain ⟨tried, r, tries, ds, t, does, tally⟩ :=
    Standard.does_editAll h.journaled edit (path :: rest)
      ((standard h.journaled).tell event s.journaled)
  have comes := comes ds _ t (does.bind_pure Token.success)
  have success : (r.map fun _ => Token.success).toOption.getD .success = .success := by
    cases r <;> rfl
  have amounts := comes.amountsTo tally success
  refine ⟨tried, r, tries, ?_, amounts⟩
  have tame : ∀ e ∈ h.callsOf (name :: path :: rest) s, e.isTame = true := by
    rw [amounts.calls]
    intro e he
    obtain ⟨x, -, hx⟩ := List.mem_flatMap.mp he
    exact Tried.tame hx
  have replay := replayed_dispatch holds tame
  rw [amounts.calls] at replay
  exact replay.editEach

/-- A command for many paths attempts them in order up to the first one that it cannot report on.
The file system has then done exactly what was asked up to there, the log has grown by a record for
each failure in their order, and by one more if a report could not be made; the session is as it
was but for the token. -/
theorem batch_cut_short {h : Host W} {fs : FileSystem F} {files : W → F}
    (holds : h.Holds fs files) {edit : PathEdit} {name : String}
    (hname : name ∈ Standard.batchNames edit) (path : String) (rest : List String)
    (s : State W) :
    let paths := path :: rest
    let after := ((standard h).dispatch (name :: paths) s).2
    ∃ tried : List Tried, tried ≠ [] ∧ CutShort paths tried ∧
      fs.editEach edit (paths.take tried.length) (files s.world) =
        (tried.map Tried.answer, files after.world) ∧
      AmountsTo h (name :: paths) s (tried.flatMap (Tried.entries edit))
        (tried.flatMap Tried.records ++
          if tried.all (·.told.isOk) then [] else [Record.ofKind .unknown]) := by
  intro paths after
  obtain ⟨tried, r, tries, hfiles, amounts⟩ := tries_dispatch holds hname path rest s
  rw [tries.result] at amounts
  have cut := tries.cutShort
  rw [cut.operands] at hfiles
  exact ⟨tried, tries.ne_nil (List.cons_ne_nil path rest), cut, hfiles, amounts⟩

/-- One line can be written: the second of three paths is there already, its error line is lost,
and the third one is not made. -/
theorem batch_cut_short_metered :
    let files : Files :=
      { tree := { entries := [(["b"], .directory {})] }, cwd := { live := [] } }
    let s : State (Metered Files) :=
      { session := { cwd := "/", home := "/", user := "user" }, errors := {},
        world := { world := files, left := some 1 } }
    let h := Files.system.alone.metered fun _ _ => .brokenPipe
    let after := ((standard h).dispatch ["mks", "a", "b", "c"] s).2
    h.Holds Files.system Metered.world ∧ "mks" ∈ Standard.batchNames .createFile ∧
      (∃ tried, CutShort ["a", "b", "c"] tried ∧ tried.map Tried.path = ["a", "b"] ∧
        Files.system.editEach .createFile ["a", "b"] files =
          (tried.map Tried.answer, after.world.world)) ∧
      after.errors.records = [Record.ofKind .invalidArguments, Record.ofKind .unknown] := by
  intro files s h after
  have holds : h.Holds Files.system Metered.world := Host.holds_metered Files.system _
  have hmany : "mks" ∈ Standard.batchNames .createFile := by decide
  obtain ⟨tried, -, cut, hfiles, amounts⟩ := batch_cut_short holds hmany "a" ["b", "c"] s
  have hcalls : (h.callsOf ["mks", "a", "b", "c"] s).length = 4 := by decide +kernel
  have hlength : tried.length = 2 := by
    rw [amounts.calls, Tried.length_entries] at hcalls
    omega
  have operands := cut.operands
  -- The state is too large to be compared by computing it.
  have hafter : after = ((standard h).dispatch ["mks", "a", "b", "c"] s).2 := rfl
  rw [hlength] at operands
  rw [hlength, ← hafter] at hfiles
  refine ⟨holds, hmany, ⟨tried, cut, operands, hfiles⟩, ?_⟩
  decide +kernel

end Interpreter
end LineShell
