import LineShell.Proofs.Accounting
import LineShell.Proofs.Alterations
import LineShell.Proofs.Execution
import LineShell.Proofs.Frame

/-!
# Nothing is lost

The commands for paths are the only ones that change a tree, one attempt at an operand after the
other.  `Story` tells a run as a sequence of attempts, each with its report, between calls that
leave the tree alone.  Whatever is asked of the tree over a run can be read off its story:
`data_kept` says that a file never changes and that nothing goes away but by a removal that was
reported.
-/

namespace LineShell

variable {W : Type}

/-! ## Hosts with files -/

/-- A host keeps files if its file system is the one in memory, on a part of its world that not even
command lines reach, and if its output works. -/
structure Host.Stores (h : Host W) (files : W → Files) : Prop extends
    h.Holds Files.system files where
  run : ∀ line w, files (h.run line w).2 = files w
  works : h.OutputWorks

namespace Host.Stores

variable {h : Host W} {files : W → Files}

theorem aside (stores : h.Stores files) {c : Call} (hc : c.isFiling = false) (w : W) :
    files (h.perform c w).2 = files w := by
  cases c with
  | run line => exact stores.run line w
  | line text => exact stores.output _ rfl w
  | complain message item => exact stores.output _ rfl w
  | clear => exact stores.output _ rfl w
  | _ => cases hc

theorem journaled (stores : h.Stores files) : h.journaled.Stores fun j => files j.world where
  toHolds := stores.toHolds.journaled
  run line j := stores.run line j.world
  works := stores.works.journaled

theorem replayed (stores : h.Stores files) {s t : State W} {ds : List Deed}
    (course : Course h s ds t) :
    Files.system.Replay (files s.world) (entriesOf ds) (files t.world) :=
  course.replayed stores.toHolds fun _ _ => stores.aside

end Host.Stores

theorem Files.stores_alone : Files.system.alone.Stores id where
  toHolds := Files.system.holds_alone
  run _ _ := rfl
  works := Files.system.outputWorks_alone

/-! ## Attempts -/

/-- An attempt at an operand of a command for paths. -/
structure Attempted where
  edit : PathEdit
  path : String
  before : Files

namespace Attempted

def operand (a : Attempted) : PathEdit × String := (a.edit, a.path)

def answer (a : Attempted) : Except Failure Unit := (Files.system.edit a.edit a.path a.before).1

def after (a : Attempted) : Files := (Files.system.edit a.edit a.path a.before).2

/-- The attempt and the report on it. -/
def entries (a : Attempted) : List Entry :=
  a.edit.entries a.path (a.answer.map fun _ => .done) (.ok ())

/-- A removal that was reported took a node away. -/
structure Removes (a : Attempted) (l : Location) (node : Node) : Prop where
  answer : a.answer = .ok ()
  found : a.before.tree.find? l = some node
  gone : a.after.tree.find? l = none
  named : ∃ path, Files.readShortPath a.path = .ok path ∧
    a.before.tree.Named a.before.cwd path l
  edit : (a.edit = .removeFile ∧ node.isDirectory = false) ∨
    (a.edit = .removeDir ∧ node.isDirectory = true)

/-- An attempt makes at most the one change it is for, and none if it fails.  At a file that is
there the making of files changes nothing, and it works unless the file must not be written. -/
structure Harmless (a : Attempted) : Prop where
  edited : a.before.Edited a.edit a.path (a.answer, a.after)
  again : a.edit = .createFile → ∀ path l file, Files.readShortPath a.path = .ok path →
    a.before.tree.reach a.before.cwd path = .ok (.leaf l (.file file)) →
    a.after.tree = a.before.tree ∧
      (a.answer = .ok () ↔ (Node.file file).grants .write = true)

theorem harmless {a : Attempted} (sound : a.before.Sound) : a.Harmless where
  edited := sound.edited a.edit a.path
  again := by
    intro hedit path l file hpath reached
    have found := Files.createFile_of_file hpath reached
    rw [← hedit] at found
    exact found

theorem sound_after {a : Attempted} (sound : a.before.Sound) : a.after.Sound := by
  have edited : a.before.Edited a.edit a.path (a.answer, a.after) := sound.edited a.edit a.path
  generalize a.answer = answer at edited
  generalize a.after = after at edited ⊢
  cases edited with
  | worked _ _ sound => exact sound
  | failed => exact sound

theorem keeps {a : Attempted} (sound : a.before.Sound) {l : Location} {node : Node}
    (found : a.before.tree.find? l = some node) :
    a.after.tree.find? l = some node ∨ a.Removes l node := by
  have edited : a.before.Edited a.edit a.path (a.answer, a.after) := sound.edited a.edit a.path
  generalize hanswer : a.answer = answer at edited
  generalize hafter : a.after = after at edited
  cases edited with
  | failed => exact .inl found
  | worked hpath alters _ =>
    rcases alters.keeps found with kept | ⟨named, gone, removal⟩
    · exact .inl kept
    · exact .inr ⟨hanswer, found, hafter ▸ gone, ⟨_, hpath, named⟩, removal⟩

end Attempted

/-! ## Stories -/

/-- How the calls of a run lead from some files to others. -/
inductive Story : Files → List Entry → List Attempted → Files → Prop
  | nil (files : Files) : Story files [] [] files
  | aside {files after : Files} {e : Entry} {entries : List Entry} {attempts : List Attempted}
      (quiet : e.call.isChange = false) (rest : Story files entries attempts after) :
      Story files (e :: entries) attempts after
  | moved {files after : Files} (path : String) (answer : Except Failure Reply)
      {entries : List Entry} {attempts : List Attempted}
      (rest : Story (Files.enter path files).2 entries attempts after) :
      Story files (⟨.move path, answer⟩ :: entries) attempts after
  | attempted (a : Attempted) {after : Files} {entries : List Entry} {attempts : List Attempted}
      (rest : Story a.after entries attempts after) :
      Story a.before (a.entries ++ entries) (a :: attempts) after

namespace Story

variable {files next after : Files} {entries entries' : List Entry}
  {attempts attempts' : List Attempted}

theorem append (first : Story files entries attempts next)
    (second : Story next entries' attempts' after) :
    Story files (entries ++ entries') (attempts ++ attempts') after := by
  induction first with
  | nil files => exact second
  | aside quiet _ ih => exact .aside quiet (ih second)
  | moved path answer _ ih => exact .moved path answer (ih second)
  | attempted a _ ih =>
    rw [List.append_assoc]
    exact .attempted a (ih second)

/-- Without an attempt the tree is as it was. -/
theorem tree_eq (story : Story files entries [] after) : after.tree = files.tree := by
  generalize hnone : ([] : List Attempted) = attempts at story
  induction story with
  | nil => rfl
  | aside _ _ ih => exact ih hnone
  | @moved files after path answer entries attempts _ ih =>
    rw [ih hnone]
    unfold Files.enter
    cases files.destination path <;> rfl
  | attempted => cases hnone

theorem harmless (story : Story files entries attempts after) (sound : files.Sound) :
    (∀ a ∈ attempts, a.Harmless) ∧ after.Sound := by
  induction story with
  | nil files => exact ⟨by simp, sound⟩
  | aside _ _ ih => exact ih sound
  | moved path answer _ ih => exact ih (sound.entered path).1
  | attempted a _ ih =>
    obtain ⟨harmless, ended⟩ := ih (Attempted.sound_after sound)
    exact ⟨List.forall_mem_cons.mpr ⟨Attempted.harmless sound, harmless⟩, ended⟩

/-- What stands somewhere stands there unchanged until a reported removal takes it away. -/
theorem keeps (story : Story files entries attempts after) (sound : files.Sound) {l : Location}
    {node : Node} (found : files.tree.find? l = some node) :
    after.tree.find? l = some node ∨ ∃ a ∈ attempts, a.Removes l node := by
  induction story with
  | nil files => exact .inl found
  | aside _ _ ih => exact ih sound found
  | moved path answer _ ih =>
    obtain ⟨sound, tree⟩ := sound.entered path
    exact ih sound (tree ▸ found)
  | attempted a _ ih =>
    rcases Attempted.keeps sound found with kept | removes
    · rcases ih (Attempted.sound_after sound) kept with kept | ⟨b, hb, removes⟩
      · exact .inl kept
      · exact .inr ⟨b, List.mem_cons_of_mem a hb, removes⟩
    · exact .inr ⟨a, List.mem_cons_self, removes⟩

end Story

/-! ## Dispatches -/

/-- The edits that words attempt: of their first operand or of all, if the command is for paths. -/
def operandsOf (words : List String) : List (PathEdit × String) :=
  match Errand.ofWords words with
  | .command (.single edit) operands => (operands.take 1).map (edit, ·)
  | .command (.batch edit) operands => operands.map (edit, ·)
  | _ => []

/-- Calls without an edit have a story without an attempt. -/
theorem Story.of_idle {files after : Files} {entries : List Entry}
    (replay : Files.system.Replay files entries after)
    (idle : ∀ e ∈ entries, ∀ edit path, e.call ≠ .edit edit path) :
    Story files entries [] after := by
  induction replay with
  | nil files => exact .nil files
  | @filing files next after e entries _ answered _ ih =>
    obtain ⟨first, others⟩ := List.forall_mem_cons.mp idle
    obtain ⟨c, answer⟩ := e
    have hnext : (Files.system.alone.perform c files).2 = next := congrArg Prod.snd answered
    cases c with
    | edit edit path => exact absurd rfl (first edit path)
    | move path =>
      obtain rfl : (Files.enter path files).2 = next := hnext
      exact .moved path answer (ih others)
    | _ =>
      obtain rfl : files = next := hnext
      exact .aside rfl (ih others)
  | @aside files after e entries aside _ ih =>
    obtain ⟨-, others⟩ := List.forall_mem_cons.mp idle
    have quiet : e.call.isChange = false := by
      cases hc : e.call <;> first | rfl | simp [hc, Call.isFiling] at aside
    exact .aside quiet (ih others)

/-- The calls that edits of paths take are attempts, if every report was heard. -/
theorem Edits.story {edit : PathEdit} {paths : List String} {entries : List Entry}
    {result : Except Failure Unit} {files after : Files} (edits : Edits edit paths entries result)
    (heard : ∀ e ∈ entries, e.isLost = false)
    (replay : Files.system.Replay files entries after) :
    ∃ attempts, Story files entries attempts after ∧
      attempts.map Attempted.operand = paths.map (edit, ·) := by
  induction edits generalizing files with
  | nil =>
    cases replay
    exact ⟨[], .nil _, rfl⟩
  | @told path answer rest entries result _ ih =>
    obtain ⟨answered, replay⟩ := replay.edited
    let a : Attempted := ⟨edit, path, files⟩
    have hentries : a.entries = edit.entries path answer (.ok ()) := by
      rw [answered]
      rfl
    obtain ⟨attempts, story, hoperands⟩ :=
      ih (fun e he => heard e (List.mem_append_right _ he)) replay
    refine ⟨a :: attempts, ?_, congrArg ((edit, path) :: ·) hoperands⟩
    rw [← hentries]
    exact .attempted a story
  | lost path rest answer cause => cases PathEdit.told_of_heard heard

namespace Interpreter

/-- The calls of the commands for paths are edits of their operands, on any host. -/
theorem course_edits (h : Host W) {words : List String} {b : Builtin} {path : String}
    {rest : List String} (hb : Errand.ofWords words = .command b (path :: rest)) {edit : PathEdit}
    (hedit : b = .single edit ∨ b = .batch edit) (s : State W) :
    ∃ paths ds result, Course h s ds ((standard h).dispatch words s).2 ∧
      Edits edit paths (entriesOf ds) result ∧ operandsOf words = paths.map (edit, ·) := by
  obtain ⟨event, synopses, name, after, ended, still⟩ := course_dispatch h hb s
  let t := (standard h).tell event s
  have begun : Course h s [.tell event] t := .single (.tell s event)
  have between {ds : List Deed} {x : Action W Unit} {paths : List String}
      {result : Except Failure Unit}
      (hx : (b.command h).execute synopses name (path :: rest) = x >>= fun _ => pure .success)
      (course : Course h t ds (x.run t).2) (edits : Edits edit paths (entriesOf ds) result)
      (hoperands : operandsOf words = paths.map (edit, ·)) :
      ∃ paths ds result, Course h s ds ((standard h).dispatch words s).2 ∧
        Edits edit paths (entriesOf ds) result ∧ operandsOf words = paths.map (edit, ·) := by
    rw [hx, Standard.run_bind_pure_snd] at ended
    refine ⟨paths, _, result, (begun.append course).append ended, ?_, hoperands⟩
    rwa [entriesOf_between (by simp [Deed.Still]) still]
  rcases hedit with rfl | rfl
  · obtain ⟨ds, answer, course, hentries⟩ := Standard.course_editPath h edit path t
    have hoperands : operandsOf words = [path].map (edit, ·) := by simp [operandsOf, hb]
    cases hr : ((Standard.editPath h edit path).run t).1 with
    | ok _ =>
      rw [hr] at hentries
      have edits : Edits edit [path] (entriesOf ds) (.ok ()) := by
        have none : Edits edit [] [] (.ok ()) := .nil
        have told := Edits.told path answer none
        rwa [List.append_nil, ← hentries] at told
      exact between rfl course edits hoperands
    | error cause =>
      rw [hr] at hentries
      have edits : Edits edit [path] (entriesOf ds) (.error cause) :=
        hentries ▸ .lost path [] answer cause
      exact between rfl course edits hoperands
  · obtain ⟨ds, course, edits⟩ := Standard.course_editAll h edit (path :: rest) t
    exact between rfl course edits (by simp [operandsOf, hb])

section

variable {h : Host W} {files : W → Files} (stores : h.Stores files) {words : List String}

include stores

/-- Words that attempt no edit. -/
theorem story_of_idle (hoperands : operandsOf words = [])
    (hedit : ∀ edit path answer, ¬ (Errand.ofWords words).opens (.call (.edit edit path) answer))
    (s : State W) :
    ∃ ds attempts, Course h s ds ((standard h).dispatch words s).2 ∧
      Story (files s.world) (entriesOf ds) attempts
        (files ((standard h).dispatch words s).2.world) ∧
      attempts.map Attempted.operand = operandsOf words := by
  obtain ⟨-, ds, course, account⟩ := account_dispatch h words s
  refine ⟨ds, [], course, .of_idle (stores.replayed course) ?_, hoperands.symm⟩
  intro e he edit path hcall
  obtain ⟨d, hd, hentry⟩ := List.mem_filterMap.mp he
  cases d with
  | call c answer =>
    cases hentry
    obtain rfl : c = .edit edit path := hcall
    rcases account.permitted _ hd with hcommon | hopens | hkeep
    · cases hcommon
    · exact hedit edit path answer hopens
    · cases hkeep
  | _ => cases hentry

theorem story_dispatch (words : List String) (s : State W) :
    ∃ ds attempts, Course h s ds ((standard h).dispatch words s).2 ∧
      Story (files s.world) (entriesOf ds) attempts
        (files ((standard h).dispatch words s).2.world) ∧
      attempts.map Attempted.operand = operandsOf words := by
  have edited {b : Builtin} {path : String} {rest : List String} {edit : PathEdit}
      (hb : Errand.ofWords words = .command b (path :: rest))
      (hedit : b = .single edit ∨ b = .batch edit) :
      ∃ ds attempts, Course h s ds ((standard h).dispatch words s).2 ∧
        Story (files s.world) (entriesOf ds) attempts
          (files ((standard h).dispatch words s).2.world) ∧
        attempts.map Attempted.operand = operandsOf words := by
    obtain ⟨paths, ds, result, course, edits, hoperands⟩ := course_edits h hb hedit s
    obtain ⟨attempts, story, hattempts⟩ :=
      edits.story (course.heard stores.works) (stores.replayed course)
    exact ⟨ds, attempts, course, story, hattempts.trans hoperands.symm⟩
  cases he : Errand.ofWords words with
  | blank => exact story_of_idle stores (by simp [operandsOf, he]) (by simp [he, Errand.opens]) s
  | external line =>
    exact story_of_idle stores (by simp [operandsOf, he]) (by simp [he, Errand.opens]) s
  | command b operands =>
    cases b with
    | single edit =>
      cases operands with
      | nil =>
        refine story_of_idle stores (by simp [operandsOf, he]) ?_ s
        simp [he, Errand.opens, Builtin.opens]
      | cons path rest => exact edited he (.inl rfl)
    | batch edit =>
      cases operands with
      | nil =>
        refine story_of_idle stores (by simp [operandsOf, he]) ?_ s
        simp [he, Errand.opens, Builtin.opens]
      | cons path rest => exact edited he (.inr rfl)
    | _ =>
      refine story_of_idle stores (by simp [operandsOf, he]) ?_ s
      simp [he, Errand.opens, Builtin.opens]

end

/-! ## Runs -/

/-- A story goes on with every dispatch. -/
theorem law_story {h : Host W} {files : W → Files} (stores : h.Stores files) :
    Law (standard h.journaled)
      (fun j j' => j'.entries = j.entries ∧ files j'.world = files j.world) fun argvs s t =>
        ∃ entries attempts, t.world.entries = s.world.entries ++ entries ∧
          Story (files s.world.world) entries attempts (files t.world.world) ∧
          attempts.map Attempted.operand = argvs.flatMap operandsOf where
  refl s := ⟨[], [], (List.append_nil _).symm, .nil _, rfl⟩
  trans := by
    rintro argvs argvs' s t u ⟨entries, attempts, hentries, story, hattempts⟩
      ⟨entries', attempts', hentries', story', hattempts'⟩
    refine ⟨entries ++ entries', attempts ++ attempts', ?_, story.append story', ?_⟩
    · rw [hentries', hentries, List.append_assoc]
    · rw [List.map_append, List.flatMap_append, hattempts, hattempts']
  dispatch words s := by
    obtain ⟨ds, attempts, course, story, hattempts⟩ := story_dispatch stores.journaled words s
    exact ⟨entriesOf ds, attempts, course.entries, story, by simpa using hattempts⟩
  tell event s := by
    refine ⟨[], [], (List.append_nil _).symm, ?_, rfl⟩
    show Story (files s.world.world) [] [] (files (h.note event s.world.world))
    rw [stores.note]
    exact .nil _
  aside s j := by
    rintro ⟨hentries, hfiles⟩
    refine ⟨[], [], hentries.trans (List.append_nil _).symm, ?_, rfl⟩
    rw [hfiles]
    exact .nil _
  reset s := ⟨[], [], (List.append_nil _).symm, .nil _, rfl⟩

theorem dispatchedAll_words (sh : Interpreter W) (argvs : List (List String)) (s : State W) :
    sh.dispatchedAll (argvs.map .words) s = argvs := by
  induction argvs generalizing s with
  | nil => rfl
  | cons words rest ih => exact congrArg (words :: ·) (ih _)

theorem story_respondAll {h : Host W} {files : W → Files} (stores : h.Stores files)
    (argvs : List (List String)) (s : State W) :
    let inputs := argvs.map Input.words
    ∃ attempts, Story (files s.world) (h.callsOfRun inputs s) attempts
        (files ((standard h).respondAll inputs s).world) ∧
      attempts.map Attempted.operand = argvs.flatMap operandsOf := by
  intro inputs
  have hjournaled : inputs.map Input.journaled = argvs.map .words := by
    simp [inputs, Input.journaled]
  have within : ∀ input ∈ inputs.map Input.journaled, input.Within
      (fun j j' : Journal W => j'.entries = j.entries ∧ files j'.world = files j.world) := by
    simp [hjournaled, Input.Within]
  obtain ⟨entries, attempts, hentries, story, hattempts⟩ :=
    (law_story stores).respondAll within s.journaled
  have hplain := congrArg State.world (forget_respondAll h inputs s.journaled)
  have hcalls : h.callsOfRun inputs s = entries := hentries
  refine ⟨attempts, ?_, ?_⟩
  · rw [hcalls]
    exact hplain ▸ story
  · rw [hattempts, hjournaled, dispatchedAll_words]

/-- Over any sequence of dispatches a tree changes only by attempts at the operands of the commands
for paths, one after the other and each of them reported on.  An attempt adds an empty file or an
empty directory, or takes away the one entry that was named, which is no directory or an empty one;
an attempt that fails changes nothing, nor does the making of a file that is there.  So what stands
somewhere goes on standing there as it was, its content included, until a reported removal takes it
away. -/
theorem data_kept {h : Host W} {files : W → Files} (stores : h.Stores files) (s : State W)
    (sound : (files s.world).Sound) (argvs : List (List String)) :
    let inputs := argvs.map Input.words
    let before := files s.world
    let after := files ((standard h).respondAll inputs s).world
    ∃ attempts,
      Story before (h.callsOfRun inputs s) attempts after ∧
      attempts.map Attempted.operand = argvs.flatMap operandsOf ∧
      (∀ a ∈ attempts, a.Harmless) ∧
      (argvs.flatMap operandsOf = [] → after.tree = before.tree) ∧
      after.Sound ∧
      ∀ l node, before.tree.find? l = some node →
        after.tree.find? l = some node ∨ ∃ a ∈ attempts, a.Removes l node := by
  intro inputs before after
  obtain ⟨attempts, story, hattempts⟩ := story_respondAll stores argvs s
  obtain ⟨harmless, ended⟩ := story.harmless sound
  refine ⟨attempts, story, hattempts, harmless, fun hnone => ?_, ended, fun l node found =>
    story.keeps sound found⟩
  rw [hnone, List.map_eq_nil_iff] at hattempts
  exact (hattempts ▸ story).tree_eq

/-- A file is made again through a link, the link is removed, and a directory is not while something
is in it: the file at the end of the link keeps its content. -/
theorem data_kept_linked :
    let files : Files :=
      { tree :=
          { entries := [(["l"], .link "f"), (["f"], .file { content := "data" }),
              (["x", "d"], .file {}), (["d"], .directory {})] }
        cwd := { live := [] } }
    let session : Session := { cwd := "/", home := "/", user := "user" }
    let s : State Files := { session, errors := {}, world := files }
    let argvs := [["mk", "l"], ["rmdir", "d"], ["rms", "l", "d/x"], ["cd", "d"], ["rmdir", "/d"]]
    let after := ((standard Files.system.alone).respondAll (argvs.map Input.words) s).world
    Files.system.alone.Stores id ∧ files.Sound ∧
      (∃ attempts,
        Story files (Files.system.alone.callsOfRun (argvs.map Input.words) s) attempts after ∧
        attempts.map Attempted.operand = [(.createFile, "l"), (.removeDir, "d"),
          (.removeFile, "l"), (.removeFile, "d/x"), (.removeDir, "/d")] ∧
        ∀ a ∈ attempts, a.Harmless) ∧
      after.tree.entries = [(["f"], .file { content := "data" })] := by
  intro files session s argvs after
  have stores : Files.system.alone.Stores id := Files.stores_alone
  have sound : files.Sound := ⟨Tree.closed_of_entries (by decide), ⟨{}, rfl⟩⟩
  obtain ⟨attempts, story, hattempts, harmless, -⟩ := data_kept stores s sound argvs
  refine ⟨stores, sound, ⟨attempts, story, ?_, harmless⟩, ?_⟩
  · rw [hattempts]
    decide
  · decide +kernel

end Interpreter
end LineShell
