import LineShell.Proofs.Alterations
import LineShell.Proofs.Interruption

/-!
# Taking back what was made

What was put under a free name is taken away through the same path, because the walk there takes no
notice of the new entry before its last step: whatever stood on the way still stands.  The tree is
then the one from before, entry by entry.  Of several paths the last one is taken back first, so
that each removal meets the tree that its own creation left, however the paths run through one
another.
-/

namespace LineShell

namespace Tree

variable {t t' : Tree} {p d : Place} {path : Path} {name : String}

/-! ## One path -/

/-- A path that ends at no link is not followed any further. -/
theorem pastLinks_of_vacant
    (vacant : ∀ s, t.spot p path = .ok s → ∃ d name, s = .vacant d name) (links : Nat) :
    t.pastLinks links p path = (p, path) := by
  cases links with
  | zero => rfl
  | succ links =>
    unfold pastLinks
    split
    · rename_i hspot
      obtain ⟨d, name, hs⟩ := vacant _ hspot
      cases hs
    · rfl

/-- A file that is made where nothing stands, not even a link, is made under the name itself. -/
theorem vacancy_of_createFile
    (vacant : ∀ s, t.spot p path = .ok s → ∃ d name, s = .vacant d name)
    (worked : t.createFile p path = .ok t') :
    ∃ d name, t.Vacancy p path d name ∧ path.slash = false ∧
      t' = t.insert (name :: d.live) (.file {}) := by
  obtain ⟨⟨last, hlast⟩, hslash, made⟩ := createFile_ok worked
  rw [pastLinks_of_vacant vacant] at hlast hslash
  have halted {s : Spot} (hreach : t.reach p path = .ok s) :
      t.spot p path = .ok s ∧ ∃ d name, s = .vacant d name := by
    have walk := Walk.of_walk hreach
    rw [Path.steps, hslash, if_neg (by simp)] at walk
    rcases walk.halt with halted | ⟨l, target, halted⟩
    · exact ⟨halted.walk_eq_ok, vacant s halted.walk_eq_ok⟩
    · obtain ⟨d, name, hs⟩ := vacant _ halted.walk_eq_ok
      cases hs
  rcases made with ⟨l, node, hreach, -⟩ | ⟨d, name, hreach, hplace⟩
  · obtain ⟨-, d, name, hs⟩ := halted hreach
    cases hs
  · obtain ⟨hspot, -⟩ := halted hreach
    obtain ⟨present, permits, rfl⟩ := place_ok hplace
    obtain ⟨e, -, ⟨-, hs⟩ | ⟨node, -, ⟨-, hs⟩ | ⟨-, hs⟩⟩⟩ := spot_cases hlast hspot
    · cases hs
      exact ⟨_, _, ⟨hlast, hspot, present, permits⟩, hslash, rfl⟩
    · cases hs
    · cases hs

theorem erase_insert_of_free (free : t.find? (name :: d.live) = none) (node : Node) :
    (t.insert (name :: d.live) node).erase (name :: d.live) = t := by
  refine t.erase_insert _ node fun entry he hkey => ?_
  rw [find?, List.lookup_eq_none_iff] at free
  have hne := free entry he
  rw [hkey] at hne
  simp at hne

namespace Vacancy

variable (vacancy : t.Vacancy p path d name) (closed : t.Closed) (stands : t.HasDirectory p.live)

include vacancy closed stands

theorem hasDirectory : t.HasDirectory d.live :=
  ((Walk.of_walk vacancy.spot).holds closed (stands.start path)).1

/-- The path leads to what was put under the name. -/
theorem spot_insert (node : Node) :
    (t.insert (name :: d.live) node).spot p path =
      .ok (if node.isDirectory then .directory (d.enter name)
        else .leaf (name :: d.live) node) := by
  have extended := extends_insert vacancy.find? node
  obtain ⟨hnames, hdot, hdotDot⟩ := path.names_of_last vacancy.last
  have walk := Walk.of_walk vacancy.spot
  rw [hnames] at walk
  obtain ⟨e, before, last⟩ := walk.split_last hdot hdotDot
  have before := before.extends extended closed (stands.start path)
  cases last with
  | dot => exact absurd rfl hdot
  | dotDot => exact absurd rfl hdotDot
  | vacant looks free =>
    have looks := extended.looks (vacancy.hasDirectory closed stands) looks
    have stands : (t.insert (name :: d.live) node).child? d name = some node := by
      rw [child?, if_pos vacancy.present, find?_insert_self]
    have last : Walk (t.insert (name :: d.live) node) false 0 d [name]
        (if node.isDirectory then .directory (d.enter name)
          else .leaf (name :: d.live) node) := by
      cases hdirectory : node.isDirectory with
      | false => exact .leaf looks stands hdirectory fun _ _ => rfl
      | true =>
        cases node with
        | directory folder => exact .enter looks stands (.here 0 _)
        | _ => cases hdirectory
    rw [Tree.spot, hnames]
    exact (before.concat last).walk_eq_ok
  | enter _ _ after => cases after

theorem permits_insert (node : Node) :
    (t.insert (name :: d.live) node).permits d.live .write = true := by
  rw [(extends_insert vacancy.find? node).permits (vacancy.hasDirectory closed stands)]
  exact vacancy.permits

theorem removeFile {node : Node} (proper : node.isDirectory = false) (hslash : path.slash = false) :
    (t.insert (name :: d.live) node).removeFile p path = .ok t := by
  have hspot := vacancy.spot_insert closed stands node
  have hguard : (t.insert (name :: d.live) node).guardName (name :: d.live) = .ok () :=
    if_pos (vacancy.permits_insert closed stands node)
  rw [proper] at hspot
  rw [Tree.removeFile, vacancy.last]
  simp [hspot, hslash, hguard, bind, Except.bind, erase_insert_of_free vacancy.find?]

theorem removeDir (folder : Folder) :
    (t.insert (name :: d.live) (.directory folder)).removeDir p path = .ok t := by
  have hspot := vacancy.spot_insert closed stands (.directory folder)
  have hguard : (t.insert (name :: d.live) (.directory folder)).guardName (name :: d.live) =
      .ok () := if_pos (vacancy.permits_insert closed stands (.directory folder))
  have hnames : (t.insert (name :: d.live) (.directory folder)).names (name :: d.live) = [] := by
    rw [List.eq_nil_iff_forall_not_mem]
    intro other hother
    have hlonger : other :: name :: d.live ≠ name :: d.live := List.cons_ne_self _ _
    rw [mem_names_iff, find?_insert_of_ne t _ hlonger, vacancy.empty closed] at hother
    cases hother
  rw [Tree.removeDir, vacancy.last]
  simp [hspot, hguard, hnames, Place.enter, Node.isDirectory, bind, Except.bind,
    erase_insert_of_free vacancy.find?]

end Vacancy

/-- Somebody who stands in a directory goes on standing there. -/
theorem settle_of_hasDirectory (stands : t.HasDirectory p.live) : t.settle p = p := by
  obtain ⟨live, gone⟩ := p
  cases live with
  | nil => rfl
  | cons name parent =>
    obtain ⟨folder, found⟩ := stands
    have directory : (t.find? (name :: parent)).any Node.isDirectory = true := by
      rw [found]
      rfl
    rw [settle, settleFrom, if_pos directory]

end Tree

namespace Files

variable {files next : Files} {text : String}

/-- Nothing stands at a path, not even a link that leads nowhere. -/
def Vacant (text : String) (files : Files) : Prop :=
  ∀ path, readShortPath text = .ok path →
    ∀ s, files.tree.spot files.cwd path = .ok s → ∃ d name, s = .vacant d name

theorem change_eq {op : Tree → Place → Path → Except Fault Tree} {path : Path} {tree : Tree}
    (hpath : readShortPath text = .ok path) (hop : op files.tree files.cwd path = .ok tree) :
    change op text files = (.ok (), files.withTree tree) := by
  simp only [change, hpath, bind, Except.bind, hop, failing_ok]

/-- What was put under a free name and is taken away again leaves the files as they were. -/
theorem Sound.taken_back {make remove : Tree → Place → Path → Except Fault Tree}
    (sound : files.Sound) (worked : change make text files = (.ok (), next))
    (back : ∀ path, readShortPath text = .ok path →
      ∀ tree, make files.tree files.cwd path = .ok tree → ∃ d name node,
        files.tree.Vacancy files.cwd path d name ∧ tree = files.tree.insert (name :: d.live) node ∧
        remove tree files.cwd path = .ok files.tree) :
    change remove text next = (.ok (), files) := by
  obtain ⟨path, hpath, tree, hop, rfl⟩ := change_ok worked
  obtain ⟨d, name, node, vacancy, rfl, hremove⟩ := back path hpath tree hop
  have stands := (Tree.extends_insert vacancy.find? node).hasDirectory sound.stands
  have hmade : files.withTree (files.tree.insert (name :: d.live) node) =
      { tree := files.tree.insert (name :: d.live) node, cwd := files.cwd } := by
    rw [Files.withTree, Tree.settle_of_hasDirectory stands]
  rw [hmade, change_eq hpath hremove, Files.withTree, Tree.settle_of_hasDirectory sound.stands]

/-- A directory that was made is removed through the same path. -/
theorem Sound.createDir_taken_back (sound : files.Sound)
    (worked : system.edit .createDir text files = (.ok (), next)) :
    system.edit .removeDir text next = (.ok (), files) := by
  refine sound.taken_back worked fun path _ tree hop => ?_
  obtain ⟨d, name, vacancy, rfl⟩ := Tree.createDir_ok hop
  exact ⟨d, name, _, vacancy, rfl, vacancy.removeDir sound.closed sound.stands {}⟩

/-- A file that was made where nothing stood is removed through the same path. -/
theorem Sound.createFile_taken_back (sound : files.Sound) (vacant : files.Vacant text)
    (worked : system.edit .createFile text files = (.ok (), next)) :
    system.edit .removeFile text next = (.ok (), files) := by
  refine sound.taken_back worked fun path hpath tree hop => ?_
  obtain ⟨d, name, vacancy, hslash, rfl⟩ := Tree.vacancy_of_createFile (vacant path hpath) hop
  exact ⟨d, name, _, vacancy, rfl, vacancy.removeFile sound.closed sound.stands rfl hslash⟩

theorem Sound.edit {edit : PathEdit} (sound : files.Sound)
    (worked : system.edit edit text files = (.ok (), next)) : next.Sound := by
  have edited := sound.edited edit text
  rw [worked] at edited
  cases edited with
  | worked _ _ sound => exact sound

end Files

/-! ## Many paths -/

namespace FileSystem

variable {F : Type} {fs : FileSystem F} {edit : PathEdit} {files after : F} {paths : List String}

/-- An edit works at each path in order. -/
inductive Works (fs : FileSystem F) (edit : PathEdit) : F → List String → F → Prop
  | nil (files : F) : Works fs edit files [] files
  | cons {files next after : F} {path : String} {rest : List String}
      (worked : fs.edit edit path files = (.ok (), next)) (others : Works fs edit next rest after) :
      Works fs edit files (path :: rest) after

/-- A condition holds of each path, and of the files as they are when an edit comes to it. -/
def Each (fs : FileSystem F) (edit : PathEdit) (condition : String → F → Prop) :
    List String → F → Prop
  | [], _ => True
  | path :: rest, files =>
    condition path files ∧ fs.Each edit condition rest (fs.edit edit path files).2

theorem each_of_forall {condition : String → F → Prop} (h : ∀ path files, condition path files)
    (paths : List String) (files : F) : fs.Each edit condition paths files := by
  induction paths generalizing files with
  | nil => trivial
  | cons path rest ih => exact ⟨h path _, ih _⟩

namespace Works

theorem concat {path : String} {last : F} (works : fs.Works edit files paths after)
    (worked : fs.edit edit path after = (.ok (), last)) :
    fs.Works edit files (paths ++ [path]) last := by
  induction works with
  | nil files => exact .cons worked (.nil last)
  | cons first _ ih => exact .cons first (ih worked)

theorem editEach (works : fs.Works edit files paths after) :
    fs.editEach edit paths files = (paths.map fun _ => .ok (), after) := by
  induction works with
  | nil files => rfl
  | cons worked _ ih => simp only [FileSystem.editEach, worked, ih, List.map_cons]

theorem of_editEach {answers : List (Except Failure Unit)}
    (heach : fs.editEach edit paths files = (answers, after)) (hall : ∀ a ∈ answers, a = .ok ()) :
    fs.Works edit files paths after := by
  induction paths generalizing files answers with
  | nil =>
    cases heach
    exact .nil _
  | cons path rest ih =>
    cases hfirst : fs.edit edit path files with
    | mk answer next =>
      cases hothers : fs.editEach edit rest next with
      | mk others last =>
        simp only [FileSystem.editEach, hfirst, hothers, Prod.mk.injEq] at heach
        obtain ⟨rfl, rfl⟩ := heach
        obtain ⟨rfl, hrest⟩ := List.forall_mem_cons.mp hall
        exact .cons hfirst (ih hothers hrest)

/-- If each edit can be taken back by another one, then all of them can, the last one first. -/
theorem taken_back {remove : PathEdit} {good : F → Prop} {condition : String → F → Prop}
    (back : ∀ {path files next}, good files → condition path files →
      fs.edit edit path files = (.ok (), next) →
        good next ∧ fs.edit remove path next = (.ok (), files))
    (works : fs.Works edit files paths after) (hgood : good files)
    (each : fs.Each edit condition paths files) : fs.Works remove after paths.reverse files := by
  induction works with
  | nil files => exact .nil files
  | cons worked _ ih =>
    obtain ⟨hfirst, hothers⟩ := each
    obtain ⟨hnext, hback⟩ := back hgood hfirst worked
    rw [worked] at hothers
    rw [List.reverse_cons]
    exact (ih hnext hothers).concat hback

end Works

end FileSystem

/-! ## The commands -/

namespace Tries

variable {W : Type} {paths : List String} {tried : List Tried} {r : Except Failure Unit}

/-- If every attempt could be reported on, then every path was attempted. -/
theorem of_told (tries : Tries paths tried r) (told : ∀ x ∈ tried, x.told = .ok ()) :
    tried.map Tried.path = paths ∧ r = .ok () := by
  induction tries with
  | nil => exact ⟨rfl, rfl⟩
  | told _ _ ih =>
    obtain ⟨hpaths, hr⟩ := ih fun x hx => told x (List.mem_cons_of_mem _ hx)
    exact ⟨by rw [List.map_cons, hpaths], hr⟩
  | lost lost =>
    rw [told _ List.mem_cons_self] at lost
    cases lost

end Tries

namespace Tried

/-- The calls for a path on which the edit works. -/
def doneAt (edit : PathEdit) (path : String) : List Entry :=
  [⟨.edit edit path, .ok .done⟩, ⟨.line (labeledLine edit.done path), .ok .done⟩]

theorem doneAt_removeDir : doneAt .removeDir = fun path =>
    [⟨.edit .removeDir path, .ok .done⟩, ⟨.line ("removed directory: " ++ path), .ok .done⟩] :=
  funext fun _ => rfl

theorem doneAt_removeFile : doneAt .removeFile = fun path =>
    [⟨.edit .removeFile path, .ok .done⟩, ⟨.line ("removed file: " ++ path), .ok .done⟩] :=
  funext fun _ => rfl

theorem answer_of_records {x : Tried} (h : x.records = []) : x.answer = .ok () := by
  unfold records at h
  cases hx : x.answer with
  | ok u => rfl
  | error cause => simp [hx, Except.isOk, Except.toBool] at h

theorem flatMap_entries {edit : PathEdit} {tried : List Tried}
    (worked : ∀ x ∈ tried, x.answer = .ok ()) (told : ∀ x ∈ tried, x.told = .ok ()) :
    tried.flatMap (entries edit) = (tried.map path).flatMap (doneAt edit) := by
  rw [List.flatMap_map]
  refine List.flatMap_congr fun x hx => ?_
  rw [entries, worked x hx, told x hx]
  rfl

end Tried

namespace Interpreter

section

variable {W F : Type} {h : Host W} (works : h.OutputWorks) {edit : PathEdit} {name : String}
  (hname : name ∈ Standard.batchNames edit)

include works hname

/-- A command for many paths records that it got none. -/
theorem amountsTo_no_paths (s : State W) :
    AmountsTo h [name] s [⟨.complain "insufficient arguments" none, .ok .done⟩]
      [Record.ofKind .insufficientArguments] := by
  have ho : Builtin.ofName? name = some (.batch edit) := Builtin.ofName?_eq_some_iff.mpr hname
  obtain ⟨event, synopses, comes⟩ := comes_to_of_does h ho [] s
  obtain ⟨t, rejected⟩ := Action.Does.reject_of_works works.journaled .insufficientArguments
    "insufficient arguments" none ((standard h.journaled).tell event s.journaled)
  exact (comes _ _ t rejected).amountsTo (.fail _ _ _ _ _) rfl

section

variable {fs : FileSystem F} {files : W → F} (holds : h.Holds fs files)

include holds

/-- On an output that works a batch attempts all of its paths. -/
theorem tries_all (path : String) (rest : List String) (s : State W) :
    ∃ tried : List Tried, tried.map Tried.path = path :: rest ∧ (∀ x ∈ tried, x.told = .ok ()) ∧
      fs.editEach edit (path :: rest) (files s.world) =
        (tried.map Tried.answer,
          files ((standard h).dispatch (name :: path :: rest) s).2.world) ∧
      AmountsTo h (name :: path :: rest) s (tried.flatMap (Tried.entries edit))
        (tried.flatMap Tried.records) := by
  obtain ⟨tried, r, tries, hfiles, amounts⟩ := tries_dispatch holds hname path rest s
  have told : ∀ x ∈ tried, x.told = .ok () := by
    intro x hx
    have heard := calls_heard works (name :: path :: rest) s
    rw [amounts.calls] at heard
    exact PathEdit.told_of_heard fun e he => heard e (List.mem_flatMap.mpr ⟨x, hx, he⟩)
  obtain ⟨hpaths, rfl⟩ := tries.of_told told
  rw [hpaths] at hfiles
  rw [Except.map, lossRecords, List.append_nil] at amounts
  exact ⟨tried, hpaths, told, hfiles, amounts⟩

/-- A batch that records nothing has worked at each of its paths. -/
theorem works_of_records {paths : List String} {s : State W}
    (hrecords : ((standard h).dispatch (name :: paths) s).2.errors.records = s.errors.records) :
    paths ≠ [] ∧ fs.Works edit (files s.world) paths
      (files ((standard h).dispatch (name :: paths) s).2.world) := by
  cases paths with
  | nil =>
    rw [(amountsTo_no_paths works hname s).records] at hrecords
    simp at hrecords
  | cons path rest =>
    obtain ⟨tried, -, -, hfiles, amounts⟩ := tries_all works hname holds path rest s
    rw [amounts.records, List.append_right_eq_self, List.flatMap_eq_nil_iff] at hrecords
    refine ⟨List.cons_ne_nil path rest, .of_editEach hfiles ?_⟩
    rw [List.forall_mem_map]
    exact fun x hx => Tried.answer_of_records (hrecords x hx)

/-- A batch that works at each of its paths says so of each of them and records nothing. -/
theorem amountsTo_of_works {paths : List String} (hpaths : paths ≠ []) {s : State W} {after : F}
    (worked : fs.Works edit (files s.world) paths after) :
    AmountsTo h (name :: paths) s (paths.flatMap (Tried.doneAt edit)) [] ∧
      files ((standard h).dispatch (name :: paths) s).2.world = after := by
  obtain ⟨path, rest, rfl⟩ := List.exists_cons_of_ne_nil hpaths
  obtain ⟨tried, hpaths, told, hfiles, amounts⟩ := tries_all works hname holds path rest s
  rw [worked.editEach, Prod.mk.injEq] at hfiles
  obtain ⟨hanswers, hafter⟩ := hfiles
  have answered : ∀ x ∈ tried, x.answer = .ok () := by
    intro x hx
    have hmem : x.answer ∈ tried.map Tried.answer := List.mem_map_of_mem hx
    rw [← hanswers] at hmem
    obtain ⟨-, -, ha⟩ := List.mem_map.mp hmem
    exact ha.symm
  have hrecords : tried.flatMap Tried.records = [] := by
    rw [List.flatMap_eq_nil_iff]
    intro x hx
    rw [Tried.records, answered x hx]
    rfl
  rw [Tried.flatMap_entries answered told, hpaths, hrecords] at amounts
  exact ⟨amounts, hafter.symm⟩

/-- What one batch makes another one takes back in the reverse order, if each single edit can be
taken back. -/
theorem batch_taken_back {remove : PathEdit} {other : String}
    (hother : other ∈ Standard.batchNames remove) {good : F → Prop}
    {condition : String → F → Prop}
    (back : ∀ {path files next}, good files → condition path files →
      fs.edit edit path files = (.ok (), next) →
        good next ∧ fs.edit remove path next = (.ok (), files))
    (paths : List String) (s : State W) (hgood : good (files s.world))
    (each : fs.Each edit condition paths (files s.world))
    (hrecords : ((standard h).dispatch (name :: paths) s).2.errors.records = s.errors.records) :
    let made := ((standard h).dispatch (name :: paths) s).2
    AmountsTo h (other :: paths.reverse) made (paths.reverse.flatMap (Tried.doneAt remove)) [] ∧
      files ((standard h).dispatch (other :: paths.reverse) made).2.world = files s.world := by
  obtain ⟨hpaths, worked⟩ := works_of_records works hname holds hrecords
  have reversed := worked.taken_back back hgood each
  exact amountsTo_of_works works hother holds (by simpa using hpaths) reversed

end

omit hname in
/-- Creation is undone by removal.  If directories were made without a record, then removing them in
the reverse order makes none either, and leaves the files exactly as they were; and so it is with
files, if nothing stood at any path when its turn came, not even a link that leads nowhere. -/
theorem creation_undone {files : W → Files} (holds : h.Holds Files.system files) (s : State W)
    (sound : (files s.world).Sound) (paths : List String) :
    (let made := ((standard h).dispatch ("mkdirs" :: paths) s).2
     made.errors.records = s.errors.records →
      AmountsTo h ("rmdirs" :: paths.reverse) made
        (paths.reverse.flatMap fun path =>
          [⟨.edit .removeDir path, .ok .done⟩, ⟨.line ("removed directory: " ++ path), .ok .done⟩])
        [] ∧
      files ((standard h).dispatch ("rmdirs" :: paths.reverse) made).2.world = files s.world) ∧
    ∀ make ∈ ["mks", "makes"], ∀ remove ∈ ["rms", "removes"],
      let made := ((standard h).dispatch (make :: paths) s).2
      Files.system.Each .createFile Files.Vacant paths (files s.world) →
      made.errors.records = s.errors.records →
      AmountsTo h (remove :: paths.reverse) made
        (paths.reverse.flatMap fun path =>
          [⟨.edit .removeFile path, .ok .done⟩, ⟨.line ("removed file: " ++ path), .ok .done⟩])
        [] ∧
      files ((standard h).dispatch (remove :: paths.reverse) made).2.world = files s.world := by
  constructor
  · have hmake : "mkdirs" ∈ Standard.batchNames .createDir := by decide
    have hremove : "rmdirs" ∈ Standard.batchNames .removeDir := by decide
    have each : Files.system.Each .createDir (fun _ _ => True) paths (files s.world) :=
      FileSystem.each_of_forall (fun _ _ => trivial) paths _
    have back {path : String} {files next : Files} (sound : files.Sound) (_ : True)
        (worked : Files.system.edit .createDir path files = (.ok (), next)) :
        next.Sound ∧ Files.system.edit .removeDir path next = (.ok (), files) :=
      ⟨sound.edit worked, sound.createDir_taken_back worked⟩
    rw [← Tried.doneAt_removeDir]
    exact batch_taken_back works hmake holds hremove back paths s sound each
  · intro make hmake remove hremove made vacant
    have hmake : make ∈ Standard.batchNames .createFile := hmake
    have hremove : remove ∈ Standard.batchNames .removeFile := hremove
    have back {path : String} {files next : Files} (sound : files.Sound)
        (vacant : Files.Vacant path files)
        (worked : Files.system.edit .createFile path files = (.ok (), next)) :
        next.Sound ∧ Files.system.edit .removeFile path next = (.ok (), files) :=
      ⟨sound.edit worked, sound.createFile_taken_back vacant worked⟩
    rw [← Tried.doneAt_removeFile]
    exact batch_taken_back works hmake holds hremove back paths s sound vacant

end

/-- Each path runs through what the one before it made: into it, through a link, and back out. -/
theorem creation_undone_linked :
    let files : Files :=
      { tree := { entries := [(["l"], .link "d"), (["d"], .directory {})] },
        cwd := { live := ["d"] } }
    let s : State Files :=
      { session := { cwd := "/d", home := "/", user := "user" }, errors := {}, world := files }
    let h := Files.system.alone
    let made := ((standard h).dispatch ["mkdirs", "a", "../l/a/b", "a/b/../c/"] s).2
    let filed := ((standard h).dispatch ["mks", "x", "../l/y"] s).2
    h.OutputWorks ∧ h.Holds Files.system id ∧ files.Sound ∧
      made.errors.records = s.errors.records ∧
      made.world.tree.entries.length = 5 ∧
      ((standard h).dispatch ["rmdirs", "a/b/../c/", "../l/a/b", "a"] made).2.world = files ∧
      Files.system.Each .createFile Files.Vacant ["x", "../l/y"] files ∧
      filed.errors.records = s.errors.records ∧
      filed.world.tree.entries.length = 4 ∧
      ((standard h).dispatch ["rms", "../l/y", "x"] filed).2.world = files := by
  intro files s
  have works : Files.system.alone.OutputWorks := Files.system.outputWorks_alone
  have holds : Files.system.alone.Holds Files.system id := Files.system.holds_alone
  have sound : files.Sound := ⟨Tree.closed_of_entries (by decide), ⟨{}, rfl⟩⟩
  have vacant {text : String} {files : Files} (path : Path) (d : Place) (name : String)
      (hpath : Files.readShortPath text = .ok path)
      (hspot : files.tree.spot files.cwd path = .ok (.vacant d name)) :
      Files.Vacant text files := by
    intro other hother spot hs
    rw [hpath] at hother
    cases hother
    rw [hspot] at hs
    exact ⟨d, name, (Except.ok.inj hs).symm⟩
  have each : Files.system.Each .createFile Files.Vacant ["x", "../l/y"] files :=
    ⟨vacant (.ofString "x") { live := ["d"] } "x" (by decide) (by decide +kernel),
      vacant (.ofString "../l/y") { live := ["d"] } "y" (by decide) (by decide +kernel), trivial⟩
  obtain ⟨-, hdirs⟩ :=
    (creation_undone works holds s sound ["a", "../l/a/b", "a/b/../c/"]).1 (by decide +kernel)
  obtain ⟨-, hfiles⟩ := (creation_undone works holds s sound ["x", "../l/y"]).2 "mks" (by decide)
    "rms" (by decide) each (by decide +kernel)
  -- The states are too large to be compared by computing them.
  simp only [id_eq, List.reverse_cons, List.reverse_nil, List.nil_append, List.cons_append]
    at hdirs hfiles
  exact ⟨works, holds, sound, by decide +kernel, by decide +kernel, hdirs, each,
    by decide +kernel, by decide +kernel, hfiles⟩

end Interpreter

end LineShell
