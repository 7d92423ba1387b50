import LineShell.Files.System
import LineShell.Proofs.Walks

/-!
# What an edit makes of a tree

An edit that works makes one change at one location: it puts an empty file or an empty directory
where nothing stood, or it takes away something that was no directory or an empty one.  `Alters`
says which, and where: all but the making of files deal with the entry that the path names, so that
a link is taken away itself.  A file may be made through a link, and a file that is there is left as
it is.  An edit that fails changes nothing.
-/

namespace LineShell

namespace Path

theorem names_of_last {path : Path} {name : String} (hlast : path.last = .name name) :
    path.names = path.names.dropLast ++ [name] ∧ name ≠ "." ∧ name ≠ ".." := by
  unfold last at hlast
  split at hlast
  · cases hlast
  · cases hlast
  · cases hlast
  · rename_i other hdot hdotDot hother
    cases hlast
    obtain ⟨names, hnames⟩ := List.getLast?_eq_some_iff.mp hother
    exact ⟨by rw [hnames, List.dropLast_concat], hdot, hdotDot⟩

theorem last_of_names {path : Path} {name : String} (hlast : path.names.getLast? = some name)
    (hdot : name ≠ ".") (hdotDot : name ≠ "..") : path.last = .name name := by
  unfold last
  rw [hlast]
  split <;> simp_all

end Path

namespace Tree

variable {t t' : Tree} {p : Place} {path : Path} {l : Location}

/-! ## Looking things up -/

theorem find?_erase_of_ne (t : Tree) {l k : Location} (h : k ≠ l) :
    (t.erase l).find? k = t.find? k := by
  cases k with
  | nil => rfl
  | cons name parent =>
    simp only [find?, erase]
    induction t.entries with
    | nil => rfl
    | cons entry rest ih =>
      obtain ⟨site, node⟩ := entry
      rw [List.lookup_cons, ← ih]
      by_cases he : site = l
      · subst he
        have hne : (name :: parent == site) = false := by simpa using h
        rw [List.filter_cons_of_neg (by simp), hne]
      · rw [List.filter_cons_of_pos (by simpa using he), List.lookup_cons]

theorem mem_names_iff {name : String} :
    name ∈ t.names l ↔ (t.find? (name :: l)).isSome = true := by
  rw [names, find?, List.mem_filterMap, List.lookup_isSome_iff]
  constructor
  · rintro ⟨entry, he, hname⟩
    refine ⟨entry, he, ?_⟩
    split at hname
    · split at hname <;> simp_all
    · cases hname
  · rintro ⟨entry, he, hkey⟩
    exact ⟨entry, he, by rw [← eq_of_beq hkey]; simp⟩

/-- A directory without names holds nothing. -/
theorem find?_of_names_eq_nil (hnames : t.names l = []) (name : String) :
    t.find? (name :: l) = none := by
  rw [← Option.not_isSome_iff_eq_none, ← mem_names_iff, hnames]
  exact List.not_mem_nil

/-! ## The entry that a path names -/

/-- A path names the entry under its last name in the directory that the names before lead to. -/
def Named (t : Tree) (p : Place) (path : Path) (l : Location) : Prop :=
  ∃ d name, path.last = .name name ∧ t.directoryAt p path.parent = .ok d ∧ d.exists? = true ∧
    l = name :: d.live

/-- What walking along a path comes to if a last link is not followed. -/
theorem spot_cases {s : Spot} {name : String} (hlast : path.last = .name name)
    (hspot : t.spot p path = .ok s) :
    ∃ d, t.directoryAt p path.parent = .ok d ∧
      ((t.child? d name = none ∧ s = .vacant d name) ∨
        ∃ node, t.child? d name = some node ∧
          ((node.isDirectory = true ∧ s = .directory (d.enter name)) ∨
            (node.isDirectory = false ∧ s = .leaf (name :: d.live) node))) := by
  obtain ⟨hnames, hdot, hdotDot⟩ := path.names_of_last hlast
  have walk := Walk.of_walk hspot
  rw [hnames] at walk
  obtain ⟨d, before, last⟩ := walk.split_last hdot hdotDot
  refine ⟨d, ?_, ?_⟩
  · have hreach : t.reach p path.parent = .ok (.directory d) := before.walk_eq_ok
    rw [directoryAt, hreach]
  · cases last with
    | dot => exact absurd rfl hdot
    | dotDot => exact absurd rfl hdotDot
    | vacant _ free => exact .inl ⟨free, rfl⟩
    | enter _ stands after =>
      cases after
      exact .inr ⟨_, stands, .inl ⟨rfl, rfl⟩⟩
    | leaf _ stands proper => exact .inr ⟨_, stands, .inr ⟨proper, rfl⟩⟩

/-! ## Changes -/

/-- What an edit that works makes of a tree. -/
inductive Alters (t : Tree) (p : Place) (path : Path) : PathEdit → Tree → Prop
  | found {l : Location} {node : Node} (reached : t.reach p path = .ok (.leaf l node)) :
      Alters t p path .createFile t
  | filed {d : Place} {name : String} (reached : t.reach p path = .ok (.vacant d name))
      (free : t.find? (name :: d.live) = none) :
      Alters t p path .createFile (t.insert (name :: d.live) (.file {}))
  | unlinked {l : Location} {node : Node} (named : t.Named p path l)
      (stands : t.find? l = some node) (proper : node.isDirectory = false) :
      Alters t p path .removeFile (t.erase l)
  | founded {l : Location} (named : t.Named p path l) (free : t.find? l = none)
      (empty : ∀ name, t.find? (name :: l) = none) :
      Alters t p path .createDir (t.insert l (.directory {}))
  | emptied {l : Location} {folder : Folder} (named : t.Named p path l)
      (stands : t.find? l = some (.directory folder))
      (empty : ∀ name, t.find? (name :: l) = none) :
      Alters t p path .removeDir (t.erase l)

theorem place_ok {name : String} {node : Node} (hplace : t.place p name node = .ok t') :
    p.exists? = true ∧ t.permits p.live .write = true ∧ t' = t.insert (name :: p.live) node := by
  unfold place at hplace
  split at hplace
  · cases hplace
  · rename_i present
    split at hplace
    · cases hplace
    · rename_i permits
      cases hplace
      exact ⟨by simpa using present, by simpa using permits, rfl⟩

theorem refuseLast_ne_ok {fault : Fault} : t.refuseLast p path fault ≠ .ok t' := by
  unfold refuseLast
  cases t.directoryAt p path.parent <;> exact nofun

/-- In a place that exists a name is free if nothing stands under it. -/
theorem find?_of_child?_eq_none {name : String} (present : p.exists? = true)
    (free : t.child? p name = none) : t.find? (name :: p.live) = none := by
  rwa [child?, if_pos present] at free

theorem present_of_child? {name : String} {node : Node} (stands : t.child? p name = some node) :
    p.exists? = true := by
  rw [(exists_of_child? stands).1]
  rfl

/-- Nothing stands below what is no directory. -/
theorem Closed.empty (closed : t.Closed) (hdirectory : ¬ t.HasDirectory l) (name : String) :
    t.find? (name :: l) = none := by
  rw [← Option.not_isSome_iff_eq_none]
  exact fun found => hdirectory (closed name l found)

/-- Making a file finds one, or puts one where the path leads to; and the path behind the last links
ends in a name. -/
theorem createFile_ok (worked : t.createFile p path = .ok t') :
    (∃ name, (t.pastLinks maxLinks p path).2.last = .name name) ∧
      (t.pastLinks maxLinks p path).2.slash = false ∧
      ((∃ l node, t.reach p path = .ok (.leaf l node) ∧ t' = t) ∨
        ∃ d name, t.reach p path = .ok (.vacant d name) ∧
          t.place d name (.file {}) = .ok t') := by
  unfold createFile at worked
  dsimp only at worked
  split at worked
  · rename_i name hlast hslash
    refine ⟨⟨name, hlast⟩, hslash, ?_⟩
    cases hreach : t.reach p path with
    | error fault =>
      rw [hreach] at worked
      cases worked
    | ok s =>
      rw [hreach] at worked
      cases s with
      | directory d => cases worked
      | leaf l node =>
        simp only [bind, Except.bind] at worked
        split at worked
        · cases worked
          exact .inl ⟨l, node, rfl, rfl⟩
        · cases worked
      | vacant d name => exact .inr ⟨d, name, rfl, worked⟩
  · exact absurd worked refuseLast_ne_ok

theorem createFile_alters (closed : t.Closed) (stands : t.HasDirectory p.live)
    (worked : t.createFile p path = .ok t') : t.Alters p path .createFile t' := by
  obtain ⟨-, -, ⟨l, node, hreach, rfl⟩ | ⟨d, name, hreach, hplace⟩⟩ := createFile_ok worked
  · exact .found hreach
  · obtain ⟨present, -, rfl⟩ := place_ok hplace
    have arrives := (Walk.of_walk hreach).holds closed (stands.start path)
    exact .filed hreach (find?_of_child?_eq_none present arrives.2)

theorem removeFile_alters (worked : t.removeFile p path = .ok t') :
    t.Alters p path .removeFile t' := by
  unfold removeFile at worked
  split at worked
  · rename_i name hlast
    cases hspot : t.spot p path with
    | error fault =>
      rw [hspot] at worked
      cases worked
    | ok s =>
      rw [hspot] at worked
      obtain ⟨d, hd, ⟨-, rfl⟩ | ⟨node, stands, ⟨-, rfl⟩ | ⟨proper, rfl⟩⟩⟩ := spot_cases hlast hspot
      · cases worked
      · simp only [bind, Except.bind] at worked
        split at worked <;> cases worked
      · simp only [bind, Except.bind] at worked
        split at worked
        · cases worked
        · split at worked
          · cases worked
          · cases worked
            exact .unlinked ⟨d, name, hlast, hd, present_of_child? stands, rfl⟩
              (exists_of_child? stands).2 proper
  · exact absurd worked refuseLast_ne_ok

/-- A path ends in a name that is free, in a directory that is there and may be written. -/
structure Vacancy (t : Tree) (p : Place) (path : Path) (d : Place) (name : String) : Prop where
  last : path.last = .name name
  spot : t.spot p path = .ok (.vacant d name)
  present : d.exists? = true
  permits : t.permits d.live .write = true

namespace Vacancy

variable {d : Place} {name : String} (vacancy : t.Vacancy p path d name)

include vacancy

theorem find? : t.find? (name :: d.live) = none := by
  obtain ⟨e, -, ⟨free, hs⟩ | ⟨node, -, ⟨-, hs⟩ | ⟨-, hs⟩⟩⟩ :=
    spot_cases vacancy.last vacancy.spot
  · cases hs
    exact find?_of_child?_eq_none vacancy.present free
  · cases hs
  · cases hs

theorem named : t.Named p path (name :: d.live) := by
  obtain ⟨e, he, ⟨-, hs⟩ | ⟨node, -, ⟨-, hs⟩ | ⟨-, hs⟩⟩⟩ :=
    spot_cases vacancy.last vacancy.spot
  · cases hs
    exact ⟨d, name, vacancy.last, he, vacancy.present, rfl⟩
  · cases hs
  · cases hs

/-- Nothing stands below a free name. -/
theorem empty (closed : t.Closed) (other : String) : t.find? (other :: name :: d.live) = none := by
  refine closed.empty ?_ other
  rintro ⟨folder, found⟩
  rw [vacancy.find?] at found
  cases found

end Vacancy

theorem createDir_ok (worked : t.createDir p path = .ok t') :
    ∃ d name, t.Vacancy p path d name ∧ t' = t.insert (name :: d.live) (.directory {}) := by
  unfold createDir createDirWith at worked
  split at worked
  · rename_i last hlast
    cases hspot : t.spot p path with
    | error fault =>
      rw [hspot] at worked
      cases worked
    | ok s =>
      rw [hspot] at worked
      obtain ⟨d, -, ⟨-, rfl⟩ | ⟨node, -, ⟨-, rfl⟩ | ⟨-, rfl⟩⟩⟩ := spot_cases hlast hspot
      · obtain ⟨present, permits, rfl⟩ := place_ok worked
        exact ⟨d, last, ⟨hlast, hspot, present, permits⟩, rfl⟩
      · cases worked
      · cases worked
  · exact absurd worked refuseLast_ne_ok

theorem createDir_alters (closed : t.Closed) (worked : t.createDir p path = .ok t') :
    t.Alters p path .createDir t' := by
  obtain ⟨d, name, vacancy, rfl⟩ := createDir_ok worked
  exact .founded vacancy.named vacancy.find? (vacancy.empty closed)

theorem removeDir_alters (worked : t.removeDir p path = .ok t') :
    t.Alters p path .removeDir t' := by
  unfold removeDir at worked
  split at worked
  · rename_i name hlast
    cases hspot : t.spot p path with
    | error fault =>
      rw [hspot] at worked
      cases worked
    | ok s =>
      rw [hspot] at worked
      obtain ⟨d, hd, ⟨-, rfl⟩ | ⟨node, stands, ⟨directory, rfl⟩ | ⟨-, rfl⟩⟩⟩ :=
        spot_cases hlast hspot
      · cases worked
      · simp only [bind, Except.bind] at worked
        split at worked
        · cases worked
        · split at worked
          · rename_i empty
            cases worked
            have hnames : t.names (d.enter name).live = [] := by simpa using empty
            have named : t.Named p path (d.enter name).live :=
              ⟨d, name, hlast, hd, present_of_child? stands, rfl⟩
            cases node with
            | directory folder =>
              exact .emptied named (exists_of_child? stands).2 (find?_of_names_eq_nil hnames)
            | _ => cases directory
          · cases worked
      · cases worked
  · exact absurd worked refuseLast_ne_ok
  · exact absurd worked refuseLast_ne_ok
  · exact absurd worked refuseLast_ne_ok

/-! ## What stays -/

/-- What is put at a free location takes nothing away. -/
theorem extends_insert (free : t.find? l = none) (node : Node) : t.Extends (t.insert l node) := by
  intro k other found
  have hne : k ≠ l := by
    rintro rfl
    rw [free] at found
    cases found
  rw [find?_insert_of_ne t node hne, found]

theorem Closed.insert (closed : t.Closed) {name : String} {node : Node}
    (stands : t.HasDirectory l) (free : t.find? (name :: l) = none) :
    (t.insert (name :: l) node).Closed := by
  have extended := extends_insert free node
  intro other parent found
  by_cases hnew : other :: parent = name :: l
  · obtain ⟨-, rfl⟩ := List.cons.inj hnew
    exact extended.hasDirectory stands
  · rw [find?_insert_of_ne t node hnew] at found
    exact extended.hasDirectory (closed other parent found)

theorem Closed.erase (closed : t.Closed) (empty : ∀ name, t.find? (name :: l) = none) :
    (t.erase l).Closed := by
  intro name parent found
  by_cases hgone : name :: parent = l
  · rw [← hgone, find?_erase_self] at found
    cases found
  · rw [find?_erase_of_ne t hgone] at found
    obtain ⟨folder, stands⟩ := closed name parent found
    have hne : parent ≠ l := by
      rintro rfl
      rw [empty name] at found
      cases found
    exact ⟨folder, by rw [find?_erase_of_ne t hne, stands]⟩

theorem hasDirectory_directoryAt {d : Place} (closed : t.Closed) (stands : t.HasDirectory p.live)
    (hd : t.directoryAt p path = .ok d) : t.HasDirectory d.live := by
  unfold directoryAt at hd
  split at hd
  · rename_i hreach
    cases hd
    exact (Walk.of_walk hreach).holds closed (stands.start path)
  · cases hd
  · cases hd
  · cases hd

theorem Named.parent (closed : t.Closed) (stands : t.HasDirectory p.live)
    (named : t.Named p path l) : ∃ name parent, l = name :: parent ∧ t.HasDirectory parent := by
  obtain ⟨d, name, -, hd, -, rfl⟩ := named
  exact ⟨name, d.live, rfl, hasDirectory_directoryAt closed stands hd⟩

/-- Everything goes on standing in a directory. -/
theorem Alters.closed {edit : PathEdit} (closed : t.Closed) (stands : t.HasDirectory p.live)
    (alters : t.Alters p path edit t') : t'.Closed := by
  cases alters with
  | found => exact closed
  | filed reached free =>
    exact closed.insert ((Walk.of_walk reached).holds closed (stands.start path)).1 free
  | unlinked _ found proper =>
    refine closed.erase (closed.empty ?_)
    rintro ⟨folder, directory⟩
    rw [directory] at found
    cases found
    cases proper
  | founded named free =>
    obtain ⟨name, parent, rfl, around⟩ := named.parent closed stands
    exact closed.insert around free
  | emptied _ _ empty => exact closed.erase empty

/-- The one node that an edit may take away is the one that its path names. -/
theorem Alters.keeps {edit : PathEdit} {node : Node} (alters : t.Alters p path edit t')
    (found : t.find? l = some node) :
    t'.find? l = some node ∨
      t.Named p path l ∧ t'.find? l = none ∧
        ((edit = .removeFile ∧ node.isDirectory = false) ∨
          (edit = .removeDir ∧ node.isDirectory = true)) := by
  have erased {k : Location} (hne : l ≠ k) : (t.erase k).find? l = some node := by
    rw [find?_erase_of_ne t hne, found]
  cases alters with
  | found => exact .inl found
  | filed _ free => exact .inl (extends_insert free _ l node found)
  | founded _ free => exact .inl (extends_insert free _ l node found)
  | @unlinked k other named stands proper =>
    by_cases hl : l = k
    · subst hl
      obtain rfl : node = other := Option.some.inj (found.symm.trans stands)
      obtain ⟨d, name, -, -, -, rfl⟩ := id named
      exact .inr ⟨named, find?_erase_self t name d.live, .inl ⟨rfl, proper⟩⟩
    · exact .inl (erased hl)
  | @emptied k folder named stands empty =>
    by_cases hl : l = k
    · subst hl
      obtain rfl : node = .directory folder := Option.some.inj (found.symm.trans stands)
      obtain ⟨d, name, -, -, -, rfl⟩ := id named
      exact .inr ⟨named, find?_erase_self t name d.live, .inr ⟨rfl, rfl⟩⟩
    · exact .inl (erased hl)

/-! ## A file that is there -/

theorem last_of_reach_leaf {node : Node} (reached : t.reach p path = .ok (.leaf l node)) :
    (∃ name, path.last = .name name) ∧ path.slash = false := by
  obtain ⟨name, hlast, hdot, hdotDot⟩ := (Walk.of_walk reached).last_of_leaf
  unfold Path.steps at hlast
  cases hslash : path.slash with
  | true =>
    rw [hslash, if_pos rfl, List.getLast?_concat] at hlast
    exact absurd (Option.some.inj hlast).symm hdot
  | false =>
    rw [hslash, if_neg (by simp)] at hlast
    exact ⟨⟨name, Path.last_of_names hlast hdot hdotDot⟩, rfl⟩

/-- Past the links that lead to something else than a directory there is a path with a proper
name. -/
theorem pastLinks_of_reach_leaf {node : Node} (links : Nat)
    (reached : t.reach p path = .ok (.leaf l node)) :
    (∃ name, (t.pastLinks links p path).2.last = .name name) ∧
      (t.pastLinks links p path).2.slash = false := by
  induction links generalizing p path with
  | zero => exact last_of_reach_leaf reached
  | succ links ih =>
    have proper := last_of_reach_leaf reached
    unfold pastLinks
    split
    · rename_i name location target hlast hslash hspot
      refine ih ?_
      -- What is left of the budget is enough, so a full one is.
      have walk := Walk.of_walk hspot
      have other := Walk.of_walk reached
      rw [Path.steps, hslash, if_neg (by simp)] at other
      obtain ⟨fewer, hle, after⟩ := walk.past_link other
      exact (after.mono hle).walk_eq_ok
    · exact proper

/-- Making a file that is there changes nothing, and works if the file may be written. -/
theorem createFile_of_reach_leaf {node : Node} (reached : t.reach p path = .ok (.leaf l node)) :
    t.createFile p path = if node.grants .write then .ok t else .error .noAccess := by
  obtain ⟨⟨name, hlast⟩, hslash⟩ := pastLinks_of_reach_leaf maxLinks reached
  unfold createFile
  simp only [hlast, hslash, reached]
  rfl

end Tree

/-! ## Files -/

namespace Files

/-- Files as a host may have them: everything stands in a directory, and one works in one. -/
structure Sound (files : Files) : Prop where
  closed : files.tree.Closed
  stands : files.tree.HasDirectory files.cwd.live

@[simp] theorem failing_ok {α : Type} (a : α) : failing (.ok a) = .ok a := rfl

theorem hasDirectory_settleFrom (t : Tree) (l : Location) (gone : List String) :
    t.HasDirectory (t.settleFrom l gone).live := by
  induction l generalizing gone with
  | nil => exact ⟨{}, rfl⟩
  | cons name parent ih =>
    unfold Tree.settleFrom
    split
    · exact Tree.hasDirectory_of_any ‹_›
    · exact ih _

theorem change_ok {op : Tree → Place → Path → Except Fault Tree} {text : String}
    {files files' : Files} (h : change op text files = (.ok (), files')) :
    ∃ path, readShortPath text = .ok path ∧ ∃ tree, op files.tree files.cwd path = .ok tree ∧
      files' = files.withTree tree := by
  unfold change at h
  cases hpath : readShortPath text with
  | error cause =>
    rw [hpath] at h
    cases h
  | ok path =>
    rw [hpath] at h
    refine ⟨path, rfl, ?_⟩
    cases hop : op files.tree files.cwd path with
    | error fault =>
      simp only [bind, Except.bind, hop] at h
      cases h
    | ok tree =>
      simp only [bind, Except.bind, hop] at h
      cases h
      exact ⟨tree, rfl, rfl⟩

/-- What an edit of a path comes to. -/
inductive Edited (files : Files) (edit : PathEdit) (text : String) :
    Except Failure Unit × Files → Prop
  | worked {path : Path} {after : Files} (hpath : readShortPath text = .ok path)
      (alters : files.tree.Alters files.cwd path edit after.tree) (sound : after.Sound) :
      Edited files edit text (.ok (), after)
  | failed (cause : Failure) : Edited files edit text (.error cause, files)

theorem Sound.withTree {files : Files} {path : Path} {edit : PathEdit} {tree : Tree}
    (sound : files.Sound) (alters : files.tree.Alters files.cwd path edit tree) :
    (files.withTree tree).Sound where
  closed := alters.closed sound.closed sound.stands
  stands := hasDirectory_settleFrom tree files.cwd.live files.cwd.gone

/-- An edit of a path makes the change that it is for, or it fails and changes nothing. -/
theorem Sound.edited {files : Files} (sound : files.Sound) (edit : PathEdit) (text : String) :
    files.Edited edit text (system.edit edit text files) := by
  have attempted {op : Tree → Place → Path → Except Fault Tree}
      (alters : ∀ {path tree}, op files.tree files.cwd path = .ok tree →
        files.tree.Alters files.cwd path edit tree) :
      files.Edited edit text (change op text files) := by
    cases h : change op text files with
    | mk answer after =>
      cases answer with
      | ok _ =>
        obtain ⟨path, hpath, tree, hop, rfl⟩ := change_ok h
        exact .worked hpath (alters hop) (sound.withTree (alters hop))
      | error cause =>
        obtain rfl := change_error h
        exact .failed cause
  cases edit with
  | createFile => exact attempted (Tree.createFile_alters sound.closed sound.stands)
  | removeFile => exact attempted Tree.removeFile_alters
  | createDir => exact attempted (Tree.createDir_alters sound.closed)
  | removeDir => exact attempted Tree.removeDir_alters

theorem directoryAt_of_destination {files : Files} {text : String} {place : Place}
    (hd : files.destination text = .ok place) :
    ∃ path, files.tree.directoryAt files.cwd path = .ok place := by
  unfold destination at hd
  cases hpath : readPath text with
  | error cause =>
    rw [hpath] at hd
    cases hd
  | ok path =>
    refine ⟨path, ?_⟩
    simp only [hpath, bind, Except.bind] at hd
    split at hd
    · cases hd
    · cases hplace : files.tree.directoryAt files.cwd path with
      | error fault =>
        rw [hplace] at hd
        cases hd
      | ok other =>
        simp only [hplace, failing_ok] at hd
        split at hd
        · cases hd
        · split at hd
          · cases hd
          · cases hd
            rfl

/-- A change of directory leads to a directory and leaves the tree alone. -/
theorem Sound.entered {files : Files} (sound : files.Sound) (text : String) :
    (enter text files).2.Sound ∧ (enter text files).2.tree = files.tree := by
  unfold enter
  cases hd : files.destination text with
  | error cause => exact ⟨sound, rfl⟩
  | ok place =>
    obtain ⟨path, hplace⟩ := directoryAt_of_destination hd
    exact ⟨⟨sound.closed, Tree.hasDirectory_directoryAt sound.closed sound.stands hplace⟩, rfl⟩

/-- Making a file that is there leaves the tree as it is, and works if the file may be written. -/
theorem createFile_of_file {files : Files} {text : String} {path : Path} {l : Location}
    {node : Node} (hpath : readShortPath text = .ok path)
    (reached : files.tree.reach files.cwd path = .ok (.leaf l node)) :
    let made := system.edit .createFile text files
    made.2.tree = files.tree ∧ (made.1 = .ok () ↔ node.grants .write = true) := by
  show (change Tree.createFile text files).2.tree = _ ∧
    ((change Tree.createFile text files).1 = _ ↔ _)
  unfold change
  simp only [hpath, bind, Except.bind, Tree.createFile_of_reach_leaf reached]
  cases hw : node.grants .write with
  | true => exact ⟨rfl, iff_of_true rfl rfl⟩
  | false => exact ⟨rfl, iff_of_false nofun nofun⟩

end Files
end LineShell
