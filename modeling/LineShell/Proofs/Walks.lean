import LineShell.Files.Edit

/-!
# Where a walk arrives

A walk is a recursion on names inside a recursion on a budget of links, and it stops at the first
fault.  `Tree.Walk` lists the steps of a walk that arrives, and `walk_eq_ok_iff` says that the two
are the same.  What is proved of walks is then an induction over steps: a walk arrives at what
stands there or at a name that is free, and the last name of a path is looked up in the directory
that the names before it lead to.  So an edit that does not follow a last link deals with the entry
that was named, whatever that links to.
-/

namespace LineShell
namespace Tree

variable {t : Tree} {follow : Bool} {n : Nat} {p : Place} {names : List String} {s : Spot}

/-! ## Steps -/

/-- Whether names may be looked up in a place. -/
def Passes (t : Tree) (p : Place) : Prop := (p.exists? && !t.permits p.live .pass) = false

/-- Whether a name that is not special can be looked up in a place. -/
structure Looks (t : Tree) (p : Place) (name : String) : Prop where
  passes : t.Passes p
  ne_dot : name ≠ "."
  ne_dotDot : name ≠ ".."
  short : ¬ Path.maxName < name.utf8ByteSize

/-- A walk along names that arrives within a budget of links. -/
inductive Walk (t : Tree) (follow : Bool) : Nat → Place → List String → Spot → Prop
  | here (n : Nat) (p : Place) : Walk t follow n p [] (.directory p)
  | dot {n : Nat} {p : Place} {rest : List String} {s : Spot} (passes : t.Passes p)
      (after : Walk t follow n p rest s) : Walk t follow n p ("." :: rest) s
  | dotDot {n : Nat} {p : Place} {rest : List String} {s : Spot} (passes : t.Passes p)
      (after : Walk t follow n p.parent rest s) : Walk t follow n p (".." :: rest) s
  | vacant {n : Nat} {p : Place} {name : String} (looks : t.Looks p name)
      (free : t.child? p name = none) : Walk t follow n p [name] (.vacant p name)
  | enter {n : Nat} {p : Place} {name : String} {rest : List String} {s : Spot} {folder : Folder}
      (looks : t.Looks p name) (stands : t.child? p name = some (.directory folder))
      (after : Walk t follow n (p.enter name) rest s) : Walk t follow n p (name :: rest) s
  | leaf {n : Nat} {p : Place} {name : String} {node : Node} (looks : t.Looks p name)
      (stands : t.child? p name = some node) (proper : node.isDirectory = false)
      (last : ∀ target, node = .link target → follow = false) :
      Walk t follow n p [name] (.leaf (name :: p.live) node)
  | link {n : Nat} {p : Place} {name target : String} {rest : List String} {s : Spot}
      (looks : t.Looks p name) (stands : t.child? p name = some (.link target))
      (on : rest = [] → follow = true)
      (after : Walk t follow n (start p (Path.ofString target))
        ((Path.ofString target).steps ++ rest) s) :
      Walk t follow (n + 1) p (name :: rest) s

/-- What a walk does about a link. -/
def linkStep (t : Tree) (follow : Bool) : Nat → Place → String → List String → Except Fault Spot
  | 0, _, _, _ => .error .tooManyLinks
  | links + 1, p, target, rest =>
    t.walk follow links (start p (Path.ofString target)) ((Path.ofString target).steps ++ rest)

theorem walk_eq (t : Tree) (follow : Bool) (n : Nat) :
    t.walk follow n = t.walkNames follow (t.linkStep follow n) := by
  cases n with
  | zero => rfl
  | succ links => rfl

/-- A walk looks at nothing of a tree but what stands where. -/
theorem walk_congr {t' : Tree} (same : t.find? = t'.find?) : t.walk = t'.walk := by
  have hpermits : t.permits = t'.permits := by
    funext l right
    rw [permits, permits, same]
  have hchild : t.child? = t'.child? := by
    funext p name
    rw [child?, child?, same]
  have hnames (follow : Bool) (onLink : Place → String → List String → Except Fault Spot)
      (p : Place) (names : List String) :
      t.walkNames follow onLink p names = t'.walkNames follow onLink p names := by
    induction names generalizing p with
    | nil => rfl
    | cons name rest ih => simp only [walkNames, hpermits, hchild, ih]
  funext follow n
  induction n with
  | zero => exact funext fun p => funext fun names => hnames follow _ p names
  | succ links ih =>
    rw [walk_eq, walk_eq]
    have hlink : t.linkStep follow (links + 1) = t'.linkStep follow (links + 1) := by
      funext p target rest
      rw [linkStep, linkStep, ih]
    rw [hlink]
    exact funext fun p => funext fun names => hnames follow _ p names

theorem Walk.of_walkNames
    (hlink : ∀ p target rest, t.linkStep follow n p target rest = .ok s →
      ∃ links, n = links + 1 ∧ Walk t follow links (start p (Path.ofString target))
        ((Path.ofString target).steps ++ rest) s)
    (hwalk : t.walkNames follow (t.linkStep follow n) p names = .ok s) :
    Walk t follow n p names s := by
  induction names generalizing p with
  | nil =>
    cases hwalk
    exact .here n p
  | cons name rest ih =>
    rw [walkNames] at hwalk
    split at hwalk
    · cases hwalk
    rename_i passes
    have passes : t.Passes p := by simpa [Passes] using passes
    split at hwalk
    · rename_i hdot
      subst hdot
      exact .dot passes (ih hwalk)
    split at hwalk
    · rename_i hdotDot
      subst hdotDot
      exact .dotDot passes (ih hwalk)
    split at hwalk
    · cases hwalk
    rename_i hdot hdotDot short
    have looks : t.Looks p name := ⟨passes, hdot, hdotDot, short⟩
    cases hchild : t.child? p name with
    | none =>
      rw [hchild] at hwalk
      cases rest with
      | nil =>
        cases hwalk
        exact .vacant looks hchild
      | cons next rest => cases hwalk
    | some node =>
      rw [hchild] at hwalk
      cases node with
      | directory folder => exact .enter looks hchild (ih hwalk)
      | link target =>
        simp only at hwalk
        split at hwalk
        · rename_i hlast
          obtain ⟨hrest, hfollow⟩ : rest = [] ∧ follow = false := by simpa using hlast
          subst hrest
          cases hwalk
          exact .leaf looks hchild rfl fun _ _ => hfollow
        · rename_i hlast
          obtain ⟨links, rfl, after⟩ := hlink p target rest hwalk
          exact .link looks hchild (fun hrest => by simpa [hrest] using hlast) after
      | _ =>
        cases rest with
        | nil =>
          cases hwalk
          exact .leaf looks hchild rfl nofun
        | cons next rest => cases hwalk

theorem Walk.of_walk (hwalk : t.walk follow n p names = .ok s) : Walk t follow n p names s := by
  induction n generalizing p names with
  | zero =>
    rw [walk_eq] at hwalk
    refine .of_walkNames (fun p target rest hlink => ?_) hwalk
    cases hlink
  | succ links ih =>
    rw [walk_eq] at hwalk
    exact .of_walkNames (fun p target rest hlink => ⟨links, rfl, ih hlink⟩) hwalk

theorem Walk.walk_eq_ok (walk : Walk t follow n p names s) : t.walk follow n p names = .ok s := by
  induction walk with
  | here n p => rw [walk_eq, walkNames]
  | dot passes after ih =>
    rw [walk_eq] at ih ⊢
    rw [walkNames, passes]
    simpa using ih
  | dotDot passes after ih =>
    rw [walk_eq] at ih ⊢
    rw [walkNames, passes]
    simpa using ih
  | vacant looks free =>
    rw [walk_eq, walkNames, looks.passes, free]
    simp [looks.ne_dot, looks.ne_dotDot, looks.short]
  | enter looks stands after ih =>
    rw [walk_eq] at ih ⊢
    rw [walkNames, looks.passes, stands]
    simpa [looks.ne_dot, looks.ne_dotDot, looks.short] using ih
  | @leaf n p name node looks stands proper last =>
    rw [walk_eq, walkNames, looks.passes, stands]
    cases node with
    | directory folder => cases proper
    | link target => simp [looks.ne_dot, looks.ne_dotDot, looks.short, last target rfl]
    | _ => simp [looks.ne_dot, looks.ne_dotDot, looks.short]
  | @link n p name target rest s looks stands on after ih =>
    have hlast : ¬ (rest.isEmpty && !follow) = true := by
      cases rest with
      | nil => simp [on rfl]
      | cons next rest => simp
    rw [walk_eq, walkNames, looks.passes, stands]
    simp only [looks.ne_dot, looks.ne_dotDot, looks.short, hlast, if_false, Bool.false_eq_true]
    exact ih

/-- The steps of a walk that arrives are the walk. -/
theorem walk_eq_ok_iff : t.walk follow n p names = .ok s ↔ Walk t follow n p names s :=
  ⟨.of_walk, Walk.walk_eq_ok⟩

theorem exists_of_child? {name : String} {node : Node} (stands : t.child? p name = some node) :
    p = { live := p.live } ∧ t.find? (name :: p.live) = some node := by
  cases p with
  | mk live gone =>
    cases gone with
    | nil => exact ⟨rfl, stands⟩
    | cons => cases stands

namespace Walk

/-- A larger budget does no harm. -/
theorem mono {m : Nat} (walk : Walk t follow n p names s) (hle : n ≤ m) :
    Walk t follow m p names s := by
  induction walk generalizing m with
  | here n p => exact .here m p
  | dot passes _ ih => exact .dot passes (ih hle)
  | dotDot passes _ ih => exact .dotDot passes (ih hle)
  | vacant looks free => exact .vacant looks free
  | enter looks stands _ ih => exact .enter looks stands (ih hle)
  | leaf looks stands proper last => exact .leaf looks stands proper last
  | link looks stands on _ ih =>
    cases m with
    | zero => cases hle
    | succ m => exact .link looks stands on (ih (Nat.le_of_succ_le_succ hle))

/-! ## The last name -/

/-- A walk that ends at something else than a directory has a last name that is not special. -/
theorem last_of_leaf {l : Location} {node : Node} (walk : Walk t follow n p names (.leaf l node)) :
    ∃ name, names.getLast? = some name ∧ name ≠ "." ∧ name ≠ ".." := by
  generalize hs : Spot.leaf l node = s at walk
  have longer {name : String} {rest : List String}
      (h : ∃ last, rest.getLast? = some last ∧ last ≠ "." ∧ last ≠ "..") :
      ∃ last, (name :: rest).getLast? = some last ∧ last ≠ "." ∧ last ≠ ".." := by
    obtain ⟨last, hlast, proper⟩ := h
    exact ⟨last, by rw [List.getLast?_cons, hlast]; rfl, proper⟩
  induction walk with
  | here => cases hs
  | dot _ _ ih => exact longer (ih hs)
  | dotDot _ _ ih => exact longer (ih hs)
  | vacant => cases hs
  | enter _ _ _ ih => exact longer (ih hs)
  | leaf looks => exact ⟨_, rfl, looks.ne_dot, looks.ne_dotDot⟩
  | @link n p name target rest s looks stands on after ih =>
    cases rest with
    | nil => exact ⟨name, rfl, looks.ne_dot, looks.ne_dotDot⟩
    | cons next rest =>
      refine longer ?_
      obtain ⟨last, hlast, proper⟩ := ih hs
      rw [List.getLast?_append] at hlast
      simp only [List.getLast?_cons, Option.some_or] at hlast ⊢
      exact ⟨last, hlast, proper⟩

/-- The last name is looked up in the directory that the names before it lead to, through all their
links. -/
theorem split_last {name : String} (hdot : name ≠ ".") (hdotDot : name ≠ "..")
    (walk : Walk t false n p (names ++ [name]) s) :
    ∃ d, Walk t true n p names (.directory d) ∧ Walk t false 0 d [name] s := by
  generalize hall : names ++ [name] = all at walk
  induction walk generalizing names with
  | here n p => simp at hall
  | @dot n p rest s passes after ih =>
    cases names with
    | nil => exact absurd (List.cons.inj hall).1 hdot
    | cons first names =>
      obtain ⟨rfl, hrest⟩ := List.cons.inj hall
      obtain ⟨d, before, last⟩ := ih hrest
      exact ⟨d, .dot passes before, last⟩
  | @dotDot n p rest s passes after ih =>
    cases names with
    | nil => exact absurd (List.cons.inj hall).1 hdotDot
    | cons first names =>
      obtain ⟨rfl, hrest⟩ := List.cons.inj hall
      obtain ⟨d, before, last⟩ := ih hrest
      exact ⟨d, .dotDot passes before, last⟩
  | @vacant n p other looks free =>
    obtain ⟨rfl, hname⟩ : names = [] ∧ [name] = [other] := by
      cases names <;> simp_all
    obtain ⟨rfl, -⟩ := List.cons.inj hname
    exact ⟨p, .here n p, .vacant looks free⟩
  | @enter n p first rest s folder looks stands after ih =>
    cases names with
    | nil =>
      obtain ⟨rfl, rfl⟩ := List.cons.inj hall
      exact ⟨p, .here n p, .enter looks stands (by cases after; exact .here 0 _)⟩
    | cons second names =>
      obtain ⟨rfl, hrest⟩ := List.cons.inj hall
      obtain ⟨d, before, last⟩ := ih hrest
      exact ⟨d, .enter looks stands before, last⟩
  | @leaf n p other node looks stands proper last =>
    obtain ⟨rfl, hname⟩ : names = [] ∧ [name] = [other] := by
      cases names <;> simp_all
    obtain ⟨rfl, -⟩ := List.cons.inj hname
    exact ⟨p, .here n p, .leaf looks stands proper last⟩
  | @link n p first target rest s looks stands on after ih =>
    cases names with
    | nil =>
      obtain ⟨rfl, rfl⟩ := List.cons.inj hall
      cases on rfl
    | cons second names =>
      obtain ⟨rfl, hrest⟩ := List.cons.inj hall
      have hsteps : ((Path.ofString target).steps ++ names) ++ [name] =
          (Path.ofString target).steps ++ rest := by
        rw [← hrest, List.append_assoc]
        rfl
      obtain ⟨d, before, last⟩ := ih hsteps
      exact ⟨d, .link looks stands (fun _ => rfl) before, last⟩

/-- A last name may be looked up after a walk to a directory. -/
theorem concat {name : String} {d : Place} (walk : Walk t true n p names (.directory d))
    (last : Walk t false 0 d [name] s) : Walk t false n p (names ++ [name]) s := by
  generalize harrived : Spot.directory d = arrived at walk
  induction walk with
  | here n p =>
    cases harrived
    exact last.mono (Nat.zero_le n)
  | dot passes _ ih => exact .dot passes (ih harrived)
  | dotDot passes _ ih => exact .dotDot passes (ih harrived)
  | vacant => cases harrived
  | enter looks stands _ ih => exact .enter looks stands (ih harrived)
  | leaf => cases harrived
  | link looks stands _ _ ih =>
    have after := ih harrived
    rw [List.append_assoc] at after
    exact .link looks stands (by simp) after

/-- A walk that follows a last link arrives where one that does not arrives, or the latter arrives
at a link. -/
theorem halt (walk : Walk t true n p names s) :
    Walk t false n p names s ∨ ∃ l target, Walk t false n p names (.leaf l (.link target)) := by
  induction walk with
  | here n p => exact .inl (.here n p)
  | dot passes _ ih =>
    exact ih.imp (.dot passes) fun ⟨l, target, walk⟩ => ⟨l, target, .dot passes walk⟩
  | dotDot passes _ ih =>
    exact ih.imp (.dotDot passes) fun ⟨l, target, walk⟩ =>
      ⟨l, target, .dotDot passes walk⟩
  | vacant looks free => exact .inl (.vacant looks free)
  | enter looks stands _ ih =>
    exact ih.imp (.enter looks stands) fun ⟨l, target, walk⟩ =>
      ⟨l, target, .enter looks stands walk⟩
  | leaf looks stands proper _ => exact .inl (.leaf looks stands proper fun _ _ => rfl)
  | @link n p name target rest s looks stands on _ ih =>
    cases rest with
    | nil => exact .inr ⟨_, target, .leaf looks stands rfl fun _ _ => rfl⟩
    | cons next rest =>
      have longer : next :: rest ≠ [] := List.cons_ne_nil next rest
      exact ih.imp (.link looks stands fun hnil => absurd hnil longer)
        fun ⟨l, other, walk⟩ => ⟨l, other, .link looks stands (fun hnil => absurd hnil longer) walk⟩

section

variable {name : String} {rest : List String}

theorem of_dot (hname : name = ".") (walk : Walk t follow n p (name :: rest) s) :
    Walk t follow n p rest s := by
  cases walk with
  | dot _ after => exact after
  | dotDot => exact absurd hname (by decide)
  | vacant looks => exact absurd hname looks.ne_dot
  | enter looks => exact absurd hname looks.ne_dot
  | leaf looks => exact absurd hname looks.ne_dot
  | link looks => exact absurd hname looks.ne_dot

theorem of_dotDot (hname : name = "..") (walk : Walk t follow n p (name :: rest) s) :
    Walk t follow n p.parent rest s := by
  cases walk with
  | dot => exact absurd hname (by decide)
  | dotDot _ after => exact after
  | vacant looks => exact absurd hname looks.ne_dotDot
  | enter looks => exact absurd hname looks.ne_dotDot
  | leaf looks => exact absurd hname looks.ne_dotDot
  | link looks => exact absurd hname looks.ne_dotDot

theorem of_directory {folder : Folder} (looks : t.Looks p name)
    (stands : t.child? p name = some (.directory folder))
    (walk : Walk t follow n p (name :: rest) s) : Walk t follow n (p.enter name) rest s := by
  cases walk with
  | dot => exact absurd rfl looks.ne_dot
  | dotDot => exact absurd rfl looks.ne_dotDot
  | vacant _ free =>
    rw [stands] at free
    cases free
  | enter _ _ after => exact after
  | leaf _ stands' proper =>
    rw [stands] at stands'
    cases stands'
    cases proper
  | link _ stands' =>
    rw [stands] at stands'
    cases stands'

theorem of_link {target : String} (looks : t.Looks p name)
    (stands : t.child? p name = some (.link target))
    (walk : Walk t true n p (name :: rest) s) :
    ∃ links, n = links + 1 ∧ Walk t true links (start p (Path.ofString target))
      ((Path.ofString target).steps ++ rest) s := by
  cases walk with
  | dot => exact absurd rfl looks.ne_dot
  | dotDot => exact absurd rfl looks.ne_dotDot
  | vacant _ free =>
    rw [stands] at free
    cases free
  | enter _ stands' =>
    rw [stands] at stands'
    cases stands'
  | leaf _ stands' _ last =>
    rw [stands] at stands'
    cases stands'
    cases last target rfl
  | link _ stands' _ after =>
    rw [stands] at stands'
    cases stands'
    exact ⟨_, rfl, after⟩

end

/-- What a last link comes to if it is followed after all. -/
theorem past_link {l : Location} {target : String} {m : Nat}
    (walk : Walk t false n p names (.leaf l (.link target))) (other : Walk t true m p names s) :
    ∃ links ≤ m, Walk t true links (start { live := l.tail } (Path.ofString target))
      (Path.ofString target).steps s := by
  generalize hleaf : Spot.leaf l (.link target) = arrived at walk
  induction walk generalizing m with
  | here => cases hleaf
  | dot _ _ ih => exact ih (other.of_dot rfl) hleaf
  | dotDot _ _ ih => exact ih (other.of_dotDot rfl) hleaf
  | vacant => cases hleaf
  | enter looks stands _ ih => exact ih (other.of_directory looks stands) hleaf
  | @leaf n p name node looks stands =>
    cases hleaf
    obtain ⟨links, rfl, after⟩ := other.of_link looks stands
    refine ⟨links, Nat.le_succ links, ?_⟩
    rw [List.append_nil, (exists_of_child? stands).1] at after
    exact after
  | link looks stands _ _ ih =>
    obtain ⟨links, rfl, after⟩ := other.of_link looks stands
    obtain ⟨fewer, hle, found⟩ := ih after hleaf
    exact ⟨fewer, Nat.le_succ_of_le hle, found⟩

end Walk

/-! ## What stands where a walk arrives -/

/-- Whether a directory stands at a location. -/
def HasDirectory (t : Tree) (l : Location) : Prop :=
  ∃ folder, t.find? l = some (.directory folder)

/-- Whether everything stands in a directory. -/
def Closed (t : Tree) : Prop :=
  ∀ name parent, (t.find? (name :: parent)).isSome → t.HasDirectory parent

theorem hasDirectory_of_any {l : Location} (h : (t.find? l).any Node.isDirectory = true) :
    t.HasDirectory l := by
  cases found : t.find? l with
  | none => simp [found] at h
  | some node =>
    cases node with
    | directory folder => exact ⟨folder, found⟩
    | _ => simp [found, Node.isDirectory] at h

theorem closed_of_entries
    (h : ∀ entry ∈ t.entries, (t.find? entry.1.tail).any Node.isDirectory = true) : t.Closed := by
  intro name parent found
  obtain ⟨node, hlookup⟩ := Option.isSome_iff_exists.mp found
  obtain ⟨before, after, hentries, -⟩ := List.lookup_eq_some_iff.mp hlookup
  exact hasDirectory_of_any (h (name :: parent, node) (by simp [hentries]))

/-- What is true of where a walk arrives. -/
def Holds (t : Tree) : Spot → Prop
  | .directory p => t.HasDirectory p.live
  | .leaf l node => t.find? l = some node ∧ node.isDirectory = false
  | .vacant p name => t.HasDirectory p.live ∧ t.child? p name = none

theorem Closed.parent (closed : t.Closed) (stands : t.HasDirectory p.live) :
    t.HasDirectory p.parent.live := by
  cases p with
  | mk live gone =>
    cases gone with
    | cons => exact stands
    | nil =>
      cases live with
      | nil => exact ⟨{}, rfl⟩
      | cons name parent =>
        obtain ⟨folder, hfound⟩ := stands
        exact closed name parent (by rw [hfound]; rfl)

theorem HasDirectory.start (stands : t.HasDirectory p.live) (path : Path) :
    t.HasDirectory (Tree.start p path).live := by
  unfold Tree.start
  split
  · exact ⟨{}, rfl⟩
  · exact stands

theorem Walk.holds (closed : t.Closed) (walk : Walk t follow n p names s)
    (stands : t.HasDirectory p.live) : t.Holds s := by
  induction walk with
  | here n p => exact stands
  | dot _ _ ih => exact ih stands
  | dotDot _ _ ih => exact ih (closed.parent stands)
  | vacant looks free => exact ⟨stands, free⟩
  | enter looks found _ ih => exact ih ⟨_, (exists_of_child? found).2⟩
  | leaf looks found proper => exact ⟨(exists_of_child? found).2, proper⟩
  | link looks found _ _ ih => exact ih (stands.start _)

/-! ## Where more stands -/

/-- Whatever stands somewhere in one tree stands there in another. -/
def Extends (t t' : Tree) : Prop := ∀ l node, t.find? l = some node → t'.find? l = some node

section

variable {t' : Tree} (extended : t.Extends t')

include extended

theorem Extends.child? {name : String} {node : Node} (stands : t.child? p name = some node) :
    t'.child? p name = some node := by
  obtain ⟨hp, found⟩ := exists_of_child? stands
  rw [hp]
  exact extended _ _ found

theorem Extends.hasDirectory {l : Location} (stands : t.HasDirectory l) : t'.HasDirectory l := by
  obtain ⟨folder, found⟩ := stands
  exact ⟨folder, extended _ _ found⟩

theorem Extends.permits {l : Location} (stands : t.HasDirectory l) (right : Right) :
    t'.permits l right = t.permits l right := by
  obtain ⟨folder, found⟩ := stands
  rw [Tree.permits, Tree.permits, found, extended _ _ found]

theorem Extends.passes (stands : t.HasDirectory p.live) (passes : t.Passes p) : t'.Passes p := by
  rwa [Passes, extended.permits stands]

theorem Extends.looks {name : String} (stands : t.HasDirectory p.live) (looks : t.Looks p name) :
    t'.Looks p name :=
  ⟨extended.passes stands looks.passes, looks.ne_dot, looks.ne_dotDot, looks.short⟩

/-- A walk to a directory takes no notice of what else stands. -/
theorem Walk.extends {d : Place} (closed : t.Closed)
    (walk : Walk t follow n p names (.directory d)) (stands : t.HasDirectory p.live) :
    Walk t' follow n p names (.directory d) := by
  generalize hs : Spot.directory d = s at walk ⊢
  induction walk with
  | here n p => exact .here n p
  | dot passes _ ih => exact .dot (extended.passes stands passes) (ih stands hs)
  | dotDot passes _ ih =>
    exact .dotDot (extended.passes stands passes) (ih (closed.parent stands) hs)
  | vacant => cases hs
  | enter looks found _ ih =>
    exact .enter (extended.looks stands looks) (extended.child? found)
      (ih ⟨_, (exists_of_child? found).2⟩ hs)
  | leaf => cases hs
  | link looks found on _ ih =>
    exact .link (extended.looks stands looks) (extended.child? found) on (ih (stands.start _) hs)

end

end Tree
end LineShell
