import Mathlib.Tactic.SplitIfs
import LineShell.Proofs.Alterations
import LineShell.Proofs.Mishap

/-!
# Looking into directories

A listing is sorted, so the order in which a tree holds its entries does not show.  It names what
stands in the directory and nothing else, each name once.  What is written then follows from the
names, and without an operand it is written of the directory that the file system names.

Texts are compared character by character, and names in a directory are compared byte by byte.  The
two orders are one, because the encoding of a character tells by its first byte how long it is, a
longer one begins with a larger byte, and among those of one length the bytes are the digits of the
character in base 64.  So the first two characters that differ also differ in a byte, and no
encoding is the beginning of another.
-/

namespace LineShell

/-! ## The bytes of names -/

/-- The bytes that encode a text. -/
def utf8 (text : String) : List UInt8 := text.toUTF8.data.toList

theorem utf8_eq_flatMap (text : String) :
    utf8 text = text.toList.flatMap String.utf8EncodeChar := by
  rw [utf8, String.toUTF8_eq_toByteArray, ← String.utf8Encode_toList, List.utf8Encode,
    List.data_toByteArray]

theorem ofNat_lt_ofNat_iff {m n : Nat} (hm : m < 256) (hn : n < 256) :
    UInt8.ofNat m < UInt8.ofNat n ↔ m < n := by
  rw [UInt8.lt_iff_toNat_lt, UInt8.toNat_ofNat_of_lt' hm, UInt8.toNat_ofNat_of_lt' hn]

theorem ofNat_inj_iff {m n : Nat} (hm : m < 256) (hn : n < 256) :
    UInt8.ofNat m = UInt8.ofNat n ↔ m = n := by
  rw [← UInt8.toNat_inj, UInt8.toNat_ofNat_of_lt' hm, UInt8.toNat_ofNat_of_lt' hn]

/-- Characters are ordered as their encodings, whatever follows these. -/
theorem utf8EncodeChar_append_lt {c d : Char} (hlt : c < d) (after after' : List UInt8) :
    String.utf8EncodeChar c ++ after < String.utf8EncodeChar d ++ after' := by
  have hlt : c.val.toNat < d.val.toNat := hlt
  have hlast : d.val.toNat < 0x110000 := by
    have hvalid := d.valid
    unfold UInt32.isValidChar Nat.isValidChar at hvalid
    omega
  have hsecond (n : Nat) : n / 4096 = n / 64 / 64 := by omega
  have hthird (n : Nat) : n / 262144 = n / 64 / 64 / 64 := by omega
  unfold String.utf8EncodeChar
  simp only [hsecond, hthird]
  -- Of the pairs of lengths, those that the order of the characters excludes end in the arithmetic.
  split_ifs <;>
    simp (disch := omega) only [List.cons_append, List.nil_append, List.cons_lt_cons_iff,
      ofNat_lt_ofNat_iff, ofNat_inj_iff] <;>
    omega

theorem flatMap_utf8EncodeChar_lt {cs ds : List Char} (hlt : cs < ds) :
    cs.flatMap String.utf8EncodeChar < ds.flatMap String.utf8EncodeChar := by
  induction cs generalizing ds with
  | nil =>
    cases ds with
    | nil => cases hlt
    | cons d ds =>
      rw [List.flatMap_cons, List.flatMap_nil]
      cases hd : String.utf8EncodeChar d with
      | nil => exact absurd hd String.utf8EncodeChar_ne_nil
      | cons byte bytes => exact .nil
  | cons c cs ih =>
    cases ds with
    | nil => cases hlt
    | cons d ds =>
      rw [List.flatMap_cons, List.flatMap_cons]
      rcases List.cons_lt_cons_iff.mp hlt with hfirst | ⟨rfl, hrest⟩
      · exact utf8EncodeChar_append_lt hfirst _ _
      · exact List.append_left_lt (ih hrest)

/-- What comes first by its characters comes first by its bytes. -/
theorem utf8_lt_of_lt {a b : String} (hlt : a < b) : utf8 a < utf8 b := by
  rw [utf8_eq_flatMap, utf8_eq_flatMap]
  exact flatMap_utf8EncodeChar_lt hlt

/-! ## The names in a directory -/

namespace Tree

variable {t t' : Tree} {l : Location}

theorem nodup_names (distinct : (t.entries.map Prod.fst).Nodup) (l : Location) :
    (t.names l).Nodup := by
  rw [List.Nodup, List.pairwise_map] at distinct
  rw [names, List.Nodup, List.pairwise_filterMap]
  refine distinct.imp fun {entry entry'} hne name hname name' hname' => ?_
  rintro rfl
  obtain ⟨key, node⟩ := entry
  obtain ⟨key', node'⟩ := entry'
  cases key with
  | nil => cases hname
  | cons first parent =>
    cases key' with
    | nil => cases hname'
    | cons first' parent' =>
      -- Two entries that give one name stand at one location.
      simp only [Option.ite_none_right_eq_some, Option.some.injEq] at hname hname'
      exact hne (List.cons_eq_cons.mpr
        ⟨hname.2.trans hname'.2.symm, hname.1.trans hname'.1.symm⟩)

theorem pairwise_sortedNames (t : Tree) (l : Location) :
    (t.sortedNames l).Pairwise (· ≤ ·) := by
  let le (a b : String) : Bool := !decide (b < a)
  have hle (a b : String) : le a b = true ↔ a ≤ b := by
    rw [Bool.not_eq_true', decide_eq_false_iff_not, String.not_lt]
  have trans (a b c : String) (hab : le a b = true) (hbc : le b c = true) : le a c = true :=
    (hle a c).mpr (String.le_trans ((hle a b).mp hab) ((hle b c).mp hbc))
  have total (a b : String) : (le a b || le b a) = true := by
    simpa only [Bool.or_eq_true, hle] using String.le_total a b
  exact (List.pairwise_mergeSort trans total (t.names l)).imp fun {a b} => (hle a b).mp

/-- Each name comes once, and the names come in the order of their bytes. -/
theorem strict_sortedNames (distinct : (t.entries.map Prod.fst).Nodup) (l : Location) :
    (t.sortedNames l).Pairwise fun a b => utf8 a < utf8 b := by
  have apart : (t.sortedNames l).Nodup :=
    (List.mergeSort_perm _ _).nodup_iff.mpr (nodup_names distinct l)
  refine ((t.pairwise_sortedNames l).and apart).imp fun {a b} h => utf8_lt_of_lt ?_
  exact String.not_le.mp fun hba => h.2 (String.le_antisymm h.1 hba)

theorem mem_sortedNames_iff {name : String} :
    name ∈ t.sortedNames l ↔ (t.find? (name :: l)).isSome = true := by
  rw [sortedNames, List.mem_mergeSort, mem_names_iff]

/-! ## Another order of the entries -/

theorem lookup_of_perm {entries entries' : List (Location × Node)}
    (distinct : (entries.map Prod.fst).Nodup) (perm : entries.Perm entries') (key : Location) :
    entries.lookup key = entries'.lookup key := by
  induction perm with
  | nil => rfl
  | cons entry _ ih =>
    obtain ⟨l, node⟩ := entry
    rw [List.lookup_cons, List.lookup_cons, ih (List.nodup_cons.mp distinct).2]
  | swap entry entry' rest =>
    obtain ⟨l, node⟩ := entry
    obtain ⟨l', node'⟩ := entry'
    have hne : l' ≠ l := by
      rintro rfl
      simp at distinct
    simp only [List.lookup_cons]
    cases hkey : key == l with
    | false => rfl
    | true =>
      have hkey' : (key == l') = false := by
        rw [eq_of_beq hkey]
        exact beq_false_of_ne hne.symm
      rw [hkey']
  | trans first _ ih ih' =>
    rw [ih distinct, ih' ((first.map Prod.fst).nodup_iff.mp distinct)]

theorem find?_of_perm (distinct : (t.entries.map Prod.fst).Nodup)
    (perm : t.entries.Perm t'.entries) : t.find? = t'.find? := by
  funext l
  cases l with
  | nil => rfl
  | cons name parent => exact lookup_of_perm distinct perm (name :: parent)

theorem sortedNames_of_perm (perm : t.entries.Perm t'.entries) (l : Location) :
    t.sortedNames l = t'.sortedNames l := by
  have same : (t.sortedNames l).Perm (t'.sortedNames l) :=
    ((List.mergeSort_perm _ _).trans (perm.filterMap _)).trans (List.mergeSort_perm _ _).symm
  exact same.eq_of_pairwise (fun a b _ _ => String.le_antisymm) (t.pairwise_sortedNames l)
    (t'.pairwise_sortedNames l)

theorem listDir_of_directoryAt {p place : Place} {path : Path}
    (hplace : t.directoryAt p path = .ok place) :
    t.listDir p path =
      if place.exists? && !t.permits place.live .read then .error .noAccess
      else .ok (if place.exists? then t.sortedNames place.live else []) := by
  rw [listDir, hplace]
  show (if !place.exists? then Except.ok []
    else if !t.permits place.live .read then Except.error Fault.noAccess
    else Except.ok (t.sortedNames place.live)) = _
  cases place.exists? <;> cases t.permits place.live .read <;> rfl

theorem listDir_of_error {p : Place} {path : Path} {fault : Fault}
    (hfault : t.directoryAt p path = .error fault) : t.listDir p path = .error fault := by
  simp only [listDir, hfault]
  rfl

theorem listDir_of_perm (distinct : (t.entries.map Prod.fst).Nodup)
    (perm : t.entries.Perm t'.entries) (p : Place) (path : Path) :
    t.listDir p path = t'.listDir p path := by
  have same := find?_of_perm distinct perm
  have hdirectory : t.directoryAt p path = t'.directoryAt p path := by
    rw [directoryAt, directoryAt, reach, reach, walk_congr same]
  cases hd : t'.directoryAt p path with
  | error fault => rw [listDir_of_error hd, listDir_of_error (hdirectory.trans hd)]
  | ok place =>
    rw [listDir_of_directoryAt hd, listDir_of_directoryAt (hdirectory.trans hd), permits, permits,
      same, sortedNames_of_perm perm]

end Tree

/-! ## What a listing gives -/

namespace Files

variable {files : Files} {text : String} {place : Place}

/-- The path leads to the directory at the place, which may be read if it still exists. -/
def Opens (files : Files) (text : String) (place : Place) : Prop :=
  ∃ path, readShortPath text = .ok path ∧ files.tree.directoryAt files.cwd path = .ok place ∧
    (place.exists? = true → files.tree.permits place.live .read = true)

theorem list_of_path {path : Path} (hpath : readShortPath text = .ok path) :
    files.list text = failing (files.tree.listDir files.cwd path) := by
  rw [list, hpath]
  rfl

/-- A listing names exactly what stands in the directory that is opened. -/
theorem Opens.list (opens : files.Opens text place)
    (distinct : (files.tree.entries.map Prod.fst).Nodup) :
    ∃ names, files.list text = .ok names ∧ names.Pairwise (fun a b => utf8 a < utf8 b) ∧
      ∀ name, name ∈ names ↔ (files.tree.child? place name).isSome = true := by
  obtain ⟨path, hpath, hplace, hread⟩ := opens
  rw [list_of_path hpath, Tree.listDir_of_directoryAt hplace]
  by_cases present : place.exists? = true
  · refine ⟨files.tree.sortedNames place.live, ?_, Tree.strict_sortedNames distinct _, ?_⟩
    · simp [present, hread present]
    · intro name
      rw [Tree.mem_sortedNames_iff, Tree.child?, if_pos present]
  · refine ⟨[], ?_, .nil, ?_⟩
    · simp [present]
    · intro name
      simp [Tree.child?, present]

/-- Whatever is listed was opened. -/
theorem opens_of_list {names : List String} (hlist : files.list text = .ok names) :
    ∃ place, files.Opens text place := by
  cases hpath : readShortPath text with
  | error cause =>
    rw [list, hpath] at hlist
    cases hlist
  | ok path =>
    rw [list_of_path hpath] at hlist
    cases hplace : files.tree.directoryAt files.cwd path with
    | error fault =>
      rw [Tree.listDir_of_error hplace] at hlist
      cases hlist
    | ok place =>
      rw [Tree.listDir_of_directoryAt hplace] at hlist
      refine ⟨place, path, hpath, hplace, fun present => ?_⟩
      rw [present, Bool.true_and] at hlist
      cases hread : files.tree.permits place.live .read with
      | true => rfl
      | false =>
        rw [hread] at hlist
        cases hlist

theorem list_of_perm {files' : Files} (distinct : (files.tree.entries.map Prod.fst).Nodup)
    (perm : files.tree.entries.Perm files'.tree.entries) (hcwd : files.cwd = files'.cwd) :
    files.list text = files'.list text := by
  cases hpath : readShortPath text with
  | error cause =>
    rw [list, list, hpath]
    rfl
  | ok path =>
    rw [list_of_path hpath, list_of_path hpath, Tree.listDir_of_perm distinct perm, hcwd]

end Files

/-! ## The command -/

variable {W : Type}

theorem Host.Holds.listDir {h : Host W} {files : W → Files}
    (holds : h.Holds Files.system files) (path : String) (w : W) :
    (h.listDir path w).1 = (files w).list path := by
  obtain ⟨v, hlist, -⟩ :=
    holds.answers (c := .list path) rfl (fun _ _ => Reply.names.inj) rfl rfl (w := w) rfl
  rw [hlist]

/-- The calls of a listing, given its answer: a line for each name among others, or one error
line. -/
def listed (path : String) : Except Failure (List String) → List Entry
  | .ok names => ⟨.list path, .ok (.names names)⟩ ::
      (Standard.listingLines path names).map fun text => ⟨.line text, .ok .done⟩
  | .error cause => [⟨.list path, .error cause⟩,
      ⟨.complain "failed to list directory" (some path), .ok .done⟩]

/-- What is recorded of a listing, given its answer. -/
def unlisted : Except Failure (List String) → List Record
  | .ok _ => []
  | .error _ => [Record.ofKind .invalidArguments]

theorem Standard.does_showListing {h : Host W} (works : h.OutputWorks) (path : String)
    (s : State W) :
    ∃ ds t, Action.Does h (showListing h path) s ds (.ok .success) t ∧
      Tally ds (listed path (h.listDir path s.world).1) (unlisted (h.listDir path s.world).1) := by
  have asked := Action.Does.attempt (h := h) (c := .list path) rfl s
  let t : State W := { s with world := (h.listDir path s.world).2 }
  cases hlist : (h.listDir path s.world).1 with
  | ok names =>
    rw [hlist] at asked
    obtain ⟨u, shown⟩ := Action.Does.printAll_of_works works (listingLines path names) t
    exact ⟨_, u, asked.bind (shown.bind_pure Token.success), (Tally.lines _ _).cons_call _ _⟩
  | error cause =>
    rw [hlist] at asked
    let failed := Event.listingFailed cause path
    obtain ⟨u, rejected⟩ := Action.Does.reject_of_works works .invalidArguments
      "failed to list directory" (some path) ((Interpreter.standard h).tell failed t)
    refine ⟨_, u, asked.bind ((Action.Does.tell failed t).bind rejected), ?_⟩
    exact ((Tally.fail _ _ _ _ _).cons_tell failed).cons_call _ _

namespace Interpreter

section

variable {h : Host W} {files : W → Files} (holds : h.Holds Files.system files)
  (works : h.OutputWorks) {name : String} (hname : name ∈ ["ls", "listdir", "dig"])

include holds works hname

theorem amountsTo_listing (path : String) (rest : List String) (s : State W) :
    AmountsTo h (name :: path :: rest) s (listed path ((files s.world).list path))
      (unlisted ((files s.world).list path)) := by
  have ho : Builtin.ofName? name = some .ls := Builtin.ofName?_eq_some_iff.mpr hname
  obtain ⟨event, synopses, comes⟩ := comes_to_of_does h ho (path :: rest) s
  let t := (standard h.journaled).tell event s.journaled
  obtain ⟨ds, u, does, tally⟩ := Standard.does_showListing works.journaled path t
  have hfiles : files t.world.world = files s.world := holds.note event s.world
  rw [holds.journaled.listDir, hfiles] at tally
  have amounts := (comes ds _ u does).amountsTo tally rfl
  rwa [lossRecords, List.append_nil] at amounts

/-- Without an operand the listing is of the directory that the file system names, or else of the
one that the session remembers. -/
theorem amountsTo_default (s : State W) :
    let here := (files s.world).here
    let path := here.toOption.getD s.session.cwd
    AmountsTo h [name] s (⟨.locate, here.map .place⟩ :: listed path ((files s.world).list path))
      (unlisted ((files s.world).list path)) := by
  intro here path
  have ho : Builtin.ofName? name = some .ls := Builtin.ofName?_eq_some_iff.mpr hname
  obtain ⟨event, synopses, comes⟩ := comes_to_of_does h ho [] s
  let t := (standard h.journaled).tell event s.journaled
  have hfiles : files t.world.world = files s.world := holds.note event s.world
  obtain ⟨v, hnamed, hafter⟩ := holds.journaled.currentDir (w := t.world) rfl
  rw [hfiles] at hnamed hafter
  have asked := Standard.does_defaultListing h.journaled t
  rw [hnamed] at asked
  obtain ⟨ds, u, does, tally⟩ :=
    Standard.does_showListing works.journaled path { t with world := v }
  rw [holds.journaled.listDir, hafter] at tally
  have tally := tally.cons_call .locate (here.map .place)
  have amounts := (comes _ _ u (asked.bind does)).amountsTo tally rfl
  rwa [lossRecords, List.append_nil] at amounts

/-- A listing of a directory with names writes a header, an empty line, a numbered line for each
name and an empty line; the names are those of the entries, each once and in the order of their
bytes, in whatever order the entries are stored.  Without names there is one line, and for what
cannot be listed one error line and one record.  Without an operand the listing is the one of the
directory that the file system names, or else of the one that the session remembers. -/
theorem listings_shown (s : State W)
    (distinct : ((files s.world).tree.entries.map Prod.fst).Nodup) :
    (∀ path rest,
      (∀ place, (files s.world).Opens path place → ∃ names,
        names.Pairwise (fun a b => utf8 a < utf8 b) ∧
        (∀ n, n ∈ names ↔ ((files s.world).tree.child? place n).isSome = true) ∧
        ∃ lines,
          AmountsTo h (name :: path :: rest) s (⟨.list path, .ok (.names names)⟩ ::
            lines.map fun text => ⟨.line text, .ok .done⟩) [] ∧
          (names = [] → lines = ["Empty directory: " ++ path]) ∧
          (names ≠ [] → lines.length = names.length + 3 ∧
            lines = ["Searching for items in directory: " ++ path, ""] ++
              names.mapIdx (fun i n => toString i ++ ".\t" ++ n) ++ [""])) ∧
      ((∀ place, ¬(files s.world).Opens path place) → ∃ cause,
        AmountsTo h (name :: path :: rest) s [⟨.list path, .error cause⟩,
          ⟨.complain "failed to list directory" (some path), .ok .done⟩]
          [Record.ofKind .invalidArguments]) ∧
      ∀ s', (files s.world).tree.entries.Perm (files s'.world).tree.entries →
        (files s.world).cwd = (files s'.world).cwd →
        h.callsOf (name :: path :: rest) s' = h.callsOf (name :: path :: rest) s) ∧
    let here := (files s.world).here
    let path := here.toOption.getD s.session.cwd
    ∃ calls records, AmountsTo h [name, path] s calls records ∧
      AmountsTo h [name] s (⟨.locate, here.map .place⟩ :: calls) records := by
  refine ⟨fun path rest => ⟨?_, ?_, ?_⟩, ?_⟩
  · intro place opens
    obtain ⟨names, hlist, sorted, hnames⟩ := opens.list distinct
    have amounts := amountsTo_listing holds works hname path rest s
    rw [hlist] at amounts
    refine ⟨names, sorted, hnames, Standard.listingLines path names, amounts, ?_, ?_⟩
    · rintro rfl
      rfl
    · intro hne
      refine ⟨Standard.length_listingLines path hne, ?_⟩
      have hfull : names.isEmpty = false := by simpa using hne
      rw [Standard.listingLines, hfull]
      rfl
  · intro unopened
    have amounts := amountsTo_listing holds works hname path rest s
    cases hlist : (files s.world).list path with
    | ok names =>
      obtain ⟨place, opens⟩ := Files.opens_of_list hlist
      exact absurd opens (unopened place)
    | error cause =>
      rw [hlist] at amounts
      exact ⟨cause, amounts⟩
  · intro s' perm hcwd
    rw [(amountsTo_listing holds works hname path rest s').calls,
      (amountsTo_listing holds works hname path rest s).calls,
      Files.list_of_perm distinct perm hcwd]
  · intro here path
    exact ⟨_, _, amountsTo_listing holds works hname path [] s,
      amountsTo_default holds works hname s⟩

end

/-- A link that leads nowhere is listed like anything else, and the entries may as well be stored
the other way round. -/
theorem listings_shown_alone :
    let tree : Tree :=
      { entries := [(["é", "d"], .link "nowhere"), (["z", "d"], .directory {}),
          (["a.txt", "d"], .file {}), (["d"], .directory {})] }
    let session : Session := { cwd := "/d", home := "/", user := "user" }
    let s : State Files :=
      { session, errors := {}, world := { tree, cwd := { live := ["d"] } } }
    let s' : State Files :=
      { s with world := { tree := { entries := tree.entries.reverse }, cwd := { live := ["d"] } } }
    let h := Files.system.alone
    h.Holds Files.system id ∧ h.OutputWorks ∧ "dig" ∈ ["ls", "listdir", "dig"] ∧
      (s.world.tree.entries.map Prod.fst).Nodup ∧ s.world.Opens "../d" { live := ["d"] } ∧
      (∃ names, names.Pairwise (fun a b => utf8 a < utf8 b) ∧ "é" ∈ names ∧
        ∃ lines : List String, lines.length = names.length + 3 ∧
          AmountsTo h ["dig", "../d"] s (⟨.list "../d", .ok (.names names)⟩ ::
            lines.map fun text => ⟨.line text, .ok .done⟩) []) ∧
      h.callsOf ["dig", "../d"] s' = h.callsOf ["dig", "../d"] s ∧
      ∃ calls records, AmountsTo h ["dig", "/d"] s calls records ∧
        AmountsTo h ["dig"] s (⟨.locate, .ok (.place "/d")⟩ :: calls) records := by
  intro tree session s s' h
  have holds : h.Holds Files.system id := Files.system.holds_alone
  have works : h.OutputWorks := Files.system.outputWorks_alone
  have hname : "dig" ∈ ["ls", "listdir", "dig"] := by decide
  have distinct : (s.world.tree.entries.map Prod.fst).Nodup := by decide
  have opens : s.world.Opens "../d" { live := ["d"] } :=
    ⟨Path.ofString "../d", by decide, by decide, fun _ => by decide⟩
  obtain ⟨given, default⟩ := listings_shown holds works hname s distinct
  obtain ⟨opened, -, reordered⟩ := given "../d" []
  obtain ⟨names, sorted, hnames, lines, amounts, -, full⟩ := opened _ opens
  have hmem : "é" ∈ names := (hnames "é").mpr (by decide)
  obtain ⟨hlength, -⟩ := full (List.ne_nil_of_mem hmem)
  exact ⟨holds, works, hname, distinct, opens, ⟨names, sorted, hmem, lines, hlength, amounts⟩,
    reordered s' (List.reverse_perm _).symm rfl, default⟩

end Interpreter

end LineShell
