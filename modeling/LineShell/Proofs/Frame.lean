import LineShell.Proofs.Batch
import LineShell.Proofs.Outcome
import LineShell.Proofs.Whereabouts

/-!
# What a dispatch may change

Every command is given the session, the log and the whole host, and nothing keeps it from using
them.  That they use little of it is the matter of `frame_dispatch`: a dispatch leaves the user and
the home directory alone, changes the code only on behalf of `return` and the directory only on
behalf of the commands that move, and asks the file system for the changes its words name, in their
order, and for no other.  All of this holds on every path through a command, those that a failed
write cuts short included.
-/

namespace LineShell

/-! ## Changes that are asked for -/

/-- A call that changes files, directories, or the working directory. -/
def Call.isChange : Call → Bool
  | .edit .. | .move _ => true
  | _ => false

/-- The changes that were asked of the file system, in order, whether they worked or not. -/
def changesIn (entries : List Entry) : List Call := (entries.map Entry.call).filter Call.isChange

@[simp] theorem changesIn_nil : changesIn [] = [] := rfl

@[simp] theorem changesIn_cons (e : Entry) (entries : List Entry) :
    changesIn (e :: entries) =
      if e.call.isChange then e.call :: changesIn entries else changesIn entries := by
  simp [changesIn, List.filter_cons]

@[simp] theorem changesIn_append (entries entries' : List Entry) :
    changesIn (entries ++ entries') = changesIn entries ++ changesIn entries' := by
  simp [changesIn]

theorem changesIn_eq_nil {ds : List Deed}
    (h : ∀ c answer, .call c answer ∈ ds → c.isChange = false) : changesIn (entriesOf ds) = [] := by
  induction ds with
  | nil => rfl
  | cons d ds ih =>
    have hrest := ih fun c answer hd => h c answer (List.mem_cons_of_mem _ hd)
    cases d with
    | call c answer => simp [hrest, h c answer List.mem_cons_self]
    | _ => simpa using hrest

theorem Call.isChange_of_isOutput {c : Call} (ho : c.isOutput = true) : c.isChange = false := by
  cases c <;> first | rfl | cases ho

theorem changesIn_of_common {ds : List Deed} (common : ∀ d ∈ ds, d.Common) :
    changesIn (entriesOf ds) = [] :=
  changesIn_eq_nil fun _ _ hd => Call.isChange_of_isOutput (common _ hd)

/-! ## Edits -/

theorem PathEdit.changesIn_entries (edit : PathEdit) (path : String)
    (answer : Except Failure Reply) (told : Except Failure Unit) :
    changesIn (edit.entries path answer told) = [.edit edit path] := by
  cases answer <;> rfl

/-- The paths are attempted in order, each once, and no path is left out unless the report on the
last one was lost. -/
theorem Edits.changes {edit : PathEdit} {paths : List String} {entries : List Entry}
    {result : Except Failure Unit} (edits : Edits edit paths entries result) :
    ∃ k, changesIn entries = (paths.take k).map (.edit edit) ∧
      (k = paths.length ∨ 0 < k ∧ ∃ e, entries.getLast? = some e ∧ e.isLost = true) := by
  induction edits with
  | nil => exact ⟨0, rfl, Or.inl rfl⟩
  | @told path answer rest entries result after ih =>
    obtain ⟨k, hchanges, hk⟩ := ih
    refine ⟨k + 1, by simp [edit.changesIn_entries, hchanges], ?_⟩
    rcases hk with rfl | ⟨-, e, he, hlost⟩
    · exact Or.inl rfl
    · exact Or.inr ⟨k.succ_pos, e, by simp [List.getLast?_append, he], hlost⟩
  | lost path rest answer cause =>
    refine ⟨1, by simp [edit.changesIn_entries], Or.inr ⟨Nat.one_pos, _, rfl, ?_⟩⟩
    simp [Entry.isLost, Entry.failed, edit.isOutput_report, Except.isOk, Except.toBool, Except.map]

/-! ## Movements -/

/-- The directory that was entered and named, if the calls are those of a change of directory. -/
def entered? : List Entry → Option String
  | [⟨.move _, .ok _⟩, ⟨.locate, .ok (.place cwd)⟩] => some cwd
  | _ => none

theorem Movement.changes {ds : List Deed} (movement : Movement ds) :
    ∃ path answer, .call (.move path) answer ∈ ds ∧ changesIn (entriesOf ds) = [.move path] := by
  cases movement with
  | refused common =>
    exact ⟨_, _, List.mem_cons_self, by simp [Call.isChange, changesIn_of_common common]⟩
  | unnamed => exact ⟨_, _, List.mem_cons_self, rfl⟩
  | followed => exact ⟨_, _, List.mem_cons_self, rfl⟩

theorem Movement.cwdsOf_getLast? {ds : List Deed} (movement : Movement ds) :
    (cwdsOf ds).getLast? = entered? (entriesOf ds) := by
  cases movement with
  | @refused path cause ds common =>
    have hnone : cwdsOf ds = [] :=
      List.filterMap_eq_nil_iff.mpr fun d hd => (common d hd).stays.1
    simp [hnone, entered?]
  | unnamed => rfl
  | followed => rfl

theorem cwdsOf_between {before ds after : List Deed} (hbefore : ∀ d ∈ before, d.Still)
    (hafter : ∀ d ∈ after, d.Still) : cwdsOf (before ++ ds ++ after) = cwdsOf ds := by
  have hnone {es : List Deed} (still : ∀ d ∈ es, d.Still) : cwdsOf es = [] :=
    List.filterMap_eq_nil_iff.mpr fun d hd => (still d hd).2
  rw [cwdsOf_append, cwdsOf_append, hnone hbefore, hnone hafter, List.nil_append, List.append_nil]

/-! ## The frame -/

/-- The names of the command that changes the directory. -/
def movingNames : List String := ["cd", "chdir", "cwd"]

/-- The directory that words led to. -/
def enteredBy? (words : List String) (calls : List Entry) : Option String :=
  if ∃ name ∈ words.head?, name ∈ movingNames then entered? calls else none

/-- What a dispatch of words makes of a session, and the changes among the calls it makes. -/
structure Frame (words : List String) (before after : Session) (calls : List Entry) : Prop where
  home : after.home = before.home
  user : after.user = before.user
  code : after.code = (storedBy? words).getD before.code
  cwd : after.cwd = (enteredBy? words calls).getD before.cwd
  /-- A change of directory is asked for once, and it is the one that was named if any was. -/
  moves : ∀ name operands, words = name :: operands → name ∈ movingNames →
    ∃ path, changesIn calls = [.move path] ∧ ∀ named ∈ operands.head?, path = named
  /-- The commands for one path attempt their first operand. -/
  single : ∀ edit name operands, words = name :: operands → name ∈ Standard.singleNames edit →
    changesIn calls = (operands.take 1).map (.edit edit)
  /-- The commands for many paths attempt one operand after the other, and all of them unless a
  report was lost. -/
  batch : ∀ edit name operands, words = name :: operands → name ∈ Standard.batchNames edit →
    ∃ k, changesIn calls = (operands.take k).map (.edit edit) ∧
      (k = operands.length ∨ 0 < k ∧ ∃ e, calls.getLast? = some e ∧ e.isLost = true)
  /-- No other words change anything through the file system. -/
  others : (∀ name ∈ words.head?, name ∉ movingNames ∧
    ∀ edit, name ∉ Standard.singleNames edit ∧ name ∉ Standard.batchNames edit) →
    changesIn calls = []

/-- Of all that a command may do only edits and movements are changes. -/
theorem Errand.Account.changesIn_eq_nil {e : Errand} {ds : List Deed} (account : e.Account ds)
    (hedit : ∀ edit path answer, ¬ e.opens (.call (.edit edit path) answer))
    (hmove : ∀ path answer, ¬ e.opens (.call (.move path) answer)) :
    changesIn (entriesOf ds) = [] := by
  refine LineShell.changesIn_eq_nil fun c answer hd => ?_
  rcases account.permitted _ hd with hcommon | hopens | hkeep
  · exact Call.isChange_of_isOutput hcommon
  · cases c with
    | edit edit path => exact absurd hopens (hedit edit path answer)
    | move path => exact absurd hopens (hmove path answer)
    | _ => rfl
  · cases hkeep

namespace Interpreter

variable {W : Type}

theorem changesIn_calls_eq_nil (h : Host W) (words : List String) (s : State W)
    (hedit : ∀ edit path answer, ¬ (Errand.ofWords words).opens (.call (.edit edit path) answer))
    (hmove : ∀ path answer, ¬ (Errand.ofWords words).opens (.call (.move path) answer)) :
    changesIn (h.callsOf words s) = [] := by
  obtain ⟨-, ds, course, account⟩ := account_dispatch h.journaled words s.journaled
  have hcalls : h.callsOf words s = entriesOf ds := course.entries
  rw [hcalls]
  exact account.changesIn_eq_nil hedit hmove

theorem cwd_of_calls (h : Host W) (words : List String) (s : State W) :
    ((standard h).dispatch words s).2.session.cwd =
      (enteredBy? words (h.callsOf words s)).getD s.session.cwd := by
  rw [← session_journaled]
  by_cases hcd : ∃ operands, Errand.ofWords words = .command .cd operands
  · obtain ⟨operands, hcd⟩ := hcd
    obtain ⟨before, ds, after, course, movement, hbefore, hafter, hcalls⟩ := calls_movement h hcd s
    obtain ⟨name, rfl, ho⟩ := Errand.ofWords_eq_command_iff.mp hcd
    have hname : name ∈ movingNames := Builtin.ofName?_eq_some_iff.mp ho
    rw [course.cwd, cwdsOf_between hbefore hafter, movement.cwdsOf_getLast?, hcalls]
    simp [enteredBy?, hname]
    rfl
  · obtain ⟨-, ds, course, account⟩ := account_dispatch h.journaled words s.journaled
    have hnone : enteredBy? words (h.callsOf words s) = none := by
      refine if_neg ?_
      rintro ⟨name, hname, hmoving⟩
      obtain ⟨operands, rfl⟩ := List.head?_eq_some_iff.mp hname
      exact hcd ⟨operands, Errand.ofWords_command (Builtin.ofName?_eq_some_iff.mpr hmoving) _⟩
    rw [hnone]
    exact course.cwd_of_stays (account.stays (not_exists.mp hcd))

theorem changes_of_moving (h : Host W) {name : String} {operands : List String}
    (hname : name ∈ movingNames) (s : State W) :
    ∃ path, changesIn (h.callsOf (name :: operands) s) = [.move path] ∧
      ∀ named ∈ operands.head?, path = named := by
  have hcd : Errand.ofWords (name :: operands) = .command .cd operands :=
    Errand.ofWords_command (Builtin.ofName?_eq_some_iff.mpr hname) operands
  obtain ⟨before, ds, after, course, movement, -, -, hcalls⟩ := calls_movement h hcd s
  obtain ⟨path, answer, hmove, hchanges⟩ := movement.changes
  obtain ⟨-, es, other, account⟩ := account_dispatch h.journaled (name :: operands) s.journaled
  -- The account knows which path was named, and the journal is one for both courses.
  have hentry : ⟨.move path, answer⟩ ∈ entriesOf es := by
    rw [← course.entries_unique other]
    refine List.mem_filterMap.mpr ⟨.call (.move path) answer, ?_, rfl⟩
    exact List.mem_append_left _ (List.mem_append_right _ hmove)
  obtain ⟨d, hd, hdeed⟩ := List.mem_filterMap.mp hentry
  refine ⟨path, hcalls ▸ hchanges, ?_⟩
  rw [hcd] at account
  cases d with
  | call c answer' =>
    cases hdeed
    rcases account.permitted _ hd with hcommon | hopens | hkeep
    · cases hcommon
    · exact hopens.2
    · cases hkeep
  | _ => cases hdeed

theorem changes_of_single (h : Host W) {edit : PathEdit} {name : String}
    (hname : name ∈ Standard.singleNames edit) (operands : List String) (s : State W) :
    changesIn (h.callsOf (name :: operands) s) = (operands.take 1).map (.edit edit) := by
  have hb : Errand.ofWords (name :: operands) = .command (.single edit) operands :=
    Errand.ofWords_command (Builtin.ofName?_eq_some_iff.mpr hname) operands
  cases operands with
  | nil =>
    refine changesIn_calls_eq_nil h _ s ?_ ?_ <;>
      simp [hb, Errand.opens, Builtin.opens]
  | cons path rest =>
    obtain ⟨answer, told, hcalls⟩ := calls_single h hb s
    rw [hcalls, edit.changesIn_entries]
    rfl

theorem changes_of_batch (h : Host W) {edit : PathEdit} {name : String}
    (hname : name ∈ Standard.batchNames edit) (operands : List String) (s : State W) :
    ∃ k, changesIn (h.callsOf (name :: operands) s) = (operands.take k).map (.edit edit) ∧
      (k = operands.length ∨
        0 < k ∧ ∃ e, (h.callsOf (name :: operands) s).getLast? = some e ∧ e.isLost = true) := by
  have hb : Errand.ofWords (name :: operands) = .command (.batch edit) operands :=
    Errand.ofWords_command (Builtin.ofName?_eq_some_iff.mpr hname) operands
  cases operands with
  | nil =>
    refine ⟨0, changesIn_calls_eq_nil h _ s ?_ ?_, Or.inl rfl⟩ <;>
      simp [hb, Errand.opens, Builtin.opens]
  | cons path rest =>
    obtain ⟨result, edits⟩ := calls_batch h hb s
    exact edits.changes

theorem changes_of_others (h : Host W) {words : List String}
    (hothers : ∀ name ∈ words.head?, name ∉ movingNames ∧
      ∀ edit, name ∉ Standard.singleNames edit ∧ name ∉ Standard.batchNames edit) (s : State W) :
    changesIn (h.callsOf words s) = [] := by
  have hne (b : Builtin) (operands : List String) (hb : Errand.ofWords words = .command b operands)
      {names : List String} (hnames : b.names = names) : ∃ name ∈ words.head?, name ∈ names := by
    obtain ⟨name, rfl, ho⟩ := Errand.ofWords_eq_command_iff.mp hb
    exact ⟨name, rfl, hnames ▸ Builtin.ofName?_eq_some_iff.mp ho⟩
  refine changesIn_calls_eq_nil h words s ?_ ?_
  · intro edit path answer hopens
    cases he : Errand.ofWords words with
    | blank => rw [he] at hopens; exact hopens
    | external line => rw [he] at hopens; exact hopens
    | command b operands =>
      rw [he] at hopens
      rcases hopens with ⟨rfl, -⟩ | ⟨rfl, -⟩
      · obtain ⟨name, hhead, hname⟩ := hne _ operands he rfl
        exact ((hothers name hhead).2 edit).1 hname
      · obtain ⟨name, hhead, hname⟩ := hne _ operands he rfl
        exact ((hothers name hhead).2 edit).2 hname
  · intro path answer hopens
    cases he : Errand.ofWords words with
    | blank => rw [he] at hopens; exact hopens
    | external line => rw [he] at hopens; exact hopens
    | command b operands =>
      rw [he] at hopens
      obtain ⟨rfl, -⟩ := hopens
      obtain ⟨name, hhead, hname⟩ := hne _ operands he rfl
      exact (hothers name hhead).1 hname

/-- A dispatch keeps the token it gives and changes nothing that its words do not name. -/
theorem frame_dispatch (h : Host W) (words : List String) (s : State W) :
    let (token, t) := (standard h).dispatch words s
    t.session.last = some token ∧ Frame words s.session t.session (h.callsOf words s) := by
  obtain ⟨-, ds, course, -⟩ := account_dispatch h words s
  refine ⟨dispatch_last _ words s, course.owner.1, course.owner.2, code_dispatch h words s,
    cwd_of_calls h words s, ?_, ?_, ?_, fun hothers => changes_of_others h hothers s⟩
  · rintro name operands rfl hname
    exact changes_of_moving h hname s
  · rintro edit name operands rfl hname
    exact changes_of_single h hname operands s
  · rintro edit name operands rfl hname
    exact changes_of_batch h hname operands s

end Interpreter
end LineShell
