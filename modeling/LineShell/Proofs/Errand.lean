import LineShell.Proofs.Meaning

/-!
# What a dispatch does

Words are an errand: nothing, a built-in command with its operands, or a line for the host's shell.
An errand settles beforehand which token a dispatch gives, and `Errand.Account` says what the deeds
of a dispatch add up to.  Built-in commands and the shell differ where the output fails: a command
breaks off and that is recorded too, while an error line about the shell is lost without a trace.
-/

namespace LineShell

/-- What words ask of the interpreter. -/
inductive Errand where
  | blank
  | command (b : Builtin) (operands : List String)
  | external (line : String)
  deriving DecidableEq, Repr

namespace Errand

def ofWords : List String → Errand
  | [] => .blank
  | name :: operands =>
    match Builtin.ofName? name with
    | some b => .command b operands
    | none => .external (joinWords (name :: operands))

theorem ofWords_command {name : String} {b : Builtin} (ho : Builtin.ofName? name = some b)
    (operands : List String) : ofWords (name :: operands) = .command b operands := by
  simp [ofWords, ho]

theorem ofWords_external {name : String} (ho : Builtin.ofName? name = none)
    (operands : List String) :
    ofWords (name :: operands) = .external (joinWords (name :: operands)) := by
  simp [ofWords, ho]

theorem ofWords_eq_command_iff {words : List String} {b : Builtin} {operands : List String} :
    ofWords words = .command b operands ↔
      ∃ name, words = name :: operands ∧ Builtin.ofName? name = some b := by
  constructor
  · intro hw
    cases words with
    | nil => cases hw
    | cons name rest =>
      cases ho : Builtin.ofName? name with
      | none =>
        rw [ofWords_external ho] at hw
        cases hw
      | some c =>
        rw [ofWords_command ho] at hw
        cases hw
        exact ⟨name, rfl, ho⟩
  · rintro ⟨name, rfl, ho⟩
    exact ofWords_command ho operands

def isCommand : Errand → Bool
  | .command .. => true
  | .blank | .external _ => false

def token : Errand → Token
  | .blank => .blank
  | .command b operands => b.token operands
  | .external _ => .success

def dues : Errand → Dues
  | .command b operands => b.dues operands
  | .blank | .external _ => {}

/-- Whether a working directory that cannot be named is a failure. -/
def wanted : Errand → Bool
  | .command b _ => b == .gwd
  | .blank | .external _ => false

/-- What a dispatch may do beyond the common deeds. -/
def opens : Errand → Deed → Prop
  | .blank, _ => False
  | .command b operands, d => b.opens operands d
  | .external line, .call (.run text) _ => text = line
  | .external _, _ => False

/-- How often the output failed a command. -/
def losses (e : Errand) (calls : List Entry) : Nat :=
  if e.isCommand then calls.countP Entry.isLost else 0

/-- What the deeds of a dispatch add up to. -/
structure Account (e : Errand) (ds : List Deed) : Prop where
  permitted : ∀ d ∈ ds, d.Common ∨ e.opens d ∨ d = .keep e.token
  complaints : (entriesOf ds).countP Entry.isComplaint =
    (entriesOf ds).countP (Entry.isRefusal e.wanted) + e.dues.own
  records : (recordsOf ds).countP Record.isStandard =
    (entriesOf ds).countP Entry.isComplaint + e.losses (entriesOf ds)
  newest : 0 < e.losses (entriesOf ds) → (recordsOf ds).getLast? = some (Record.ofKind .unknown)
  thrown : (recordsOf ds).filter (!·.isStandard) = e.dues.thrown
  codes : codesOf ds = e.dues.codes
  lost : (entriesOf ds).countP Entry.isLost ≤ 1

end Errand

/-- Deeds that an account does not count. -/
def Deed.isSilent (d : Deed) : Prop := d.entry? = none ∧ d.record? = none ∧ d.code? = none

theorem entriesOf_of_silent {ds : List Deed} (h : ∀ d ∈ ds, d.isSilent) : entriesOf ds = [] :=
  List.filterMap_eq_nil_iff.mpr fun d hd => (h d hd).1

theorem recordsOf_of_silent {ds : List Deed} (h : ∀ d ∈ ds, d.isSilent) : recordsOf ds = [] :=
  List.filterMap_eq_nil_iff.mpr fun d hd => (h d hd).2.1

theorem codesOf_of_silent {ds : List Deed} (h : ∀ d ∈ ds, d.isSilent) : codesOf ds = [] :=
  List.filterMap_eq_nil_iff.mpr fun d hd => (h d hd).2.2

namespace Errand.Account

variable {e : Errand} {ds es : List Deed}

theorem append_silent (account : e.Account ds) (hs : ∀ d ∈ es, d.isSilent)
    (hp : ∀ d ∈ es, d.Common ∨ e.opens d ∨ d = .keep e.token) : e.Account (ds ++ es) := by
  have hentries : entriesOf (ds ++ es) = entriesOf ds := by
    rw [entriesOf_append, entriesOf_of_silent hs, List.append_nil]
  have hrecords : recordsOf (ds ++ es) = recordsOf ds := by
    rw [recordsOf_append, recordsOf_of_silent hs, List.append_nil]
  have hcodes : codesOf (ds ++ es) = codesOf ds := by
    rw [codesOf_append, codesOf_of_silent hs, List.append_nil]
  refine ⟨?_, ?_, ?_, ?_, ?_, ?_, ?_⟩
  · exact List.forall_mem_append.mpr ⟨account.permitted, hp⟩
  · rw [hentries]
    exact account.complaints
  · rw [hentries, hrecords]
    exact account.records
  · rw [hentries, hrecords]
    exact account.newest
  · rw [hrecords]
    exact account.thrown
  · rw [hcodes]
    exact account.codes
  · rw [hentries]
    exact account.lost

theorem of_ok {b : Builtin} {operands : List String} {token : Token} {P : Token → Prop}
    (conduct : Conduct (b.opens operands) (b == .gwd) (b.dues operands) P ds (.ok token)) :
    (Errand.command b operands).Account ds := by
  have hlost : (entriesOf ds).countP Entry.isLost = 0 := conduct.lost
  have hlosses : (Errand.command b operands).losses (entriesOf ds) = 0 := hlost
  refine ⟨?_, conduct.complaints, ?_, ?_, conduct.thrown, conduct.codes, ?_⟩
  · intro d hd
    exact (conduct.permitted d hd).imp_right Or.inl
  · rw [hlosses, conduct.records, Nat.add_zero]
  · intro h
    omega
  · omega

/-- A command that broke off leaves one more record, the newest. -/
theorem of_error {b : Builtin} {operands : List String} {cause : Failure} {P : Token → Prop}
    (conduct : Conduct (b.opens operands) (b == .gwd) (b.dues operands) P ds (.error cause))
    (name : String) (position : Nat) :
    (Errand.command b operands).Account (ds ++
      [.tell (.commandFailed name cause), .push (Record.ofKind .unknown),
        .tell (.unexpected position)]) := by
  have hlost : (entriesOf ds).countP Entry.isLost = 1 := conduct.lost
  have hlosses : (Errand.command b operands).losses (entriesOf ds) = 1 := hlost
  refine ⟨?_, ?_, ?_, ?_, ?_, ?_, ?_⟩
  · refine List.forall_mem_append.mpr ⟨?_, ?_⟩
    · intro d hd
      exact (conduct.permitted d hd).imp_right Or.inl
    · simp only [List.forall_mem_cons, List.not_mem_nil, false_implies, implies_true, and_true]
      exact ⟨Or.inl trivial, Or.inl fun _ => ⟨.unknown, by decide, rfl⟩, Or.inl trivial⟩
  · simpa [Errand.wanted, Errand.dues] using conduct.complaints
  · simp [hlosses, conduct.records]
  · simp
  · simpa [Errand.dues] using conduct.thrown
  · simpa [Errand.dues] using conduct.codes
  · simp [hlost]

theorem of_external {α : Type} {line : String} {P : α → Prop} {r : Except Failure α}
    (conduct : Conduct (Errand.external line).opens false {} P ds r) :
    (Errand.external line).Account ds := by
  refine ⟨?_, conduct.complaints, conduct.records, ?_, conduct.thrown, conduct.codes, ?_⟩
  · intro d hd
    exact (conduct.permitted d hd).imp_right Or.inl
  · intro h
    exact absurd h (Nat.lt_irrefl 0)
  · rw [conduct.lost]
    exact Bool.toNat_le _

end Errand.Account

namespace Interpreter

variable {W : Type}

theorem course_breakOff (h : Host W) (name : String) (cause : Failure) (s : State W) :
    Course h s [.tell (.commandFailed name cause), .push (Record.ofKind .unknown),
      .tell (.unexpected s.errors.count)] ((standard h).breakOff name cause s) := by
  rw [breakOff_eq]
  exact .cons (.tell s _) (.cons (.push _ _) (.single (.tell _ _)))

theorem runCommand_of_ok {sh : Interpreter W} {command : Command W} {name : String}
    {operands : List String} {s t : State W} {token : Token}
    (hr : (command.execute sh.commands.synopses name operands).run
      (sh.tell (.commandStarted (command.names.headD name) operands.length) s) = (.ok token, t)) :
    sh.runCommand command name operands s = (token, t) := by
  simp only [runCommand]
  rw [hr]

theorem runCommand_of_error {sh : Interpreter W} {command : Command W} {name : String}
    {operands : List String} {s t : State W} {cause : Failure}
    (hr : (command.execute sh.commands.synopses name operands).run
      (sh.tell (.commandStarted (command.names.headD name) operands.length) s) =
        (.error cause, t)) :
    sh.runCommand command name operands s = (.success, sh.breakOff name cause t) := by
  simp only [runCommand]
  rw [hr]

/-- A built-in command gives its token on every path and settles its account. -/
theorem account_runCommand (h : Host W) (b : Builtin) (name : String) (operands : List String)
    (s : State W) :
    ((standard h).runCommand (b.command h) name operands s).1 = b.token operands ∧
      ∃ ds, Course h s ds ((standard h).runCommand (b.command h) name operands s).2 ∧
        (Errand.command b operands).Account ds := by
  let started := Event.commandStarted ((b.command h).names.headD name) operands.length
  let synopses := (standard h).commands.synopses
  obtain ⟨ds, course, conduct⟩ :=
    b.abides h synopses name operands ((standard h).tell started s)
  have conduct := conduct.cons_silent (d := .tell started) (Or.inl trivial) rfl rfl rfl
  have course := Course.cons (.tell s started) course
  cases hr : ((b.command h).execute synopses name operands).run ((standard h).tell started s) with
  | mk result t =>
    rw [hr] at course conduct
    cases result with
    | ok token =>
      rw [runCommand_of_ok hr]
      exact ⟨conduct.value token rfl, _, course, .of_ok conduct⟩
    | error cause =>
      -- Only commands that would go on break off, and the interpreter goes on after them.
      have htoken : b.token operands = .success := Builtin.token_of_error (congrArg Prod.fst hr)
      rw [runCommand_of_error hr]
      exact ⟨htoken.symm, _, course.append (course_breakOff h name cause t),
        .of_error conduct name t.errors.count⟩

section

variable {sh : Interpreter W} {kind : Kind} {message : String} {item : Option String}
  {s t : State W}

theorem report_of_ok {u : Unit} (hr : (sh.host.fail kind message item).run s = (.ok u, t)) :
    sh.report kind message item s = t := by
  simp only [report, hr]

theorem report_of_error {cause : Failure}
    (hr : (sh.host.fail kind message item).run s = (.error cause, t)) :
    sh.report kind message item s = sh.tell (.errorLineLost cause) t := by
  simp only [report, hr]

end

/-- An error line outside of any command.  If it cannot be written, that is only told. -/
theorem conduct_report (h : Host W) {kind : Kind} (hk : kind ≠ .insufficientData)
    (message : String) (item : Option String) (s : State W) (may : Deed → Prop) (wanted : Bool) :
    ∃ ds es, Course h s (ds ++ es) ((standard h).report kind message item s) ∧
      (∃ r : Except Failure Unit, Conduct may wanted { own := 1 } (fun _ => True) ds r) ∧
      ∀ d ∈ es, d.isSilent ∧ d.Common := by
  have fails : (h.fail kind message item).Abides h may wanted { own := 1 } fun _ => True :=
    .fail hk message item
  obtain ⟨ds, course, conduct⟩ := fails s
  cases hr : (h.fail kind message item).run s with
  | mk result t =>
    rw [hr] at course conduct
    cases result with
    | ok _ =>
      rw [report_of_ok hr]
      exact ⟨ds, [], by rwa [List.append_nil], ⟨_, conduct⟩, by simp⟩
    | error cause =>
      rw [report_of_error hr]
      refine ⟨ds, [.tell (.errorLineLost cause)], course.append (.single (.tell t _)),
        ⟨_, conduct⟩, ?_⟩
      intro d hd
      obtain rfl := List.mem_singleton.mp hd
      exact ⟨⟨rfl, rfl, rfl⟩, trivial⟩

theorem account_runExternal (h : Host W) (line : String) (s : State W) :
    ((standard h).runExternal line s).1 = .success ∧
      ∃ ds, Course h s ds ((standard h).runExternal line s).2 ∧
        (Errand.external line).Account ds := by
  have made := Deed.Makes.call (h := h) s (.run line)
  simp only [Host.perform, Attempt.reply] at made
  have hcall : (Action.call (h.run line)).run s =
      ((h.run line s.world).1, { s with world := (h.run line s.world).2 }) := rfl
  let may := (Errand.external line).opens
  cases hr : (h.run line s.world).1 with
  | ok _ =>
    have hrun : (standard h).runExternal line s =
        (.success, { s with world := (h.run line s.world).2 }) := by
      simp only [runExternal, standard]
      rw [hcall, hr]
    rw [hr] at made
    rw [hrun]
    have conduct : Conduct may false {} (fun _ => True) [] (.ok ()) := .nil trivial
    exact ⟨rfl, _, .single made, .of_external (conduct.cons_call rfl rfl)⟩
  | error cause =>
    let t := (standard h).tell (.externalRefused cause line)
      { s with world := (h.run line s.world).2 }
    have hrun : (standard h).runExternal line s =
        (.success, (standard h).report .unknown "failed to run command" (some line) t) := by
      simp only [runExternal, standard]
      rw [hcall, hr]
      rfl
    rw [hr] at made
    rw [hrun]
    have hk : Kind.unknown ≠ .insufficientData := by decide
    obtain ⟨ds, es, course, ⟨r, conduct⟩, silent⟩ :=
      conduct_report h hk "failed to run command" (some line) t may false
    have conduct := conduct.cons_silent (d := .tell (.externalRefused cause line)) (Or.inl trivial)
      rfl rfl rfl
    have refused : Conduct may false {} (fun _ => True)
        (.call (.run line) (.error cause) :: .tell (.externalRefused cause line) :: ds) r :=
      conduct.cons_call rfl rfl
    have account := Errand.Account.of_external refused
    refine ⟨rfl, _, .cons made (.cons (.tell _ _) course), ?_⟩
    exact account.append_silent (fun d hd => (silent d hd).1) fun d hd => Or.inl (silent d hd).2

theorem answer_of_command (h : Host W) {name : String} {b : Builtin}
    (ho : Builtin.ofName? name = some b) (operands : List String) (s : State W) :
    (standard h).answer (name :: operands) s =
      (standard h).runCommand (b.command h) name operands s := by
  have hresolve := Builtin.resolve_table h name
  rw [ho, Option.map_some] at hresolve
  simp only [answer, standard, hresolve]

theorem answer_of_external (h : Host W) {name : String} (ho : Builtin.ofName? name = none)
    (operands : List String) (s : State W) :
    (standard h).answer (name :: operands) s =
      (standard h).runExternal (joinWords (name :: operands)) s := by
  have hresolve := Builtin.resolve_table h name
  rw [ho, Option.map_none] at hresolve
  simp only [answer, standard, hresolve]

/-- A dispatch gives the token of its errand, whatever the host answers, and its deeds add up. -/
theorem account_dispatch (h : Host W) (words : List String) (s : State W) :
    ((standard h).dispatch words s).1 = (Errand.ofWords words).token ∧
      ∃ ds, Course h s ds ((standard h).dispatch words s).2 ∧
        (Errand.ofWords words).Account ds := by
  have hanswer : ((standard h).answer words s).1 = (Errand.ofWords words).token ∧
      ∃ ds, Course h s ds ((standard h).answer words s).2 ∧
        (Errand.ofWords words).Account ds := by
    cases words with
    | nil =>
      refine ⟨rfl, [], .nil s, ⟨by simp, rfl, rfl, ?_, rfl, rfl, Nat.zero_le 1⟩⟩
      intro hlosses
      exact absurd hlosses (Nat.lt_irrefl 0)
    | cons name operands =>
      cases ho : Builtin.ofName? name with
      | none =>
        rw [answer_of_external h ho, Errand.ofWords_external ho]
        exact account_runExternal h (joinWords (name :: operands)) s
      | some b =>
        rw [answer_of_command h ho, Errand.ofWords_command ho]
        exact account_runCommand h b name operands s
  obtain ⟨htoken, ds, course, account⟩ := hanswer
  refine ⟨htoken, ds ++ [.tell (.dispatched (Errand.ofWords words).token),
    .keep (Errand.ofWords words).token], ?_, ?_⟩
  · refine course.append ?_
    simp only [dispatch, htoken]
    exact .cons (.tell _ _) (.single (.keep _ _))
  · refine account.append_silent ?_ ?_
    · simp [Deed.isSilent]
    · simp [Deed.Common]

end Interpreter
end LineShell
