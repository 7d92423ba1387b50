import LineShell.Proofs.Bounds
import LineShell.Proofs.Passage

/-!
# How the process starts

The arguments of the process lead to one of six invocations, and which one is for a parser of flags
to say, except for the command flag.  `ReadsFlags` is what is relied on of the parser.
`launch_entrance` says for all arguments whether the input is opened, which lines are written, when
the process ends in a failure, with which code it ends if not, and what is left in the log; and that
a home directory which cannot be entered makes no difference to any of this.
-/

namespace LineShell

variable {W : Type}

/-! ## Arguments -/

namespace Checked

open Invocation

/-- What a parser makes of one flag, with a value if the flag takes one and there is one.  How it
explains the flags, and what it says of a flag that it does not know, is its own. -/
structure ReadsFlags (parse : List String → Invocation) : Prop where
  version : parse ["--version"] = .version
  directory : ∀ path, parse ["--directory", path] = .directory path
  missing : ∃ text, parse ["--directory"] = .invalid text
  ended : parse [endOfFlags] = .interactive
  help : ∀ flag ∈ helpFlags, ∃ text, parse [flag] = .help text
  unknown : ∀ flag ∉ versionFlags ++ directoryFlags ++ endOfFlags :: helpFlags,
    ∃ text, parse [flag] = .invalid text

theorem readsFlags_readFlag : ReadsFlags readFlag where
  version := rfl
  directory _ := rfl
  missing := ⟨_, rfl⟩
  ended := rfl
  help flag hflag := by
    simp only [helpFlags, List.mem_cons, List.not_mem_nil, or_false] at hflag
    rcases hflag with rfl | rfl
    · exact ⟨_, rfl⟩
    · exact ⟨_, rfl⟩
  unknown flag hflag := by
    simp only [List.mem_append, List.mem_cons, not_or] at hflag
    obtain ⟨⟨hversion, hdirectory⟩, hend, hhelp⟩ := hflag
    rw [readFlag_of_not_mem hversion hdirectory, if_neg hend, if_neg hhelp]
    exact ⟨_, rfl⟩

section

variable {parse : List String → Invocation}

theorem ofArgs_cons (first : String) (rest : List String) :
    ofArgs parse (first :: rest) = some (
      if first ∈ commandFlags then .command rest
      else if first ∈ versionFlags then parse ["--version"]
      else if first ∈ directoryFlags then parse ("--directory" :: rest.take 1)
      else parse [first]) := by
  simp only [ofArgs, List.head?_cons, slice_tail, flagWords_cons]
  split_ifs <;> rfl

theorem ofArgs_command {flag : String} (hflag : flag ∈ commandFlags) (words : List String) :
    ofArgs parse (flag :: words) = some (.command words) := by
  rw [ofArgs_cons, if_pos hflag]

/-- A flag other than that of a command sees at most one argument after it, and only if it takes a
directory. -/
theorem ofArgs_ignores {first : String} (hfirst : first ∉ commandFlags) (rest : List String) :
    ofArgs parse (first :: rest) =
      ofArgs parse (first :: rest.take (if first ∈ directoryFlags then 1 else 0)) := by
  rw [ofArgs_cons, ofArgs_cons, if_neg hfirst, if_neg hfirst]
  by_cases hd : first ∈ directoryFlags
  · simp only [if_pos hd, List.take_take, min_self]
  · simp only [if_neg hd]

/-- What the first argument has the process do. -/
inductive Classified : List String → Invocation → Prop
  | none : Classified [] .interactive
  | command {flag : String} (hflag : flag ∈ commandFlags) (words : List String) :
      Classified (flag :: words) (.command words)
  | version {flag : String} (hflag : flag ∈ versionFlags) (rest : List String) :
      Classified (flag :: rest) .version
  | directory {flag : String} (hflag : flag ∈ directoryFlags) (path : String)
      (rest : List String) : Classified (flag :: path :: rest) (.directory path)
  | missing {flag : String} (hflag : flag ∈ directoryFlags) (text : String) :
      Classified [flag] (.invalid text)
  | ended (rest : List String) : Classified (endOfFlags :: rest) .interactive
  | help {flag : String} (hflag : flag ∈ helpFlags) (rest : List String) (text : String) :
      Classified (flag :: rest) (.help text)
  | unknown {flag : String}
      (hflag : flag ∉ commandFlags ++ versionFlags ++ directoryFlags ++ endOfFlags :: helpFlags)
      (rest : List String) (text : String) : Classified (flag :: rest) (.invalid text)

theorem ReadsFlags.classified (reads : ReadsFlags parse) (args : List String) :
    ∃ invocation, ofArgs parse args = some invocation ∧ Classified args invocation := by
  cases args with
  | nil => exact ⟨.interactive, rfl, .none⟩
  | cons first rest =>
    rw [ofArgs_cons]
    refine ⟨_, rfl, ?_⟩
    by_cases hcommand : first ∈ commandFlags
    · rw [if_pos hcommand]
      exact .command hcommand rest
    by_cases hversion : first ∈ versionFlags
    · rw [if_neg hcommand, if_pos hversion, reads.version]
      exact .version hversion rest
    by_cases hdirectory : first ∈ directoryFlags
    · rw [if_neg hcommand, if_neg hversion, if_pos hdirectory]
      cases rest with
      | nil =>
        obtain ⟨text, htext⟩ := reads.missing
        rw [List.take_nil, htext]
        exact .missing hdirectory text
      | cons path rest =>
        rw [List.take_succ_cons, List.take_zero, reads.directory]
        exact .directory hdirectory path rest
    rw [if_neg hcommand, if_neg hversion, if_neg hdirectory]
    by_cases hend : first = endOfFlags
    · rw [hend, reads.ended]
      exact .ended rest
    by_cases hhelp : first ∈ helpFlags
    · obtain ⟨text, htext⟩ := reads.help first hhelp
      rw [htext]
      exact .help hhelp rest text
    · have hflag : first ∉ versionFlags ++ directoryFlags ++ endOfFlags :: helpFlags := by
        simp [hversion, hdirectory, hend, hhelp]
      obtain ⟨text, htext⟩ := reads.unknown first hflag
      rw [htext]
      refine .unknown ?_ rest text
      simp [hcommand, hversion, hdirectory, hend, hhelp]

end

namespace Classified

variable {args : List String} {invocation : Invocation}

theorem interactive_iff (classified : Classified args invocation) :
    invocation = .interactive ↔ args = [] ∨ args.head? = some endOfFlags := by
  have apart : ∀ flag ∈ commandFlags ++ versionFlags ++ directoryFlags ++ helpFlags,
      flag ≠ endOfFlags := by decide
  cases classified with
  | none => simp
  | ended rest => simp
  | @command flag hflag => simp [apart flag (by simp [hflag])]
  | @version flag hflag => simp [apart flag (by simp [hflag])]
  | @directory flag hflag => simp [apart flag (by simp [hflag])]
  | @missing flag hflag => simp [apart flag (by simp [hflag])]
  | @help flag hflag => simp [apart flag (by simp [hflag])]
  | unknown hflag =>
    simp only [List.mem_append, List.mem_cons, not_or] at hflag
    simp [hflag.2.1]

theorem directory_iff (classified : Classified args invocation) {path : String} :
    invocation = .directory path ↔
      ∃ flag rest, args = flag :: path :: rest ∧ flag ∈ directoryFlags := by
  have apart : ∀ flag ∈ commandFlags ++ versionFlags ++ endOfFlags :: helpFlags,
      flag ∉ directoryFlags := by decide
  cases classified with
  | none => simp
  | directory hflag => simp [hflag, eq_comm]
  | missing => simp
  | ended rest => simp [apart endOfFlags (by simp)]
  | @command flag hflag => simp [apart flag (by simp [hflag])]
  | @version flag hflag => simp [apart flag (by simp [hflag])]
  | @help flag hflag => simp [apart flag (by simp [hflag])]
  | unknown hflag =>
    simp only [List.mem_append, not_or] at hflag
    simp [hflag.1.2]

end Classified
end Checked

namespace Interpreter

theorem admits_iff {args : List String} {invocation : Invocation}
    (classified : Checked.Classified args invocation) (sh : Interpreter W) (s : State W) :
    sh.Admits s invocation ↔ args = [] ∨ args.head? = some "--" ∨
      ∃ flag path rest, args = flag :: path :: rest ∧ flag ∈ Invocation.directoryFlags ∧
        (sh.changeDir path (sh.tell (.launching (.directory path)) s)).1 = .ok () := by
  rw [← or_assoc, ← Invocation.endOfFlags, ← classified.interactive_iff]
  constructor
  · intro admits
    cases invocation with
    | interactive => exact .inl rfl
    | directory path =>
      obtain ⟨flag, rest, hargs, hflag⟩ := classified.directory_iff.mp rfl
      exact .inr ⟨flag, path, rest, hargs, hflag, admits⟩
    | _ => exact admits.elim
  · rintro (rfl | ⟨flag, path, rest, hargs, hflag, hchange⟩)
    · trivial
    · obtain rfl := classified.directory_iff.mpr ⟨flag, rest, hargs, hflag⟩
      exact hchange

/-! ## From the arguments to the end of the process -/

/-- What holds of a launch of the process with given arguments: of the invocation that they lead to,
its outcome, the state it leaves, the openings of the input and the calls on the host. -/
structure Entrance (h : Host W) (openSource : Attempt W (LineSource W))
    (parse : List String → Invocation) (args : List String) (s : State W)
    (invocation : Invocation) (outcome : Outcome) (t : State W) (openings : List Opening)
    (calls : List Entry) : Prop where
  classified : Checked.Classified args invocation
  once : openings.length ≤ 1
  opened : openings ≠ [] ↔ args = [] ∨ args.head? = some "--" ∨
    ∃ flag path rest, args = flag :: path :: rest ∧ flag ∈ Invocation.directoryFlags ∧
      ((standard h).changeDir path ((standard h).tell (.launching (.directory path)) s)).1 = .ok ()
  /-- The session runs from its origin.  On the way there nothing is recorded and nothing written,
  and a home that cannot be entered makes no difference to this. -/
  started : openings ≠ [] →
    let start := (standard h).origin s invocation
    (standard h).converse openSource start = (outcome, t) ∧ start.errors = s.errors ∧
      ∀ o ∈ openings, ∀ e ∈ o.calls, e.call.isOutput = false
  ignored : ∀ first rest, args = first :: rest → first ∉ Invocation.commandFlags →
    Checked.ofArgs parse args = Checked.ofArgs parse
      (first :: rest.take (if first ∈ Invocation.directoryFlags then 1 else 0))
  /-- A command gets all arguments after its flag as its words. -/
  passed : ∀ flag words, args = flag :: words → flag ∈ Invocation.commandFlags → words ≠ [] →
    let u := ((standard h).dispatch words ((standard h).tell (.launching (.command words)) s)).2
    outcome.result = .ok u.session.code ∧ t.session = u.session
  failed : (∃ cause, outcome.result = .error cause) ↔
    (∃ o ∈ openings, ∃ cause, o.answer = .error cause) ∨
      ∃ lines, invocation.lines? = some lines ∧
        ∃ text ∈ lines, ∃ cause, ⟨.line text, .error cause⟩ ∈ calls
  /-- The lines of an invocation that only writes are written in order, up to the first that fails,
  and the process ends as this does.  An error line may come before them. -/
  told : ∀ lines, invocation.lines? = some lines → ∃ before written result,
    calls = before ++ written ∧ before.map Entry.call = invocation.complaints ∧
      WritesInOrder lines written result ∧
      outcome.result = result.map fun _ => invocation.code t.session
  /-- Once the input is open, the process ends as the session over it does. -/
  looped : (∃ o ∈ openings, o.answer = .ok ()) →
    let start := (standard h).origin s invocation
    ∃ source w code reading, openSource start.world = (.ok source, w) ∧
      (standard h).loop source { start with world := w } = (code, reading, t) ∧
      outcome = { result := .ok code, reading := some reading }
  code : ∀ c, outcome.result = .ok c → c = invocation.code t.session
  cleared : (∃ o ∈ openings, o.answer = .ok ()) ∨
    (∃ words, invocation = .command words) → t.errors = {}
  log : (∀ o ∈ openings, o.answer ≠ .ok ()) → (∀ words, invocation ≠ .command words) →
    t.errors.records = s.errors.records ++ invocation.records (!openings.isEmpty)

/-- From its arguments to its end, a process does what `Entrance` says, on every host, for every way
in which the input may or may not be opened, and for every parser that reads the flags. -/
theorem launch_entrance (h : Host W) (openSource : Attempt W (LineSource W))
    {parse : List String → Invocation} (reads : Checked.ReadsFlags parse) (args : List String)
    (s : State W) :
    ∃ invocation, Checked.ofArgs parse args = some invocation ∧
      let (outcome, t) := (standard h).launch invocation openSource s
      Entrance h openSource parse args s invocation outcome t
        (h.openingsOf openSource invocation s) (h.callsOfLaunch openSource invocation s) := by
  obtain ⟨invocation, hargs, classified⟩ := reads.classified args
  refine ⟨invocation, hargs, ?_⟩
  have passage := passage_launch h openSource invocation s
  cases hlaunch : (standard h).launch invocation openSource s with
  | mk outcome t =>
    rw [hlaunch] at passage
    have opened := passage.opened.trans (admits_iff classified (standard h) s)
    refine ⟨classified, passage.once, opened, passage.started, ?_, ?_, passage.failed,
      fun _ => passage.told, passage.looped, passage.code, passage.cleared, passage.log⟩
    · rintro first rest rfl hfirst
      exact Checked.ofArgs_ignores hfirst rest
    · rintro flag words rfl hflag hwords u
      obtain rfl : invocation = .command words :=
        Option.some.inj (hargs.symm.trans (Checked.ofArgs_command hflag words))
      obtain ⟨-, v, -, hended, hv⟩ := launch_command h openSource words s
      rw [hended, hv hwords] at hlaunch
      cases hlaunch
      exact ⟨rfl, rfl⟩

/-- A terminal that cannot be opened ends the process, also in a directory that could be entered. -/
theorem launch_entrance_shut :
    let s : State String :=
      { session := { cwd := "/", home := "/", user := "user" }, errors := {}, world := "/" }
    let shut : Attempt String (LineSource String) := .refuse (.other "no terminal")
    let launched := (standard Host.bare).launch (.directory "a") shut s
    Checked.ReadsFlags Checked.readFlag ∧
      Checked.ofArgs Checked.readFlag ["-ld", "a", "-c"] = some (.directory "a") ∧
      Host.bare.openingsOf shut (.directory "a") s ≠ [] ∧
      launched.1.result = .error (.other "no terminal") ∧ launched.2.session.cwd = "a" := by
  intro s shut launched
  have reads : Checked.ReadsFlags Checked.readFlag := Checked.readsFlags_readFlag
  obtain ⟨invocation, hargs, entrance⟩ :=
    launch_entrance Host.bare shut reads ["-ld", "a", "-c"] s
  obtain rfl : invocation = .directory "a" :=
    Option.some.inj (hargs.symm.trans (Checked.ofArgs_readFlag _))
  have opened := entrance.opened.mpr (.inr (.inr ⟨"-ld", "a", ["-c"], rfl, by decide, rfl⟩))
  exact ⟨reads, hargs, opened, rfl, rfl⟩

end Interpreter
end LineShell
