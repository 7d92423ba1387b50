import LineShell.Proofs.Accounting
import LineShell.Proofs.Outcome
import LineShell.Proofs.Listener
import LineShell.Proofs.Words

/-!
# What reaches the host's shell

A line reaches the host's shell in one of two ways: its first word is no name of the table, or it is
a name of the shell command and there are words behind it.  `forwarded_of_loop` says that a loop
hands over exactly one command line for each line of these kinds that it reads, in their order, and
nothing else, whatever the host makes of it.  Nothing is lost on the way: a command line has the
words that it was joined from.
-/

namespace LineShell

variable {W : Type}

/-! ## Words that are handed over -/

/-- The words that a line hands to the host's shell, if it hands any over. -/
def Registry.forwarded? (table : Registry W) : List String → Option (List String)
  | [] => none
  | name :: operands =>
    if table.contains name then
      if name ∈ ["sh", "sys", "system"] ∧ operands ≠ [] then some operands else none
    else some (name :: operands)

theorem contains_table (h : Host W) (name : String) :
    (Standard.table h).contains name = (Builtin.ofName? name).isSome := by
  have hcontains : (Standard.table h).contains name = _ :=
    (Registry.sound_ofList _).contains_eq name
  have hresolve := congrArg Option.isSome (Builtin.resolve_table h name)
  rw [Option.isSome_map] at hresolve
  exact hcontains.trans hresolve

theorem forwarded?_table {V : Type} (h : Host V) (h' : Host W) :
    (Standard.table h).forwarded? = (Standard.table h').forwarded? := by
  funext words
  cases words with
  | nil => simp only [Registry.forwarded?]
  | cons name operands => simp only [Registry.forwarded?, contains_table]

theorem forwarded?_of_external (h : Host W) {name : String} (ho : Builtin.ofName? name = none)
    (operands : List String) :
    (Standard.table h).forwarded? (name :: operands) = some (name :: operands) := by
  simp [Registry.forwarded?, contains_table, ho]

theorem forwarded?_of_system (h : Host W) {name : String}
    (ho : Builtin.ofName? name = some .system) (operands : List String) :
    (Standard.table h).forwarded? (name :: operands) =
      if operands ≠ [] then some operands else none := by
  have hname : name ∈ ["sh", "sys", "system"] := Builtin.ofName?_eq_some_iff.mp ho
  have hcontains : (Standard.table h).contains name = true := by rw [contains_table, ho]; rfl
  simp only [Registry.forwarded?, hcontains, hname, if_true, true_and]

theorem forwarded?_of_other (h : Host W) {name : String} {b : Builtin}
    (ho : Builtin.ofName? name = some b) (hb : b ≠ .system) (operands : List String) :
    (Standard.table h).forwarded? (name :: operands) = none := by
  have hname : name ∉ ["sh", "sys", "system"] := by
    intro hname
    have hsystem : Builtin.ofName? name = some .system := Builtin.ofName?_eq_some_iff.mpr hname
    rw [ho] at hsystem
    exact hb (Option.some.inj hsystem)
  have hcontains : (Standard.table h).contains name = true := by rw [contains_table, ho]; rfl
  simp only [Registry.forwarded?, hcontains, hname, if_true, false_and, if_false]

theorem Registry.sublist_of_forwarded? {table : Registry W} {words forwarded : List String}
    (hf : table.forwarded? words = some forwarded) : forwarded.Sublist words := by
  cases words with
  | nil => cases hf
  | cons name operands =>
    simp only [Registry.forwarded?] at hf
    split_ifs at hf
    · cases hf
      exact List.sublist_cons_self _ _
    · cases hf
      exact List.Sublist.refl _

/-! ## Calls of the shell -/

def Call.commandLine? : Call → Option String
  | .run text => some text
  | _ => none

/-- The command lines that were handed to the shell, in order, whether they could be run or not. -/
def runsIn (entries : List Entry) : List String := entries.filterMap (·.call.commandLine?)

@[simp] theorem runsIn_nil : runsIn [] = [] := rfl

@[simp] theorem runsIn_cons (e : Entry) (entries : List Entry) :
    runsIn (e :: entries) = e.call.commandLine?.toList ++ runsIn entries :=
  filterMap_cons_toList _ e entries

@[simp] theorem runsIn_append (entries entries' : List Entry) :
    runsIn (entries ++ entries') = runsIn entries ++ runsIn entries' := List.filterMap_append

theorem runsIn_eq_nil {ds : List Deed} (h : ∀ line answer, .call (.run line) answer ∉ ds) :
    runsIn (entriesOf ds) = [] := by
  refine List.filterMap_eq_nil_iff.mpr fun e he => ?_
  obtain ⟨d, hd, hentry⟩ := List.mem_filterMap.mp he
  cases d with
  | call c answer =>
    cases hentry
    cases c with
    | run line => exact absurd hd (h line answer)
    | _ => rfl
  | _ => cases hentry

theorem runsIn_of_common {ds : List Deed} (common : ∀ d ∈ ds, d.Common) :
    runsIn (entriesOf ds) = [] := by
  refine runsIn_eq_nil fun line answer hd => ?_
  cases common _ hd

/-- The first deed hands a command line over, and those behind it only write and record. -/
def HandsOver (line : String) (ds : List Deed) : Prop :=
  ∃ answer rest, ds = .call (.run line) answer :: rest ∧ ∀ d ∈ rest, d.Common

theorem HandsOver.runs {line : String} {ds : List Deed} (hands : HandsOver line ds) :
    runsIn (entriesOf ds) = [line] := by
  obtain ⟨answer, rest, rfl, common⟩ := hands
  simp [Call.commandLine?, runsIn_of_common common]

theorem Standard.course_runLine (h : Host W) (line : String) (s : State W) :
    ∃ ds, Course h s ds ((runLine h line).run s).2 ∧ HandsOver line ds := by
  cases hr : h.run line s.world with
  | mk answer w =>
    have made : Deed.Makes h s (.call (.run line) (answer.map fun _ => .done))
        { s with world := w } :=
      .of_perform (by simp [Host.perform, Attempt.reply, hr])
    unfold runLine
    rw [Action.run_attempt_bind hr]
    cases answer with
    | ok _ => exact ⟨_, .single made, _, [], rfl, by simp⟩
    | error cause =>
      let rejection : Action W Token := do
        h.tell (.shellRefused cause line)
        h.reject .unknown "failed to run command" (some line)
      have rejects : rejection.Abides h (fun _ => False) false { own := 1 } (· = .success) :=
        .tell (.reject (by decide) _ _)
      obtain ⟨ds, course, conduct⟩ := rejects { s with world := w }
      refine ⟨_, .cons made course, _, ds, rfl, fun d hd => ?_⟩
      exact (conduct.permitted d hd).resolve_right id

namespace Interpreter

theorem course_runExternal (h : Host W) (line : String) (s : State W) :
    ∃ ds, Course h s ds ((standard h).runExternal line s).2 ∧ HandsOver line ds := by
  cases hr : h.run line s.world with
  | mk answer w =>
    have made : Deed.Makes h s (.call (.run line) (answer.map fun _ => .done))
        { s with world := w } :=
      .of_perform (by simp [Host.perform, Attempt.reply, hr])
    simp only [runExternal, standard, Action.run_call hr]
    cases answer with
    | ok _ => exact ⟨_, .single made, _, [], rfl, by simp⟩
    | error cause =>
      let told := (standard h).tell (.externalRefused cause line) { s with world := w }
      have hk : Kind.unknown ≠ .insufficientData := by decide
      obtain ⟨ds, es, course, ⟨r, conduct⟩, silent⟩ := conduct_report h hk
        "failed to run command" (some line) told (fun _ => False) false
      refine ⟨_, .cons made (.cons (.tell _ _) course), _, _, rfl, ?_⟩
      refine List.forall_mem_cons.mpr ⟨trivial, List.forall_mem_append.mpr ⟨?_, ?_⟩⟩
      · exact fun d hd => (conduct.permitted d hd).resolve_right id
      · exact fun d hd => (silent d hd).2

/-- A dispatch hands over what its words ask for and nothing else. -/
theorem course_forwarded (h : Host W) (words : List String) (s : State W) :
    ∃ ds, Course h s ds ((standard h).dispatch words s).2 ∧
      runsIn (entriesOf ds) = (((Standard.table h).forwarded? words).map joinWords).toList := by
  -- Most commands may not call the shell at all, which their account says.  That it is called once
  -- is read off the courses of the two errands that do.
  obtain ⟨-, ds, course, account⟩ := account_dispatch h words s
  have hnone (hruns : ∀ line answer, ¬ (Errand.ofWords words).opens (.call (.run line) answer)) :
      runsIn (entriesOf ds) = [] := by
    refine runsIn_eq_nil fun line answer hd => ?_
    rcases account.permitted _ hd with hcommon | hopens | hkeep
    · cases hcommon
    · exact hruns line answer hopens
    · cases hkeep
  cases words with
  | nil => exact ⟨ds, course, hnone fun _ _ => id⟩
  | cons name operands =>
    cases ho : Builtin.ofName? name with
    | none =>
      obtain ⟨es, ran, hands⟩ := course_runExternal h (joinWords (name :: operands)) s
      have hanswer := answer_of_external h ho operands s
      have ended : Course h ((standard h).answer (name :: operands) s).2 _
          ((standard h).dispatch (name :: operands) s).2 :=
        .cons (.tell _ _) (.single (.keep _ _))
      rw [← hanswer] at ran
      refine ⟨_, ran.append ended, ?_⟩
      rw [entriesOf_append, runsIn_append, hands.runs, forwarded?_of_external h ho]
      simp
    | some b =>
      by_cases hb : b = .system ∧ operands ≠ []
      · obtain ⟨rfl, hne⟩ := hb
        obtain ⟨event, synopses, typed, after, ended, still⟩ :=
          course_dispatch h (Errand.ofWords_command ho operands) s
        obtain ⟨es, ran, hands⟩ :=
          Standard.course_runLine h (joinWords operands) ((standard h).tell event s)
        have hexecute : ((Builtin.system.command h).execute synopses typed operands) =
            Standard.runLine h (joinWords operands) := by
          cases operands with
          | nil => exact absurd rfl hne
          | cons word rest => rfl
        rw [hexecute] at ended
        have begun : Course h s [.tell event] ((standard h).tell event s) := .single (.tell s event)
        refine ⟨_, (begun.append ran).append ended, ?_⟩
        rw [entriesOf_between (by simp [Deed.Still]) still, hands.runs, forwarded?_of_system h ho,
          if_pos hne]
        rfl
      · refine ⟨ds, course, ?_⟩
        rw [hnone]
        · by_cases hsystem : b = .system
          · subst hsystem
            obtain rfl : operands = [] := by simpa using hb
            rw [forwarded?_of_system h ho, if_neg (by simp)]
            rfl
          · rw [forwarded?_of_other h ho hsystem]
            rfl
        · rw [Errand.ofWords_command ho]
          rintro line answer ⟨hsystem, hne, -⟩
          exact hb ⟨hsystem, hne⟩

/-! ## Runs -/

theorem law_forwarded (h : Host W) :
    Law (standard h.journaled) Journal.Aside fun argvs s t =>
      runsIn t.world.entries = runsIn s.world.entries ++
        (argvs.filterMap (Standard.table h.journaled).forwarded?).map joinWords where
  refl s := by simp
  trans first second := by simp [second, first]
  dispatch words s := by
    obtain ⟨ds, course, hruns⟩ := course_forwarded h.journaled words s
    rw [course.entries, runsIn_append, hruns, filterMap_cons_toList]
    cases (Standard.table h.journaled).forwarded? words <;> rfl
  tell _ _ := by simp [tell, standard]
  aside _ _ hw := by
    have hw : _ = _ := hw
    simp [hw]
  reset _ := by simp

theorem linesRead_ofLines (h : Host W) (showPrompt : String → W → W) (ending : Ending)
    (lines : List String) (s : State W) :
    (standard h).linesRead showPrompt (.ofLines ending lines) s =
      lines.takeWhile (!endsSession ·) ++ (lines.dropWhile (!endsSession ·)).head?.toList := by
  have hread := linesRead_append_unread (standard h) showPrompt ending lines s
  have hunread := (readLines_ofLines h showPrompt ending lines s).2.1
  rw [hunread] at hread
  have hlines : lines = lines.takeWhile (!endsSession ·) ++
      (lines.dropWhile (!endsSession ·)).head?.toList ++
      (lines.dropWhile (!endsSession ·)).tail := by
    conv_lhs => rw [← List.takeWhile_append_dropWhile (p := (!endsSession ·)) (l := lines)]
    rw [List.append_assoc]
    cases lines.dropWhile (!endsSession ·) <;> rfl
  exact List.append_cancel_right (hread.trans hlines)

theorem runs_loop (h : Host W) (showPrompt : String → W → W) (ending : Ending)
    (lines : List String) (s : State W) :
    let source : LineSource W := { supply := .ofLines ending lines, showPrompt }
    let read := lines.takeWhile (!endsSession ·) ++ (lines.dropWhile (!endsSession ·)).head?.toList
    runsIn (h.callsOfLoop source s) =
      ((read.map tokenize).filterMap (Standard.table h).forwarded?).map joinWords := by
  intro source read
  have hsupply : source.journaled.supply = .ofLines ending lines :=
    Supply.journaled_ofLines ending lines
  have within : source.journaled.supply.Within Journal.Aside := source.supply.within_journaled
  have hshow (prompt : String) (w : Journal W) :
      Journal.Aside w (source.journaled.showPrompt prompt w) := rfl
  have hruns := (law_forwarded h).readLines hshow within s.journaled
  rw [hsupply, linesRead_ofLines, forwarded?_table h.journaled h, ← hsupply] at hruns
  exact hruns

/-- What is forwarded as it was typed is forwarded again when it is typed again. -/
theorem runs_retyped (h : Host W) {line name : String} {operands : List String}
    (hline : tokenize line = name :: operands)
    (hname : (Standard.table h).contains name = false) (s : State W) :
    runsIn (h.callsOfRun [.line (joinWords (name :: operands))] s) =
      [joinWords (name :: operands)] := by
  have hwords : tokenize (joinWords (name :: operands)) = name :: operands :=
    tokenize_joinWords fun word hword => isWord_of_mem_tokenize (hline ▸ hword)
  have ho : Builtin.ofName? name = none := by simpa [contains_table] using hname
  obtain ⟨ds, course, hruns⟩ := course_forwarded h.journaled (name :: operands) s.journaled
  have hcalls : h.callsOfRun [.line (joinWords (name :: operands))] s =
      ((standard h.journaled).dispatch (tokenize (joinWords (name :: operands)))
        s.journaled).2.world.entries := rfl
  rw [hcalls, hwords, course.entries, runsIn_append, hruns, forwarded?_of_external h.journaled ho]
  rfl

/-- Of the lines that a loop reads, the one that ends it included, exactly those reach the host's
shell whose first word is no name of the table, with all of their words, and those that name the
shell command and have more words, with the words behind the name.  Each is handed over once, in the
order of the lines, and whether it can be run or reported makes no difference.  A command line that
was handed over is cut into the words it was joined from, and so a line that was forwarded for its
unknown name comes out the same when it is typed again. -/
theorem forwarded_of_loop (h : Host W) (showPrompt : String → W → W) (ending : Ending)
    (lines : List String) (s : State W) :
    let source : LineSource W := { supply := .ofLines ending lines, showPrompt }
    let read := lines.takeWhile (!endsSession ·) ++ (lines.dropWhile (!endsSession ·)).head?.toList
    let forwarded := (read.map tokenize).filterMap (Standard.table h).forwarded?
    runsIn (h.callsOfLoop source s) = forwarded.map joinWords ∧
      (∀ words ∈ forwarded, tokenize (joinWords words) = words) ∧
      ∀ line name operands, tokenize line = name :: operands →
        (Standard.table h).contains name = false →
        (Standard.table h).forwarded? (tokenize line) = some (name :: operands) ∧
          ∀ t, runsIn (h.callsOfRun [.line (joinWords (name :: operands))] t) =
            [joinWords (name :: operands)] := by
  intro source read forwarded
  refine ⟨runs_loop h showPrompt ending lines s, fun words hwords => ?_, ?_⟩
  · obtain ⟨said, hsaid, hforwarded⟩ := List.mem_filterMap.mp hwords
    obtain ⟨line, -, rfl⟩ := List.mem_map.mp hsaid
    refine tokenize_joinWords fun word hword => ?_
    have hsaid : word ∈ tokenize line :=
      (Registry.sublist_of_forwarded? hforwarded).subset hword
    exact isWord_of_mem_tokenize hsaid
  · intro line name operands hline hname
    have ho : Builtin.ofName? name = none := by simpa [contains_table] using hname
    refine ⟨?_, runs_retyped h hline hname⟩
    rw [hline, forwarded?_of_external h ho]

/-- A command in capital letters is none, the shell command needs words, and nothing is read behind
the line that ends the loop. -/
example :
    let lines := ["PRINT  a", "print b", "sh", " sys ls\t-l", "EXIT", "q now", "uname"]
    let source : LineSource String :=
      { supply := .ofLines .endOfInput lines, showPrompt := fun _ w => w }
    let session : Session := { cwd := "/", home := "/", user := "user" }
    runsIn (Host.bare.callsOfLoop source { session, errors := {}, world := "/" }) =
      ["PRINT a", "ls -l", "EXIT"] := by
  decide +kernel

end Interpreter
end LineShell
