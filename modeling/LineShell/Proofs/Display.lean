import LineShell.Proofs.Execution
import LineShell.Proofs.Registrations
import LineShell.Proofs.Words

/-!
# What is written of words and of the table

Printing joins words, and cutting the printed line gives the words back.  Help lists a table: it
writes a line for each registration that a dispatch still leads to, and no other, so that whatever
can be run is found in the list under every name by which it can be run.
-/

namespace LineShell

variable {W : Type}

/-! ## Printing words -/

namespace Interpreter

/-- Printing is one call, with the operands as one line. -/
theorem callsOf_print (h : Host W) {name : String} (hname : name ∈ ["stdout", "print"])
    (operands : List String) (s : State W) :
    ∃ answer, h.callsOf (name :: operands) s = [⟨.line (joinWords operands), answer⟩] := by
  have ho : Builtin.ofName? name = some .print := Builtin.ofName?_eq_some_iff.mpr hname
  obtain ⟨event, synopses, comes⟩ := comes_to_of_does h ho operands s
  obtain ⟨told, t, printed⟩ := Action.Does.print (h := h.journaled) (joinWords operands)
    ((standard h.journaled).tell event s.journaled)
  exact ⟨_, (comes _ _ t (printed.bind_pure Token.success)).calls⟩

/-- A line is cut into the only words without blanks that make it together with the gaps around
them, of which none but the first and the last may be empty.  So a gap cuts a line in two, words
that are joined are found again, and what is printed of the words of a line is cut into the same
words. -/
theorem words_of_line (h : Host W) :
    (∀ line words, Splits line words ↔ words = tokenize line) ∧
    (∀ line gap rest, IsGap gap → gap ≠ "" →
      tokenize (line ++ gap ++ rest) = tokenize line ++ tokenize rest) ∧
    (∀ line, tokenize (joinWords (tokenize line)) = tokenize line) ∧
    (∀ words, (∀ word ∈ words, IsWord word) → tokenize (joinWords words) = words) ∧
    ∀ line name operands s, tokenize line = name :: operands → name ∈ ["stdout", "print"] →
      ∃ text answer, h.callsOf (tokenize line) s = [⟨.line text, answer⟩] ∧
        tokenize text = operands := by
  refine ⟨fun line words => ?_, fun line gap rest hgap hne => ?_, fun line => ?_,
    fun words => tokenize_joinWords, fun line name operands s hline hname => ?_⟩
  · rw [splits_iff, eq_comm]
  · exact tokenize_append_gap line hgap hne rest
  · exact tokenize_joinWords fun word => isWord_of_mem_tokenize
  · obtain ⟨answer, hcalls⟩ := callsOf_print h hname operands s
    have hwords : ∀ word ∈ operands, IsWord word := fun word hword =>
      isWord_of_mem_tokenize (hline ▸ List.mem_cons_of_mem name hword)
    rw [hline]
    exact ⟨joinWords operands, answer, hcalls, tokenize_joinWords hwords⟩

end Interpreter

/-! ## Help -/

/-- The line of help, put together from its parts. -/
theorem Synopsis.line_eq (s : Synopsis) :
    s.line = if s.usage = "" then " " ++ ", ".intercalate s.names ++ "\t: " ++ s.description
      else " " ++ ", ".intercalate s.names ++ " " ++ s.usage ++ "\t: " ++ s.description := by
  by_cases husage : s.usage = ""
  · simp [Synopsis.line, husage]
  · simp [Synopsis.line, husage, String.append_assoc]

namespace Interpreter

/-- Help writes its lines and makes no other call, whatever else is in the table. -/
theorem entries_help {h : Host W} (works : h.OutputWorks) {sh : Interpreter (Journal W)}
    (hhost : sh.host = h.journaled)
    (hhelp : sh.commands.resolve "help" = some (Standard.help h.journaled))
    (operands : List String) (s : State (Journal W)) :
    (sh.dispatch ("help" :: operands) s).2.world.entries = s.world.entries ++
      (Standard.helpLines sh.commands.synopses).map fun text => ⟨.line text, .ok .done⟩ := by
  let started := Event.commandStarted "help" operands.length
  obtain ⟨t, shown⟩ := Action.Does.printAll_of_works works.journaled
    (Standard.helpLines sh.commands.synopses) (sh.tell started s)
  have hentries := shown.course.entries
  rw [(Tally.lines _ _).calls] at hentries
  have hrun : ((Standard.help h.journaled).execute sh.commands.synopses "help" operands).run
      (sh.tell started s) = (.ok .success, t) := (shown.bind_pure Token.success).run
  have hname : (Standard.help h.journaled).names.headD "help" = "help" := rfl
  have hanswer : (sh.answer ("help" :: operands) s).2 = t := by
    simp only [answer, hhelp, runCommand, hname]
    rw [hrun]
  have htold : ((sh.dispatch ("help" :: operands) s).2.world.entries) = t.world.entries := by
    simp only [dispatch, keep, tell, hhost, Host.entries_note_journaled, hanswer]
  rw [htold, hentries]
  simp only [tell, hhost, Host.entries_note_journaled]

/-- A dispatch of the name runs the command that was registered at the place in the history, which
is the last one that has the name. -/
structure Leads (sh : Interpreter W) (cs : List (Command W)) (name : String) (i : Nat)
    (c : Command W) : Prop where
  latest : Registry.IsLatest cs name i
  registered : cs[i]? = some c
  named : name ∈ c.names
  runs : ∀ operands s, sh.answer (name :: operands) s = sh.runCommand c name operands s

theorem leads_of_latest {sh : Interpreter W} {cs : List (Command W)}
    (hcs : sh.commands = .ofList cs) {name : String} {i : Nat}
    (latest : Registry.IsLatest cs name i) : ∃ c, sh.Leads cs name i c := by
  obtain ⟨c, hc, hname⟩ := latest.named
  have hresolve : sh.commands.resolve name = some c := by
    rw [hcs, Registry.resolve_ofList_eq_some_iff]
    exact ⟨i, latest, hc⟩
  exact ⟨c, latest, hc, hname, fun operands s => by simp only [answer, hresolve]⟩

/-- The listed registrations are those to which some name leads. -/
theorem mem_listedSlots_iff_leads {sh : Interpreter W} {cs : List (Command W)}
    (hcs : sh.commands = .ofList cs) (i : Nat) :
    i ∈ sh.commands.listedSlots ↔ ∃ name c, sh.Leads cs name i c := by
  rw [hcs, Registry.mem_listedSlots_ofList_iff]
  constructor
  · rintro ⟨name, latest⟩
    exact ⟨name, leads_of_latest hcs latest⟩
  · rintro ⟨name, c, leads⟩
    exact ⟨name, leads.latest⟩

/-- A name leads to a registration that is listed, or else a dispatch of it is for the host's
shell. -/
theorem leads_or_external {sh : Interpreter W} {cs : List (Command W)}
    (hcs : sh.commands = .ofList cs) (name : String) :
    (∃ k i : Nat, ∃ c, sh.commands.listedSlots[k]? = some i ∧ sh.commands.reachable[k]? = some c ∧
      sh.Leads cs name i c) ∨
    (∀ i c, ¬sh.Leads cs name i c) ∧ ∀ operands s,
      sh.answer (name :: operands) s = sh.runExternal (joinWords (name :: operands)) s := by
  cases hresolve : sh.commands.resolve name with
  | some c =>
    left
    rw [hcs, Registry.resolve_ofList_eq_some_iff] at hresolve
    obtain ⟨i, latest, -⟩ := hresolve
    obtain ⟨c, leads⟩ := leads_of_latest hcs latest
    obtain ⟨k, hk⟩ :=
      List.mem_iff_getElem?.mp ((mem_listedSlots_iff_leads hcs i).mpr ⟨name, c, leads⟩)
    refine ⟨k, i, c, hk, ?_, leads⟩
    rw [Registry.getElem?_reachable hk, hcs, Registry.commands_ofList, leads.registered]
  | none =>
    right
    refine ⟨fun i c leads => ?_, fun operands s => by simp only [answer, hresolve]⟩
    rw [hcs, Registry.resolve_ofList_eq_none_iff] at hresolve
    exact hresolve c (List.mem_of_getElem? leads.registered) leads.named

/-- Help lists what can be run.  Between a heading and an empty line it writes one line for each
registration to which some name still leads, in the order of registration.  Every name that leads
to a command stands on the line of that very registration, and all other names are for the host's
shell. -/
theorem help_lists {h : Host W} (works : h.OutputWorks) {cs : List (Command (Journal W))}
    (hhelp : (Registry.ofList cs).resolve "help" = some (Standard.help h.journaled)) :
    let sh : Interpreter (Journal W) := { host := h.journaled, commands := .ofList cs }
    let shown := sh.commands.reachable
    let lines := ["", "Available Commands:", ""] ++
      shown.map (fun c =>
        if c.usage = "" then " " ++ ", ".intercalate c.names ++ "\t: " ++ c.description
        else " " ++ ", ".intercalate c.names ++ " " ++ c.usage ++ "\t: " ++ c.description) ++ [""]
    ∃ slots : List Nat, slots.Pairwise (· < ·) ∧
      (∀ i, i ∈ slots ↔ ∃ name c, sh.Leads cs name i c) ∧
      shown.map some = slots.map (cs[·]?) ∧ lines.length = 4 + slots.length ∧
      (∀ operands s, (sh.dispatch ("help" :: operands) s).2.world.entries =
        s.world.entries ++ lines.map fun text => ⟨.line text, .ok .done⟩) ∧
      ∀ name,
        (∃ k i : Nat, ∃ c, slots[k]? = some i ∧ shown[k]? = some c ∧ sh.Leads cs name i c) ∨
        (∀ i c, ¬sh.Leads cs name i c) ∧ ∀ operands s,
          sh.answer (name :: operands) s = sh.runExternal (joinWords (name :: operands)) s := by
  intro sh shown lines
  have hcs : sh.commands = .ofList cs := rfl
  have hshown : shown.map some = sh.commands.listedSlots.map (cs[·]?) := by
    rw [Registry.map_some_reachable, hcs, Registry.commands_ofList]
  have hlength : shown.length = sh.commands.listedSlots.length := by
    simpa using congrArg List.length hshown
  have hlines : lines = Standard.helpLines sh.commands.synopses := by
    simp only [lines, shown, Standard.helpLines, Registry.synopses, List.map_map,
      ← Synopsis.line_eq]
    rfl
  refine ⟨sh.commands.listedSlots, Registry.pairwise_listedSlots _,
    mem_listedSlots_iff_leads hcs, hshown, ?_, fun operands s => ?_, leads_or_external hcs⟩
  · simp only [lines, List.length_append, List.length_map, hlength, List.length_cons,
      List.length_nil]
    omega
  · rw [hlines]
    exact entries_help works rfl hhelp operands s

/-- Of five registrations the first has lost its only name and the fourth never had one, so help
does not list them.  The third keeps its second name and is listed with both. -/
theorem help_lists_bare :
    let command (names : List String) (usage : String) : Command (Journal String) :=
      { names, usage, description := "Rests", execute := fun _ _ _ => return .success }
    let cs := [command ["a"] "", Standard.help Host.bare.journaled, command ["b", "bb"] "<x>",
      command [] "", command ["b", "a"] ""]
    let sh : Interpreter (Journal String) :=
      { host := Host.bare.journaled, commands := .ofList cs }
    Host.bare.OutputWorks ∧
      sh.commands.resolve "help" = some (Standard.help Host.bare.journaled) ∧
      (∀ operands s, (sh.dispatch ("help" :: operands) s).2.world.entries = s.world.entries ++
        ["", "Available Commands:", "", " help\t: Show this list", " b, bb <x>\t: Rests",
          " b, a\t: Rests", ""].map fun text => ⟨.line text, .ok .done⟩) ∧
      ∃ slots : List Nat, slots.length = 3 ∧ ∀ i, i ∈ slots ↔ ∃ name c, sh.Leads cs name i c := by
  intro command cs sh
  have hhelp : (Registry.ofList cs).resolve "help" = some (Standard.help Host.bare.journaled) :=
    rfl
  obtain ⟨slots, -, hslots, -, hlength, hwritten, -⟩ := help_lists Host.outputWorks_bare hhelp
  have hshown : sh.commands.reachable = [Standard.help Host.bare.journaled,
      command ["b", "bb"] "<x>", command ["b", "a"] ""] := rfl
  rw [hshown] at hlength hwritten
  refine ⟨Host.outputWorks_bare, hhelp, fun operands s => ?_, slots,
    (Nat.add_left_cancel hlength).symm, hslots⟩
  rw [hwritten operands s, List.append_cancel_left_eq]
  exact congrArg (List.map _) (by decide +kernel)

end Interpreter
end LineShell
