import Mathlib.Data.List.Forall2
import LineShell.Proofs.Play
import LineShell.Proofs.Words

/-!
# The layout of a script

A line is its words: blanks around and between them are not seen, of whatever kind and number they
are, and a line without words is idle.  So a loop depends on what its script says, which is the list
of the words of its lines, and of the first words only on the commands that they name.
-/

namespace LineShell

variable {W L α : Type}

/-- What a script says: the words of its lines, one after the other. -/
def wordsOf (lines : List String) : List (List String) :=
  (lines.map tokenize).filter (· ≠ [])

/-- What goes along with the lines that have words. -/
def ofSpoken (lines : List String) (xs : List α) : List α := picked (tokenize · ≠ []) lines xs

theorem wordsOf_eq (lines : List String) :
    wordsOf lines = (lines.filter (tokenize · ≠ [])).map tokenize := List.filter_map

/-- The blanks with which the words are written are not a part of what is said. -/
theorem wordsOf_of_written {said : List (List String)} {lines : List String}
    (written : List.Forall₂ Written said lines) : wordsOf lines = said.filter (· ≠ []) := by
  have htokens : lines.map tokenize = said := by
    induction written with
    | nil => rfl
    | cons hline _ ih => rw [List.map_cons, tokenize_of_written hline, ih]
  rw [wordsOf, htokens]

/-! ## Blank lines as idle lines -/

namespace Slot

def ofLine (line : String) : Slot (tokenize · = []) :=
  if hline : tokenize line = [] then .added line hline else .own line

theorem text_ofLine (line : String) : (ofLine line).text = line := by
  unfold ofLine
  split <;> rfl

theorem isOwn_ofLine (line : String) : (ofLine line).isOwn = decide (tokenize line ≠ []) := by
  unfold ofLine
  split <;> simp [isOwn, *]

theorem own?_ofLine (line : String) :
    (ofLine line).own? = if tokenize line ≠ [] then some line else none := by
  unfold ofLine
  split <;> simp [own?, *]

theorem map_text_ofLine (lines : List String) : (lines.map ofLine).map text = lines := by
  simp [text_ofLine, Function.comp_def]

theorem filterMap_own?_ofLine (lines : List String) :
    (lines.map ofLine).filterMap own? = lines.filter (tokenize · ≠ []) := by
  rw [List.filterMap_map, ← List.filterMap_eq_filter]
  refine List.filterMap_congr fun line _ => ?_
  simp [own?_ofLine, Option.guard]

theorem ofOwn_ofLine (lines : List String) (xs : List α) :
    ofOwn (lines.map ofLine) xs = ofSpoken lines xs := by
  rw [ofOwn, picked_keys, ofSpoken]
  exact congrArg (picked · lines xs) (funext isOwn_ofLine)

end Slot

/-! ## Scripts that say the same -/

namespace Interpreter

section

variable {h : Host W} (deaf : ∀ event w, h.note event w = w)

include deaf

/-- Blank lines can be left out. -/
theorem play_spoken (lines : List String) (s : State W) :
    let (turns, _, u) := (standard h).play (lines.filter (tokenize · ≠ [])) s
    let (turns', _, u') := (standard h).play lines s
    ofSpoken lines turns' = turns ∧ u'.viewed Session.unlast = u.viewed Session.unlast := by
  have hview := Session.view_unlast
  have hidle (line : String) (hline : tokenize line = []) :
      (standard h).Idle Session.unlast line := idle_of_tokenize_nil deaf hview hline
  have added := play_added deaf hview hidle (lines.map .ofLine) (Eq.refl (s.viewed Session.unlast))
  rw [Slot.map_text_ofLine, Slot.filterMap_own?_ofLine] at added
  obtain ⟨hturns, -, -, -, hleft⟩ := added
  exact ⟨(Slot.ofOwn_ofLine lines _).symm.trans hturns, hleft⟩

/-- Without anybody who listens, two scripts that say the same come to the same. -/
theorem play_layout {lines lines' : List String}
    (same : List.Forall₂ Synonymous (wordsOf lines) (wordsOf lines')) (s : State W) :
    let (turns, _, u) := (standard h).play lines s
    let (turns', _, u') := (standard h).play lines' s
    ofSpoken lines turns = ofSpoken lines' turns' ∧
      u.viewed Session.unlast = u'.viewed Session.unlast := by
  rw [wordsOf_eq, wordsOf_eq, List.forall₂_map_left_iff, List.forall₂_map_right_iff] at same
  obtain ⟨hturns, hleft⟩ := play_synonymous deaf same s
  obtain ⟨hspoken, hview⟩ := play_spoken deaf lines s
  obtain ⟨hspoken', hview'⟩ := play_spoken deaf lines' s
  exact ⟨hspoken.trans (hturns.trans hspoken'.symm),
    hview.trans ((congrArg (State.viewed Session.unlast) hleft).trans hview'.symm)⟩

end

/-- Two scripts that say the same cannot be told apart, however they are laid out, whatever follows
them and by whichever of its names a command is called: the loop over one of them makes the calls
and shows the prompts that the loop over the other one does, and it leaves the same, the last token
apart.  What a script says does not depend on the blanks between its words. -/
theorem layout_unseen (h : Host W) (listen : Event → L → L) (showPrompt : String → L → L)
    (ending ending' : Ending) {lines lines' : List String}
    (same : List.Forall₂ Synonymous (wordsOf lines) (wordsOf lines'))
    (s : State (Overheard W L)) :
    let host := h.overheard listen
    let source := LineSource.typed showPrompt ending lines
    let source' := LineSource.typed showPrompt ending' lines'
    let run := (standard host).loop source s
    let run' := (standard host).loop source' s
    let t := run.2.2
    let t' := run'.2.2
    run.1 = run'.1 ∧ host.callsOfLoop source s = host.callsOfLoop source' s ∧
      t.world.world = t'.world.world ∧
      { t.session with last := t'.session.last } = t'.session ∧
      ofSpoken lines run.2.1.prompts = ofSpoken lines' run'.2.1.prompts ∧
      ofSpoken lines ((standard host).turnsOf source s) =
        ofSpoken lines' ((standard host).turnsOf source' s) ∧
      ∀ said, List.Forall₂ Written said lines → wordsOf lines = said.filter (· ≠ []) := by
  intro host source source' run run' t t'
  obtain ⟨hturns, hview⟩ :=
    play_layout h.note_deaf_journaled same (s.through Overheard.world).journaled
  obtain ⟨hcode, -, -, -, -, hseen, hprompts⟩ := loop_play h listen showPrompt ending lines s
  obtain ⟨hcode', -, -, -, -, hseen', hprompts'⟩ :=
    loop_play h listen showPrompt ending' lines' s
  obtain ⟨hcalls, hworld, hlast⟩ := loop_alike h listen showPrompt ending ending' hview
  refine ⟨?_, hcalls, hworld, ?_, ?_, ?_, fun said => wordsOf_of_written⟩
  · exact hcode.trans ((congrArg (·.session.code) hview).trans hcode'.symm)
  · exact congrArg (fun x : Session => { x with last := t'.session.last }) hlast
  · rw [ofSpoken, ofSpoken, ← picked_take, ← picked_take _ lines', hprompts, hprompts',
      picked_map, picked_map]
    exact congrArg (List.map Turn.prompt) hturns
  · rw [hseen, hseen']
    exact hturns

/-- Other blanks, blank lines, ends of lines and names. -/
theorem layout_unseen_bare :
    let s : State (Overheard String Nat) :=
      { session := { cwd := "/", home := "/", user := "user" }, errors := {}, world := ⟨"/", 0⟩ }
    let host := Host.bare.overheard fun _ heard => heard + 1
    let lines := ["cd /tmp", "print a  b", "return 3", "gwd"]
    let lines' := ["", "\tchdir\u3000/tmp\r", " \u2028", "stdout a b", "return\u00a03", "gwd "]
    let source := LineSource.typed (fun _ heard => heard) .endOfInput lines
    let source' := LineSource.typed (fun _ heard => heard) (.failedRead (.system .notFound)) lines'
    let run := (standard host).loop source s
    let run' := (standard host).loop source' s
    List.Forall₂ Synonymous (wordsOf lines) (wordsOf lines') ∧ run.1 = run'.1 ∧
      host.callsOfLoop source s = host.callsOfLoop source' s ∧
      ofSpoken lines ((standard host).turnsOf source s) =
        ofSpoken lines' ((standard host).turnsOf source' s) ∧
      run.1 = 3 ∧ run.2.2.session.cwd = "/tmp" ∧
      run.2.2.world.heard ≠ run'.2.2.world.heard := by
  intro s host lines lines' source source' run run'
  have hlines : wordsOf lines =
      [["cd", "/tmp"], ["print", "a", "b"], ["return", "3"], ["gwd"]] := by decide +kernel
  have hlines' : wordsOf lines' =
      [["chdir", "/tmp"], ["stdout", "a", "b"], ["return", "3"], ["gwd"]] := by decide +kernel
  have same : List.Forall₂ Synonymous (wordsOf lines) (wordsOf lines') := by
    rw [hlines, hlines']
    exact .cons (.renamed .cd (by decide) (by decide) _)
      (.cons (.renamed .print (by decide) (by decide) _) (.cons (.same _) (.cons (.same _) .nil)))
  obtain ⟨hcode, hcalls, -, -, -, hturns, -⟩ := layout_unseen Host.bare (fun _ heard => heard + 1)
    (fun _ heard => heard) .endOfInput (.failedRead (.system .notFound)) same s
  refine ⟨same, hcode, hcalls, hturns, ?_, ?_, ?_⟩
  · decide +kernel
  · decide +kernel
  · decide +kernel

end Interpreter
end LineShell
