import LineShell.Text.Words

/-!
# Lines and their words

A line is written with blanks before, between and after its words.  Whichever they are, the words
are found again, and so a line that was joined from words is cut into the same words.  And every
line is written so: `splits_iff` says that the words which are found are the only ones that make the
line together with the blanks around them.
-/

namespace LineShell

/-! ## Runs -/

namespace Runs

variable {α : Type} {separates : α → Bool}

theorem scan_append {run : List α} (hrun : ∀ a ∈ run, separates a = false) (as : List α) :
    scan separates (run ++ as) = (run ++ (scan separates as).1, (scan separates as).2) := by
  induction run with
  | nil => rfl
  | cons a run ih =>
    obtain ⟨ha, hrun⟩ := List.forall_mem_cons.mp hrun
    rw [List.cons_append, scan, ih hrun]
    simp only [ha, Bool.false_eq_true, if_false, List.cons_append]

/-- No run has begun where there is nothing or a separator. -/
theorem scan_fst_of_ended {as : List α} (hended : as.head?.all separates = true) :
    (scan separates as).1 = [] := by
  cases as with
  | nil => rfl
  | cons a as =>
    have ha : separates a = true := hended
    simp only [scan, ha, if_true]

theorem mem_close_iff {run run' : List α} {rest : List (List α)} :
    run' ∈ close run rest ↔ (run' = run ∧ run ≠ []) ∨ run' ∈ rest := by
  cases run with
  | nil => simp
  | cons a run => simp

/-- The run at the front may be empty, the finished ones are not, and no separator is in a run. -/
theorem scan_unbroken (as : List α) :
    (∀ a ∈ (scan separates as).1, separates a = false) ∧
      ∀ run ∈ (scan separates as).2, run ≠ [] ∧ ∀ a ∈ run, separates a = false := by
  induction as with
  | nil => exact ⟨by simp [scan], by simp [scan]⟩
  | cons a as ih =>
    obtain ⟨hfront, hrest⟩ := ih
    cases ha : separates a with
    | true =>
      simp only [scan, ha, if_true, mem_close_iff]
      refine ⟨by simp, ?_⟩
      rintro run (⟨rfl, hne⟩ | hrun)
      · exact ⟨hne, hfront⟩
      · exact hrest run hrun
    | false =>
      simp only [scan, ha, Bool.false_eq_true, if_false]
      exact ⟨List.forall_mem_cons.mpr ⟨ha, hfront⟩, hrest⟩

end Runs

/-- A run has a member at least, and no separator is one. -/
theorem unbroken_of_mem_runs {α : Type} {separates : α → Bool} {as run : List α}
    (h : run ∈ runs separates as) : run ≠ [] ∧ ∀ a ∈ run, separates a = false := by
  have hscan : (∀ a ∈ (Runs.scan separates as).1, separates a = false) ∧
      ∀ run ∈ (Runs.scan separates as).2, run ≠ [] ∧ ∀ a ∈ run, separates a = false :=
    Runs.scan_unbroken as
  obtain ⟨hfront, hrest⟩ := hscan
  rcases Runs.mem_close_iff.mp h with ⟨rfl, hne⟩ | hrun
  · exact ⟨hne, hfront⟩
  · exact hrest run hrun

/-- A run is found where it has ended. -/
theorem runs_append {α : Type} {separates : α → Bool} {run as : List α} (hne : run ≠ [])
    (hrun : ∀ a ∈ run, separates a = false) (hended : as.head?.all separates = true) :
    runs separates (run ++ as) = run :: runs separates as := by
  obtain ⟨a, rest, rfl⟩ := List.exists_cons_of_ne_nil hne
  simp only [runs, Runs.scan_append hrun, Runs.scan_fst_of_ended hended, List.append_nil,
    Runs.close_nil, Runs.close_cons]

/-! ## Words -/

/-- A text that is found as a word. -/
structure IsWord (word : String) : Prop where
  ne_empty : word ≠ ""
  unbroken : ∀ c ∈ word.toList, isBlank c = false

theorem isWord_iff (word : String) :
    IsWord word ↔ word ≠ "" ∧ word.toList.any isBlank = false := by
  have hunbroken : word.toList.any isBlank = false ↔ ∀ c ∈ word.toList, isBlank c = false := by
    simp
  rw [hunbroken]
  exact ⟨fun h => ⟨h.ne_empty, h.unbroken⟩, fun h => ⟨h.1, h.2⟩⟩

instance (word : String) : Decidable (IsWord word) := decidable_of_iff' _ (isWord_iff word)

theorem isWord_of_mem_tokenize {line word : String} (h : word ∈ tokenize line) : IsWord word := by
  obtain ⟨run, hrun, rfl⟩ := List.mem_map.mp h
  obtain ⟨hne, hunbroken⟩ := unbroken_of_mem_runs hrun
  refine ⟨fun hempty => hne ?_, ?_⟩
  · rw [← String.toList_ofList (l := run), hempty]
    rfl
  · rwa [String.toList_ofList]

/-- A line in which words are written: there may be blanks anywhere but inside of a word, and there
is one at least between two words. -/
inductive Written : List String → String → Prop
  | empty : Written [] ""
  | blank {c : Char} {words : List String} {line : String} (hc : isBlank c = true)
      (h : Written words line) : Written words (String.singleton c ++ line)
  | word {word : String} {words : List String} {line : String} (hword : IsWord word)
      (hended : line.toList.head?.all isBlank = true) (h : Written words line) :
      Written (word :: words) (word ++ line)

theorem tokenize_of_written {words : List String} {line : String} (h : Written words line) :
    tokenize line = words := by
  induction h with
  | empty => rfl
  | @blank c words line hc _ ih =>
    rw [← ih, tokenize, tokenize, String.toList_append, String.toList_singleton]
    exact congrArg (List.map String.ofList) (runs_cons_of_separates _ hc)
  | @word word words line hword hended _ ih =>
    have hne : word.toList ≠ [] := mt String.toList_eq_nil_iff.mp hword.ne_empty
    rw [tokenize, String.toList_append, runs_append hne hword.unbroken hended, List.map_cons,
      String.ofList_toList, ← tokenize, ih]

theorem written_joinWords {words : List String} (hwords : ∀ word ∈ words, IsWord word) :
    Written words (joinWords words) := by
  induction words with
  | nil => exact .empty
  | cons word rest ih =>
    obtain ⟨hword, hrest⟩ := List.forall_mem_cons.mp hwords
    cases rest with
    | nil =>
      have hline : Written [word] (word ++ "") := .word hword rfl .empty
      rwa [String.append_empty] at hline
    | cons next rest =>
      have hjoin : joinWords (word :: next :: rest) =
          word ++ (String.singleton ' ' ++ joinWords (next :: rest)) := by
        rw [joinWords, String.intercalate_cons_cons, String.append_assoc]
        rfl
      rw [hjoin]
      refine .word hword ?_ (.blank isBlank_space (ih hrest))
      rw [String.toList_append, String.toList_singleton]
      rfl

/-- Words that are joined are found again. -/
theorem tokenize_joinWords {words : List String} (hwords : ∀ word ∈ words, IsWord word) :
    tokenize (joinWords words) = words := tokenize_of_written (written_joinWords hwords)

/-! ## Every line is written in one way -/

/-- A text that separates words, unless it is empty. -/
def IsGap (gap : String) : Prop := ∀ c ∈ gap.toList, isBlank c = true

theorem IsGap.ended {gap : String} (hgap : IsGap gap) :
    gap.toList.head?.all isBlank = true := by
  cases hchars : gap.toList with
  | nil => rfl
  | cons c rest => exact hgap c (by rw [hchars]; exact List.mem_cons_self)

theorem IsGap.ended_append {gap : String} (hgap : IsGap gap) (hne : gap ≠ "") (line : String) :
    (gap ++ line).toList.head?.all isBlank = true := by
  obtain ⟨c, rest, hchars⟩ :=
    List.exists_cons_of_ne_nil (mt String.toList_eq_nil_iff.mp hne)
  have hended := hgap.ended
  rw [hchars] at hended
  rw [String.toList_append, hchars]
  exact hended

namespace Written

variable {words words' : List String} {line line' : String}

/-- Blanks in front of a line hold no word. -/
theorem gap {gap : String} (hgap : IsGap gap) (written : Written words line) :
    Written words (gap ++ line) := by
  have hfrom (cs : List Char) (hcs : ∀ c ∈ cs, isBlank c = true) :
      Written words (String.ofList cs ++ line) := by
    induction cs with
    | nil => exact written
    | cons c cs ih =>
      obtain ⟨hc, hcs⟩ := List.forall_mem_cons.mp hcs
      have hsplit : String.ofList (c :: cs) ++ line =
          String.singleton c ++ (String.ofList cs ++ line) := by
        simp [← String.toList_inj]
      rw [hsplit]
      exact .blank hc (ih hcs)
  rw [← String.ofList_toList (s := gap)]
  exact hfrom gap.toList hgap

/-- A line may go on where a word has ended. -/
theorem append (first : Written words line) (second : Written words' line')
    (hended : line'.toList.head?.all isBlank = true) :
    Written (words ++ words') (line ++ line') := by
  induction first with
  | empty => rwa [String.empty_append]
  | blank hc _ ih =>
    rw [String.append_assoc]
    exact .blank hc ih
  | @word word words line hword hended' _ ih =>
    rw [String.append_assoc]
    refine .word hword ?_ ih
    rw [String.toList_append, List.head?_append]
    cases hhead : line.toList.head? with
    | none => exact hended
    | some c => rwa [hhead] at hended'

end Written

/-- A run of characters that are no blanks is a word where it ends, unless it is empty. -/
theorem Written.run {run : List Char} {words : List String} {tail : String}
    (hrun : ∀ c ∈ run, isBlank c = false) (hended : tail.toList.head?.all isBlank = true)
    (written : Written words tail) : ∃ words, Written words (String.ofList run ++ tail) := by
  by_cases hne : run = []
  · subst hne
    have hgap : IsGap "" := by simp [IsGap]
    exact ⟨words, written.gap hgap⟩
  · have hword : IsWord (String.ofList run) := by
      refine ⟨fun hempty => hne ?_, by rwa [String.toList_ofList]⟩
      rw [← String.toList_ofList (l := run), hempty, String.toList_empty]
    exact ⟨_, .word hword hended written⟩

/-- Every line is a run that may still grow at the front, and behind it a line with words written in
it. -/
theorem exists_parted (cs : List Char) :
    ∃ run tail words, cs = run ++ tail.toList ∧ (∀ c ∈ run, isBlank c = false) ∧
      tail.toList.head?.all isBlank = true ∧ Written words tail := by
  induction cs with
  | nil => exact ⟨[], "", [], rfl, by simp, rfl, .empty⟩
  | cons c cs ih =>
    obtain ⟨run, tail, words, rfl, hrun, hended, written⟩ := ih
    cases hc : isBlank c with
    | false =>
      exact ⟨c :: run, tail, words, rfl, List.forall_mem_cons.mpr ⟨hc, hrun⟩, hended, written⟩
    | true =>
      obtain ⟨words, closed⟩ := written.run hrun hended
      refine ⟨[], String.singleton c ++ (String.ofList run ++ tail), words, ?_, by simp, ?_,
        .blank hc closed⟩
      · simp
      · simpa using hc

/-- The words of a line are written in it, and no others are. -/
theorem written_iff (words : List String) (line : String) :
    Written words line ↔ tokenize line = words := by
  refine ⟨tokenize_of_written, ?_⟩
  rintro rfl
  obtain ⟨run, tail, words, hline, hrun, hended, written⟩ := exists_parted line.toList
  obtain ⟨words, closed⟩ := written.run hrun hended
  have hjoined : String.ofList run ++ tail = line := by
    rw [← String.toList_inj, String.toList_append, String.toList_ofList, hline]
  rw [hjoined] at closed
  rwa [tokenize_of_written closed]

/-- A gap ends a word and holds none, so what is before it and what is after it are cut apart. -/
theorem tokenize_append_gap (line : String) {gap : String} (hgap : IsGap gap) (hne : gap ≠ "")
    (rest : String) : tokenize (line ++ gap ++ rest) = tokenize line ++ tokenize rest := by
  have before : Written (tokenize line) line := (written_iff _ _).mpr rfl
  have after : Written (tokenize rest) (gap ++ rest) := ((written_iff _ _).mpr rfl).gap hgap
  rw [String.append_assoc]
  exact tokenize_of_written (before.append after (hgap.ended_append hne rest))

/-! ## Words and the gaps between them -/

/-- The line of words with a gap in front of each of them and a gap after the last one. -/
def spell : List (String × String) → String → String
  | [], after => after
  | (gap, word) :: rest, after => gap ++ word ++ spell rest after

/-- Words that are kept apart by gaps.  The first gap and the last may be empty, and no other is. -/
structure Spaced (spaced : List (String × String)) (after : String) : Prop where
  word : ∀ entry ∈ spaced, IsWord entry.2
  gap : ∀ entry ∈ spaced, IsGap entry.1
  between : ∀ entry ∈ spaced.tail, entry.1 ≠ ""
  after : IsGap after

/-- The line consists of the words and of gaps before, between and after them. -/
def Splits (line : String) (words : List String) : Prop :=
  ∃ spaced after, Spaced spaced after ∧ spaced.map Prod.snd = words ∧ spell spaced after = line

namespace Spaced

variable {spaced : List (String × String)} {entry : String × String} {after : String}

theorem tail (apart : Spaced (entry :: spaced) after) : Spaced spaced after where
  word := (List.forall_mem_cons.mp apart.word).2
  gap := (List.forall_mem_cons.mp apart.gap).2
  between other hother := apart.between other (List.mem_of_mem_tail hother)
  after := apart.after

/-- Behind a word there is a gap, or else nothing. -/
theorem ended (apart : Spaced (entry :: spaced) after) :
    (spell spaced after).toList.head?.all isBlank = true := by
  cases spaced with
  | nil => exact apart.after.ended
  | cons next rest =>
    have hgap : IsGap next.1 := apart.gap next (by simp)
    have hne : next.1 ≠ "" := apart.between next List.mem_cons_self
    rw [spell, String.append_assoc]
    exact hgap.ended_append hne _

theorem written (apart : Spaced spaced after) :
    Written (spaced.map Prod.snd) (spell spaced after) := by
  induction spaced with
  | nil =>
    have hafter : Written [] (after ++ "") := Written.empty.gap apart.after
    rwa [String.append_empty] at hafter
  | cons entry rest ih =>
    obtain ⟨gap, word⟩ := entry
    have hgap : IsGap gap := apart.gap (gap, word) List.mem_cons_self
    have hword : IsWord word := apart.word (gap, word) List.mem_cons_self
    rw [spell, String.append_assoc]
    exact (Written.word hword apart.ended (ih apart.tail)).gap hgap

end Spaced

theorem splits_of_written {words : List String} {line : String} (written : Written words line) :
    Splits line words := by
  induction written with
  | empty => exact ⟨[], "", ⟨by simp, by simp, by simp, by simp [IsGap]⟩, rfl, rfl⟩
  | @blank c words line hc _ ih =>
    obtain ⟨spaced, after, apart, rfl, rfl⟩ := ih
    have hgap {gap : String} (h : IsGap gap) : IsGap (String.singleton c ++ gap) := by
      simpa [IsGap, hc] using h
    cases spaced with
    | nil => exact ⟨[], String.singleton c ++ after,
        ⟨by simp, by simp, by simp, hgap apart.after⟩, rfl, rfl⟩
    | cons entry rest =>
      obtain ⟨gap, word⟩ := entry
      obtain ⟨hfirst, hgaps⟩ := List.forall_mem_cons.mp apart.gap
      obtain ⟨hword, hwords⟩ := List.forall_mem_cons.mp apart.word
      refine ⟨(String.singleton c ++ gap, word) :: rest, after, ⟨?_, ?_, apart.between,
        apart.after⟩, rfl, by simp only [spell, String.append_assoc]⟩
      · exact List.forall_mem_cons.mpr ⟨hword, hwords⟩
      · exact List.forall_mem_cons.mpr ⟨hgap hfirst, hgaps⟩
  | @word word words line hword hended _ ih =>
    obtain ⟨spaced, after, apart, rfl, rfl⟩ := ih
    refine ⟨("", word) :: spaced, after, ⟨?_, ?_, ?_, apart.after⟩, rfl, by simp [spell]⟩
    · exact List.forall_mem_cons.mpr ⟨hword, apart.word⟩
    · exact List.forall_mem_cons.mpr ⟨by simp [IsGap], apart.gap⟩
    · cases spaced with
      | nil => simp
      | cons next rest =>
        -- Without a gap the line would go on with a character of the next word.
        have hnext : IsWord next.2 := apart.word next List.mem_cons_self
        refine List.forall_mem_cons.mpr ⟨fun hempty => ?_, apart.between⟩
        obtain ⟨c, cs, hchars⟩ :=
          List.exists_cons_of_ne_nil (mt String.toList_eq_nil_iff.mp hnext.ne_empty)
        have hc : isBlank c = false := hnext.unbroken c (by simp [hchars])
        simp [spell, hempty, hchars, hc] at hended

/-- A line is made of its words and of gaps, and of no other words. -/
theorem splits_iff (line : String) (words : List String) :
    Splits line words ↔ tokenize line = words := by
  rw [← written_iff]
  refine ⟨?_, splits_of_written⟩
  rintro ⟨spaced, after, apart, rfl, rfl⟩
  exact apart.written

end LineShell
