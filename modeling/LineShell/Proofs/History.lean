import LineShell.Proofs.Errand
import LineShell.Proofs.Runs

/-!
# The history in the error log

A run only appends to the error log.  What it appends in the user's words can be read off the words
that were dispatched, whatever else happens in between; and all the rest states one of five kinds,
so no command can make a record of the interpreter look like another one.  The sixth kind is used
nowhere.
-/

namespace LineShell

/-- The record in the user's words that a word list asks for. -/
def thrownRecord? : List String → Option Record
  | command :: name :: text :: words =>
    if command = "throw" then
      (Numeral.code? text).map fun code =>
        { name, code, message := if words = [] then "None" else joinWords words,
          origin := .userDefined }
    else none
  | _ => none

theorem thrown_ofWords (words : List String) :
    (Errand.ofWords words).dues.thrown = (thrownRecord? words).toList := by
  cases words with
  | nil => rfl
  | cons command operands =>
    have hthrow := Builtin.eq_iff_ofName?_eq_some (b := .throw) rfl command
    cases ho : Builtin.ofName? command with
    | none =>
      rw [Errand.ofWords_external ho]
      rcases operands with _ | ⟨name, _ | ⟨text, words⟩⟩ <;>
        simp [Errand.dues, thrownRecord?, hthrow, ho]
    | some b =>
      rw [Errand.ofWords_command ho]
      rcases operands with _ | ⟨name, _ | ⟨text, words⟩⟩ <;> cases b <;>
        simp [Errand.dues, Builtin.dues, Builtin.thrown?, thrownRecord?, hthrow, ho,
          Record.userDefined, Standard.thrownMessage, Standard.noMessage]

/-- The log grows by what the word lists ask for and by records that state a kind. -/
def ErrorLog.Grows (argvs : List (List String)) (before after : ErrorLog) : Prop :=
  ∃ new, after.records = before.records ++ new ∧
    new.filter (!·.isStandard) = argvs.filterMap thrownRecord? ∧
    ∀ r ∈ new, r.isStandard = true → ∃ kind, kind ≠ .insufficientData ∧ r = Record.ofKind kind

namespace ErrorLog.Grows

theorem refl (log : ErrorLog) : Grows [] log log := ⟨[], by simp, rfl, by simp⟩

theorem trans {argvs argvs' : List (List String)} {a b c : ErrorLog} (first : Grows argvs a b)
    (second : Grows argvs' b c) : Grows (argvs ++ argvs') a c := by
  obtain ⟨new, hnew, hthrown, hkinds⟩ := first
  obtain ⟨new', hnew', hthrown', hkinds'⟩ := second
  refine ⟨new ++ new', ?_, ?_, List.forall_mem_append.mpr ⟨hkinds, hkinds'⟩⟩
  · rw [hnew', hnew, List.append_assoc]
  · rw [List.filter_append, List.filterMap_append, hthrown, hthrown']

end ErrorLog.Grows

namespace Interpreter

variable {W : Type}

theorem grows_dispatch (h : Host W) (words : List String) (s : State W) :
    ErrorLog.Grows [words] s.errors ((standard h).dispatch words s).2.errors := by
  obtain ⟨-, ds, course, account⟩ := account_dispatch h words s
  refine ⟨recordsOf ds, course.records, ?_, ?_⟩
  · rw [account.thrown, thrown_ofWords, filterMap_cons_toList, List.filterMap_nil, List.append_nil]
  · intro r hr hstandard
    obtain ⟨d, hd, hpush⟩ := List.mem_filterMap.mp hr
    cases d with
    | push r' =>
      obtain rfl := Option.some.inj hpush
      rcases account.permitted _ hd with hcommon | hopens | hkeep
      · exact hcommon (by simpa [Record.isStandard] using hstandard)
      · cases he : Errand.ofWords words <;> rw [he] at hopens <;> exact hopens.elim
      · cases hkeep
    | _ => cases hpush

theorem law_grows (h : Host W) :
    Law (standard h) (fun _ _ => True) fun argvs s t => ErrorLog.Grows argvs s.errors t.errors where
  refl s := .refl s.errors
  trans := .trans
  dispatch := grows_dispatch h
  tell _ s := .refl s.errors
  aside s _ _ := .refl s.errors
  reset s := .refl s.errors

/-- Over any run the log before stays in front of the log after.  The records that users made are
those that the dispatched words ask for, in their order, and they state no kind.  Every other new
record states one of five kinds, and is the record of this kind and nothing else. -/
theorem log_history (h : Host W) (inputs : List (Input W)) (s : State W) :
    ∃ new,
      ((standard h).respondAll inputs s).errors.records = s.errors.records ++ new ∧
      new.filter (·.origin = .userDefined) =
        ((standard h).dispatchedAll inputs s).filterMap thrownRecord? ∧
      ∀ r ∈ new, (r.origin = .userDefined ∧ r.kind? = none) ∨
        ∃ kind, kind ≠ .insufficientData ∧ r = Record.ofKind kind ∧ r.kind? = some kind := by
  have within (input : Input W) (_ : input ∈ inputs) : input.Within fun _ _ => True :=
    input.within_of_all fun _ _ => trivial
  obtain ⟨new, hnew, hthrown, hkinds⟩ := (law_grows h).respondAll within s
  have horigin (r : Record) : decide (r.origin = .userDefined) = !r.isStandard := by
    cases hr : r.origin <;> simp [Record.isStandard, hr]
  refine ⟨new, hnew, ?_, ?_⟩
  · simpa only [horigin] using hthrown
  · intro r hr
    cases ho : r.origin with
    | userDefined => exact Or.inl ⟨rfl, by simp [Record.kind?, ho]⟩
    | standard =>
      obtain ⟨kind, hkind, rfl⟩ := hkinds r hr (by simp [Record.isStandard, ho])
      exact Or.inr ⟨kind, hkind, rfl, Record.kind?_ofKind kind⟩

end Interpreter
end LineShell
