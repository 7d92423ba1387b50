import LineShell.Proofs.History
import LineShell.Proofs.Movement
import LineShell.Proofs.Projection

/-!
# No failure is silent

The calls that a dispatch makes on the host and the records that it appends settle against each
other: each failure that the user has to know of has one error line, each error line has one record,
and what else is recorded is a record of the user's or a command that broke off.  The calls are read
from the journal of the same dispatch on the host that keeps one.
-/

namespace LineShell

variable {W : Type}

namespace Errand

/-- Whether the operands are refused: one is missing, no integer of its kind, or an unknown
selector. -/
def refuses : Errand → Bool
  | .command b operands => b.refuses operands
  | .blank | .external _ => false

theorem own_dues (e : Errand) : e.dues.own = e.refuses.toNat := by
  cases e <;> rfl

/-- Whether a command had its output fail. -/
def breaksOff (e : Errand) (calls : List Entry) : Bool := e.isCommand && calls.any Entry.isLost

theorem losses_eq_toNat (e : Errand) {calls : List Entry}
    (lost : calls.countP Entry.isLost ≤ 1) : e.losses calls = (e.breaksOff calls).toNat := by
  unfold losses breaksOff
  cases e.isCommand with
  | false => rfl
  | true =>
    cases hany : calls.any Entry.isLost with
    | false =>
      have hzero : calls.countP Entry.isLost = 0 := by simpa [List.countP_eq_zero] using hany
      simp [hzero]
    | true =>
      have hpos : 0 < calls.countP Entry.isLost := by
        rw [List.countP_pos_iff]
        simpa using hany
      simp only [if_true, Bool.true_and, Bool.toNat_true]
      omega

end Errand

/-- What the calls of a dispatch and the records it appends have to do with each other. -/
structure Accounts (words : List String) (calls : List Entry) (new : List Record) : Prop where
  /-- There is an error line for operands that are refused and for each failure that counts. -/
  complaints : calls.countP Entry.isComplaint =
    (Errand.ofWords words).refuses.toNat + calls.countP (Entry.isRefusal false) +
      if (Errand.ofWords words).wanted then calls.countP Entry.isUnlocated else 0
  /-- There is a record for each error line, for a record of the user's, and for a command that
  broke off. -/
  records : new.length = calls.countP Entry.isComplaint + (thrownRecord? words).isSome.toNat +
    ((Errand.ofWords words).breaksOff calls).toNat
  newest : (Errand.ofWords words).breaksOff calls = true →
    new.getLast? = some (Record.ofKind .unknown)
  lost : calls.countP Entry.isLost ≤ 1
  /-- A directory that cannot be named does not count after a successful change of directory and
  for the default of a listing. -/
  tolerated : ∀ c ∈ calls, c.isUnlocated = true →
    (Errand.ofWords words).wanted = true ∨ Errand.ofWords words = .command .ls [] ∨
      ∃ operands path, Errand.ofWords words = .command .cd operands ∧
        ⟨.move path, .ok .done⟩ ∈ calls

theorem countP_cons_toNat {α : Type} (p : α → Bool) (a : α) (as : List α) :
    (a :: as).countP p = as.countP p + (p a).toNat := by
  rw [List.countP_cons]
  cases p a <;> rfl

theorem Entry.isRefusal_true (e : Entry) :
    (e.isRefusal true).toNat = (e.isRefusal false).toNat + e.isUnlocated.toNat := by
  rcases e with ⟨c, answer⟩
  cases c <;> simp [isRefusal, isUnlocated, Call.owesComplaint, Call.isLocate]

theorem countP_isRefusal (wanted : Bool) (calls : List Entry) :
    calls.countP (Entry.isRefusal wanted) =
      calls.countP (Entry.isRefusal false) +
        if wanted then calls.countP Entry.isUnlocated else 0 := by
  cases wanted with
  | false => rfl
  | true =>
    simp only [if_true]
    induction calls with
    | nil => rfl
    | cons e rest ih =>
      have he := e.isRefusal_true
      simp only [countP_cons_toNat, ih]
      omega

theorem Call.not_isLocate_of_isOutput {c : Call} (ho : c.isOutput = true) :
    c.isLocate = false := by
  cases c with
  | locate => cases ho
  | _ => rfl

theorem Movement.mem_of_isUnlocated {ds : List Deed} (movement : Movement ds) {c : Entry}
    (hc : c ∈ entriesOf ds) (hu : c.isUnlocated = true) :
    ∃ path, ⟨.move path, .ok .done⟩ ∈ entriesOf ds := by
  cases movement with
  | unnamed => exact ⟨_, List.mem_cons_self⟩
  | followed => exact ⟨_, List.mem_cons_self⟩
  | @refused path cause ds common =>
    exfalso
    have hlocate : c.call.isLocate = true := (Bool.and_eq_true_iff.mp hu).2
    obtain ⟨d, hd, hentry⟩ := List.mem_filterMap.mp hc
    rcases List.mem_cons.mp hd with rfl | hd
    · cases hentry
      cases hlocate
    · cases d with
      | call call answer =>
        cases hentry
        have hother := Call.not_isLocate_of_isOutput (common _ hd)
        rw [hlocate] at hother
        cases hother
      | _ => cases hentry

theorem Errand.Account.of_isUnlocated {e : Errand} {ds : List Deed} (account : e.Account ds)
    {c : Entry} (hc : c ∈ entriesOf ds) (hu : c.isUnlocated = true) :
    e.wanted = true ∨ e = .command .ls [] ∨ ∃ operands, e = .command .cd operands := by
  have hlocate : c.call.isLocate = true := (Bool.and_eq_true_iff.mp hu).2
  obtain ⟨d, hd, hentry⟩ := List.mem_filterMap.mp hc
  cases d with
  | call call answer =>
    cases hentry
    cases call with
    | locate =>
      rcases account.permitted _ hd with hcommon | hopens | hkeep
      · cases hcommon
      · cases e with
        | command b operands =>
          rcases hopens with rfl | rfl | ⟨rfl, rfl⟩
          · exact Or.inr (Or.inr ⟨operands, rfl⟩)
          · exact Or.inl rfl
          · exact Or.inr (Or.inl rfl)
        | _ => cases hopens
      · cases hkeep
    | _ => cases hlocate
  | _ => cases hentry

namespace Interpreter

theorem accounts_dispatch (h : Host W) (words : List String) (s : State W) :
    ∃ new, ((standard h).dispatch words s).2.errors.records = s.errors.records ++ new ∧
      Accounts words (h.callsOf words s) new := by
  obtain ⟨-, ds, course, account⟩ := account_dispatch h.journaled words s.journaled
  have hcalls : h.callsOf words s = entriesOf ds := course.entries
  have hplain : ((standard h).dispatch words s).2.errors =
      ((standard h.journaled).dispatch words s.journaled).2.errors :=
    (congrArg (·.2.errors) (forgetting_dispatch h words s.journaled)).symm
  have hbreaks := (Errand.ofWords words).losses_eq_toNat account.lost
  refine ⟨recordsOf ds, hplain ▸ course.records, ?_⟩
  rw [hcalls]
  refine ⟨?_, ?_, ?_, account.lost, ?_⟩
  · rw [account.complaints, countP_isRefusal, Errand.own_dues]
    omega
  · have hthrown : (recordsOf ds).countP (fun r => !r.isStandard) =
        (thrownRecord? words).isSome.toNat := by
      rw [List.countP_eq_length_filter, account.thrown, thrown_ofWords]
      cases thrownRecord? words <;> rfl
    have hstandard := account.records
    have hlength := List.length_eq_countP_add_countP Record.isStandard (l := recordsOf ds)
    simp only [Bool.not_eq_true, Bool.decide_eq_false] at hlength
    omega
  · intro hbroke
    apply account.newest
    rw [hbreaks, hbroke]
    exact Nat.one_pos
  · intro c hc hu
    rcases account.of_isUnlocated hc hu with hwanted | hls | ⟨operands, hcd⟩
    · exact Or.inl hwanted
    · exact Or.inr (Or.inl hls)
    · -- The deeds of the movement are another list, but they leave the same journal.
      obtain ⟨before, es, after, course', movement, hbefore, hafter⟩ :=
        movement_dispatch h.journaled hcd s.journaled
      have hcalls' : entriesOf ds = entriesOf es := by
        rw [course.entries_unique course', entriesOf_between hbefore hafter]
      rw [hcalls'] at hc ⊢
      obtain ⟨path, hpath⟩ := movement.mem_of_isUnlocated hc hu
      exact Or.inr (Or.inr ⟨operands, path, hcd, hpath⟩)

end Interpreter

/-! ## Runs -/

/-- The records of failures that a run appends are as many as its error lines, but for a record at
most for each call on the output that failed. -/
def Balanced (s t : State (Journal W)) : Prop :=
  ∃ calls new, t.world.entries = s.world.entries ++ calls ∧
    t.errors.records = s.errors.records ++ new ∧
    calls.countP Entry.isComplaint ≤ new.countP Record.isStandard ∧
    new.countP Record.isStandard ≤ calls.countP Entry.isComplaint + calls.countP Entry.isLost

namespace Balanced

variable {s t u : State (Journal W)}

theorem of_eq (hentries : t.world.entries = s.world.entries) (herrors : t.errors = s.errors) :
    Balanced s t := ⟨[], [], by simp [hentries], by simp [herrors], by simp, by simp⟩

theorem trans (first : Balanced s t) (second : Balanced t u) : Balanced s u := by
  obtain ⟨calls, new, hcalls, hnew, hle, hge⟩ := first
  obtain ⟨calls', new', hcalls', hnew', hle', hge'⟩ := second
  refine ⟨calls ++ calls', new ++ new', ?_, ?_, ?_, ?_⟩
  · rw [hcalls', hcalls, List.append_assoc]
  · rw [hnew', hnew, List.append_assoc]
  · simp only [List.countP_append]
    omega
  · simp only [List.countP_append]
    omega

end Balanced

def Journal.Aside (j j' : Journal W) : Prop := j'.entries = j.entries

theorem Supply.within_journaled (supply : Supply W) : supply.journaled.Within Journal.Aside := by
  induction supply with
  | ended ending => trivial
  | line text rest ih => exact ih
  | ask look after ih => exact fun j => ⟨rfl, ih j.world⟩

theorem Input.within_journaled (input : Input W) : input.journaled.Within Journal.Aside := by
  cases input with
  | lines source => exact ⟨fun _ _ => rfl, source.supply.within_journaled⟩
  | _ => trivial

namespace Interpreter

theorem law_balanced (h : Host W) :
    Law (standard h.journaled) Journal.Aside fun _ s t => Balanced s t where
  refl s := .of_eq rfl rfl
  trans := .trans
  dispatch words s := by
    obtain ⟨-, ds, course, account⟩ := account_dispatch h.journaled words s
    have hrecords := account.records
    have hlosses : (Errand.ofWords words).losses (entriesOf ds) ≤
        (entriesOf ds).countP Entry.isLost := by
      unfold Errand.losses
      split
      · exact Nat.le_refl _
      · exact Nat.zero_le _
    exact ⟨entriesOf ds, recordsOf ds, course.entries, course.records, by omega, by omega⟩
  tell _ _ := .of_eq rfl rfl
  aside _ _ hw := .of_eq hw rfl
  reset _ := .of_eq rfl rfl

theorem balanced_respondAll (h : Host W) (inputs : List (Input W)) (s : State W) :
    ∃ new, ((standard h).respondAll inputs s).errors.records = s.errors.records ++ new ∧
      (h.callsOfRun inputs s).countP Entry.isComplaint ≤ new.countP Record.isStandard ∧
      new.countP Record.isStandard ≤ (h.callsOfRun inputs s).countP Entry.isComplaint +
        (h.callsOfRun inputs s).countP Entry.isLost := by
  have within : ∀ input ∈ inputs.map Input.journaled, input.Within Journal.Aside := by
    intro input hinput
    obtain ⟨input, -, rfl⟩ := List.mem_map.mp hinput
    exact input.within_journaled
  obtain ⟨calls, new, hcalls, hnew, hle, hge⟩ := (law_balanced h).respondAll within s.journaled
  have hplain := congrArg State.errors (forget_respondAll h inputs s.journaled)
  have hcalls : h.callsOfRun inputs s = calls := hcalls
  rw [hcalls]
  exact ⟨new, hplain ▸ hnew, hle, hge⟩

/-- No failure is silent and none is counted twice.  This holds of each dispatch, whatever the host
answers; and over a run whose output works there are as many records of failures as error lines. -/
theorem failures_accounted (h : Host W) :
    (∀ words s, ∃ new,
      ((standard h).dispatch words s).2.errors.records = s.errors.records ++ new ∧
        Accounts words (h.callsOf words s) new) ∧
    ∀ inputs s, ∃ new,
      ((standard h).respondAll inputs s).errors.records = s.errors.records ++ new ∧
        ((h.callsOfRun inputs s).countP Entry.isLost = 0 →
          new.countP Record.isStandard = (h.callsOfRun inputs s).countP Entry.isComplaint) := by
  refine ⟨accounts_dispatch h, fun inputs s => ?_⟩
  obtain ⟨new, hnew, hle, hge⟩ := balanced_respondAll h inputs s
  refine ⟨new, hnew, fun hlost => ?_⟩
  omega

/-- A batch of two files that cannot be made, and a code that cannot be read: three error lines and
three records. -/
theorem failures_accounted_bare :
    let inputs : List (Input String) := [.words ["mks", "a", "b"], .words ["return", "x"]]
    let s : State String :=
      { session := { cwd := "/", home := "/", user := "user" }, errors := {}, world := "/" }
    (Host.bare.callsOfRun inputs s).countP Entry.isLost = 0 ∧
    ∃ new, ((standard Host.bare).respondAll inputs s).errors.records = new ∧
      new.countP Record.isStandard = 3 := by
  intro inputs s
  have hlost : (Host.bare.callsOfRun inputs s).countP Entry.isLost = 0 := by decide +kernel
  have hcomplaints : (Host.bare.callsOfRun inputs s).countP Entry.isComplaint = 3 := by
    decide +kernel
  obtain ⟨new, hnew, hequal⟩ := (failures_accounted Host.bare).2 inputs s
  exact ⟨hlost, new, hnew, (hequal hlost).trans hcomplaints⟩

end Interpreter
end LineShell
