import LineShell.Proofs.Course

/-!
# The conduct of commands

Every standard command keeps the same discipline on every path through it.  A call that fails and
that the user has to know of is answered by exactly one record and one error line.  An error line
without such a call is one of the command's `own`, because it refuses its operands.  A call on the
output that fails is the last call the command makes, and the command breaks off.

`Conduct` states this of a list of deeds and the result they end in, and `Action.Abides` of an
action.  The lemmas that follow take an action apart along its binds, so that a command abides once
its parts do.
-/

namespace LineShell

/-- The deeds that are open to every command: writing, telling, recording a failure of a kind that
commands meet, and what `Dues` counts one by one. -/
def Deed.Common : Deed → Prop
  | .call c _ => c.isOutput = true
  | .push r => r.origin = .standard → ∃ kind, kind ≠ Kind.insufficientData ∧ r = Record.ofKind kind
  | .tell _ | .setCode _ => True
  | .pause _ | .setCwd _ | .keep _ => False

def Record.isStandard (r : Record) : Bool := r.origin == .standard

@[simp] theorem Record.isStandard_ofKind (kind : Kind) :
    (Record.ofKind kind).isStandard = true := rfl

/-- What an action does for other reasons than failed calls. -/
structure Dues where
  own : Nat := 0
  codes : List ReturnCode := []
  /-- The records in the user's words. -/
  thrown : List Record := []

def Dues.addOwn (dues : Dues) (b : Bool) : Dues := { dues with own := dues.own + b.toNat }

variable {W α β : Type}

/-- Deeds that end in a result keep the discipline: beyond the common deeds there are only those
the action `may` do, every failure that the user has to know of is recorded and written once, and
the rest is what is due. -/
structure Conduct (may : Deed → Prop) (wanted : Bool) (dues : Dues) (P : α → Prop)
    (ds : List Deed) (r : Except Failure α) : Prop where
  permitted : ∀ d ∈ ds, d.Common ∨ may d
  complaints : (entriesOf ds).countP Entry.isComplaint =
    (entriesOf ds).countP (Entry.isRefusal wanted) + dues.own
  records : (recordsOf ds).countP Record.isStandard = (entriesOf ds).countP Entry.isComplaint
  thrown : (recordsOf ds).filter (!·.isStandard) = dues.thrown
  codes : codesOf ds = dues.codes
  lost : (entriesOf ds).countP Entry.isLost = (!r.isOk).toNat
  value : ∀ a, r = .ok a → P a

namespace Conduct

variable {may : Deed → Prop} {wanted : Bool} {dues : Dues} {P : α → Prop}
  {ds : List Deed} {r : Except Failure α}

theorem nil {a : α} (ha : P a) : Conduct may wanted {} P [] (.ok a) := by
  refine ⟨by simp, rfl, rfl, rfl, rfl, rfl, ?_⟩
  intro b hb
  cases hb
  exact ha

/-- A deed that is no call, no record and no code does not count. -/
theorem cons_silent (hc : Conduct may wanted dues P ds r) {d : Deed} (hd : d.Common ∨ may d)
    (he : d.entry? = none) (hr : d.record? = none) (hcode : d.code? = none) :
    Conduct may wanted dues P (d :: ds) r := by
  have hentries : entriesOf (d :: ds) = entriesOf ds := by
    rw [entriesOf_cons, he]
    rfl
  have hrecords : recordsOf (d :: ds) = recordsOf ds := by
    rw [recordsOf_cons, hr]
    rfl
  have hcodes : codesOf (d :: ds) = codesOf ds := by
    rw [codesOf_cons, hcode]
    rfl
  refine ⟨List.forall_mem_cons.mpr ⟨hd, hc.permitted⟩, ?_, ?_, ?_, ?_, ?_, hc.value⟩
  · rw [hentries]
    exact hc.complaints
  · rw [hentries, hrecords]
    exact hc.records
  · rw [hrecords]
    exact hc.thrown
  · rw [hcodes]
    exact hc.codes
  · rw [hentries]
    exact hc.lost

theorem cons_call {c : Call} {answer : Except Failure Reply}
    (hc : Conduct may wanted (dues.addOwn (Entry.isRefusal wanted ⟨c, answer⟩)) P ds r)
    (hm : may (.call c answer)) (ho : c.isOutput = false) :
    Conduct may wanted dues P (.call c answer :: ds) r := by
  have hcomplaint : Entry.isComplaint ⟨c, answer⟩ = false := by
    cases c <;> first | rfl | cases ho
  have hlost : Entry.isLost ⟨c, answer⟩ = false := by simp [Entry.isLost, ho]
  refine ⟨List.forall_mem_cons.mpr ⟨Or.inr hm, hc.permitted⟩, ?_, ?_, hc.thrown, hc.codes, ?_,
    hc.value⟩
  · have h := hc.complaints
    simp only [Dues.addOwn] at h
    cases hr : Entry.isRefusal wanted ⟨c, answer⟩ with
    | false => simpa [hr, hcomplaint] using h
    | true =>
      simp only [hr, Bool.toNat_true] at h
      simp [hr, hcomplaint]
      omega
  · simpa [hcomplaint] using hc.records
  · simpa [hlost] using hc.lost

theorem cons_setCode {code : ReturnCode} (hc : Conduct may wanted dues P ds r) :
    Conduct may wanted { dues with codes := code :: dues.codes } P (.setCode code :: ds) r where
  permitted := List.forall_mem_cons.mpr ⟨Or.inl trivial, hc.permitted⟩
  complaints := hc.complaints
  records := hc.records
  thrown := hc.thrown
  codes := congrArg (code :: ·) hc.codes
  lost := hc.lost
  value := hc.value

theorem cons_push {r' : Record} (hr : r'.origin = .userDefined)
    (hc : Conduct may wanted dues P ds r) :
    Conduct may wanted { dues with thrown := r' :: dues.thrown } P (.push r' :: ds) r := by
  have hs : r'.isStandard = false := by simp [Record.isStandard, hr]
  refine ⟨List.forall_mem_cons.mpr ⟨Or.inl ?_, hc.permitted⟩, hc.complaints, ?_, ?_, hc.codes,
    hc.lost, hc.value⟩
  · intro h
    rw [hr] at h
    cases h
  · simpa [hs] using hc.records
  · simpa [hs] using hc.thrown

theorem append {Q : β → Prop} {b : β} {es : List Deed}
    (hc : Conduct may wanted dues Q ds (.ok b)) (he : Conduct may wanted {} P es r) :
    Conduct may wanted dues P (ds ++ es) r := by
  have h₁ := hc.complaints
  have h₂ : _ = _ + 0 := he.complaints
  have h₃ := hc.records
  have h₄ := he.records
  have h₅ := hc.lost
  have h₆ := he.lost
  simp only [Except.isOk, Except.toBool, Bool.not_true, Bool.toNat_false] at h₅
  refine ⟨?_, ?_, ?_, ?_, ?_, ?_, he.value⟩
  · intro d hd
    rcases List.mem_append.mp hd with hd | hd
    · exact hc.permitted d hd
    · exact he.permitted d hd
  · simp only [entriesOf_append, List.countP_append]
    omega
  · simp only [entriesOf_append, recordsOf_append, List.countP_append]
    omega
  · rw [recordsOf_append, List.filter_append, hc.thrown, he.thrown, List.append_nil]
  · rw [codesOf_append, hc.codes, he.codes, List.append_nil]
  · simp only [entriesOf_append, List.countP_append]
    omega

theorem error_of {Q : β → Prop} {cause : Failure}
    (hc : Conduct may wanted dues Q ds (.error cause : Except Failure β)) :
    Conduct may wanted dues P ds (.error cause : Except Failure α) where
  permitted := hc.permitted
  complaints := hc.complaints
  records := hc.records
  thrown := hc.thrown
  codes := hc.codes
  lost := hc.lost
  value := by
    intro a h
    cases h

end Conduct

theorem Entry.countP_isLost {c : Call} (ho : c.isOutput = true) (told : Except Failure Unit) :
    [(⟨c, told.map fun _ => .done⟩ : Entry)].countP Entry.isLost = (!told.isOk).toNat := by
  cases told <;>
    simp [Entry.isLost, Entry.failed, ho, Except.isOk, Except.toBool, Except.map]

theorem course_call {h : Host W} {c : Call} {attempt : Attempt W Unit}
    (hperform : h.perform c = attempt.reply fun _ => .done) (s : State W) :
    Course h s [.call c (((Action.call attempt).run s).1.map fun _ => .done)]
      ((Action.call attempt).run s).2 := by
  have made := Deed.Makes.call (h := h) s c
  rw [hperform] at made
  exact .single made

/-- A failure is recorded, told and written, and the record stays if it cannot be written. -/
theorem course_fail (h : Host W) (kind : Kind) (message : String) (item : Option String)
    (s : State W) :
    Course h s [.push (Record.ofKind kind),
        .tell (.recorded kind s.errors.count message item),
        .call (.complain message item) (((h.fail kind message item).run s).1.map fun _ => .done)]
      ((h.fail kind message item).run s).2 := by
  let t : State W := { s with errors := (s.errors.push (Record.ofKind kind)).2 }
  let event := Event.recorded kind s.errors.count message item
  have complained := course_call (h := h) (c := .complain message item) rfl
    { t with world := h.note event t.world }
  rw [Host.run_fail]
  exact .cons (.push s _) (.cons (.tell t event) complained)

/-- Every run of the action keeps the discipline. -/
def Action.Abides (h : Host W) (may : Deed → Prop) (wanted : Bool) (dues : Dues) (P : α → Prop)
    (x : Action W α) : Prop :=
  ∀ s, ∃ ds, Course h s ds (x.run s).2 ∧ Conduct may wanted dues P ds (x.run s).1

namespace Action.Abides

variable {h : Host W} {may : Deed → Prop} {wanted : Bool} {dues : Dues} {P : α → Prop}

theorem pure {a : α} (ha : P a) : Abides h may wanted {} P (Pure.pure a : Action W α) := by
  intro s
  exact ⟨[], .nil s, .nil ha⟩

theorem bind {Q : β → Prop} {x : Action W β} {f : β → Action W α}
    (hx : Abides h may wanted dues Q x) (hf : ∀ b, Q b → Abides h may wanted {} P (f b)) :
    Abides h may wanted dues P (x >>= f) := by
  intro s
  obtain ⟨ds, course, conduct⟩ := hx s
  cases hr : x.run s with
  | mk result t =>
    rw [hr] at course conduct
    cases result with
    | error cause =>
      rw [run_bind_error hr]
      exact ⟨ds, course, conduct.error_of⟩
    | ok b =>
      obtain ⟨es, course', conduct'⟩ := hf b (conduct.value b rfl) t
      rw [run_bind_ok hr]
      exact ⟨ds ++ es, course.append course', conduct.append conduct'⟩

theorem tell {event : Event} {f : Unit → Action W α} (hf : Abides h may wanted dues P (f ())) :
    Abides h may wanted dues P (h.tell event >>= f) := by
  intro s
  obtain ⟨ds, course, conduct⟩ := hf { s with world := h.note event s.world }
  exact ⟨.tell event :: ds, .cons (.tell s event) course,
    conduct.cons_silent (Or.inl trivial) rfl rfl rfl⟩

theorem pause {seconds : Nat} {f : Unit → Action W α} (hm : may (.pause seconds))
    (hf : Abides h may wanted dues P (f ())) :
    Abides h may wanted dues P (Action.touch (h.pause seconds) >>= f) := by
  intro s
  obtain ⟨ds, course, conduct⟩ := hf { s with world := h.pause seconds s.world }
  exact ⟨.pause seconds :: ds, .cons (.pause s seconds) course,
    conduct.cons_silent (Or.inr hm) rfl rfl rfl⟩

theorem setCode {code : ReturnCode} {f : Unit → Action W α}
    (hf : Abides h may wanted {} P (f ())) :
    Abides h may wanted { codes := [code] } P
      (Action.modifySession (fun s => { s with code }) >>= f) := by
  intro s
  obtain ⟨ds, course, conduct⟩ := hf { s with session := { s.session with code } }
  exact ⟨.setCode code :: ds, .cons (.setCode s code) course, conduct.cons_setCode⟩

theorem setCwd {cwd : String} (hm : may (.setCwd cwd)) {P : Unit → Prop} (hp : P ()) :
    Abides h may wanted {} P (Action.modifySession fun s => { s with cwd } : Action W Unit) := by
  intro s
  refine ⟨[.setCwd cwd], .single (.setCwd s cwd), ⟨by simp [hm], rfl, rfl, rfl, rfl, rfl, ?_⟩⟩
  intro _ _
  exact hp

theorem push {r : Record} (hr : r.origin = .userDefined) {f : Nat → Action W α}
    (hf : ∀ position, Abides h may wanted {} P (f position)) :
    Abides h may wanted { thrown := [r] } P (Action.push r >>= f) := by
  intro s
  obtain ⟨ds, course, conduct⟩ := hf s.errors.count { s with errors := (s.errors.push r).2 }
  rw [run_push_bind]
  exact ⟨.push r :: ds, .cons (.push s r) course, conduct.cons_push hr⟩

theorem session {f : Session → Action W α} (hf : ∀ x, Abides h may wanted dues P (f x)) :
    Abides h may wanted dues P (Action.session >>= f) := fun s => hf s.session s

theorem errors {f : ErrorLog → Action W α} (hf : ∀ x, Abides h may wanted dues P (f x)) :
    Abides h may wanted dues P (Action.errors >>= f) := fun s => hf s.errors s

/-- A call that the action goes on after.  If it fails and the user has to know, the action is left
with an error line to write. -/
theorem attempt {attempt : Attempt W β} {f : Except Failure β → Action W α} (c : Call)
    {reply : β → Reply} (hperform : h.perform c = attempt.reply reply)
    (hm : ∀ answer, may (.call c answer)) (ho : c.isOutput = false)
    (hok : ∀ b, Abides h may wanted dues P (f (.ok b)))
    (herror : ∀ cause,
      Abides h may wanted (dues.addOwn (c.owesComplaint wanted)) P (f (.error cause))) :
    Abides h may wanted dues P (Action.attempt attempt >>= f) := by
  intro s
  have made := Deed.Makes.call (h := h) s c
  rw [hperform] at made
  rw [run_bind_ok (run_attempt attempt s)]
  simp only [Attempt.reply] at made
  cases hr : (attempt s.world).1 with
  | ok b =>
    rw [hr] at made
    obtain ⟨ds, course, conduct⟩ := hok b { s with world := (attempt s.world).2 }
    exact ⟨_, .cons made course, Conduct.cons_call conduct (hm _) ho⟩
  | error cause =>
    rw [hr] at made
    obtain ⟨ds, course, conduct⟩ := herror cause { s with world := (attempt s.world).2 }
    exact ⟨_, .cons made course, Conduct.cons_call conduct (hm _) ho⟩

theorem output {attempt : Attempt W Unit} (c : Call)
    (hperform : h.perform c = attempt.reply fun _ => .done) (ho : c.isOutput = true)
    (hc : c.isComplaint = false) :
    Abides h may wanted {} (fun _ => True) (Action.call attempt : Action W Unit) := by
  intro s
  have howes : c.owesComplaint wanted = false := by cases c <;> first | rfl | cases ho
  refine ⟨_, course_call hperform s,
    ⟨by simp [Deed.Common, ho], ?_, ?_, rfl, rfl, ?_, fun _ _ => trivial⟩⟩
  · simp [Entry.isComplaint, Entry.isRefusal, hc, howes]
  · simp [Entry.isComplaint, hc]
  · exact Entry.countP_isLost ho _

theorem fail {kind : Kind} (hk : kind ≠ .insufficientData) (message : String)
    (item : Option String) :
    Abides h may wanted { own := 1 } (fun _ => True) (h.fail kind message item) := by
  intro s
  refine ⟨_, course_fail h kind message item s, ⟨?_, ?_, ?_, ?_, rfl, ?_, fun _ _ => trivial⟩⟩
  · simp only [List.forall_mem_cons, List.not_mem_nil, false_implies, implies_true, and_true]
    exact ⟨Or.inl fun _ => ⟨kind, hk, rfl⟩, Or.inl trivial, Or.inl rfl⟩
  · simp [Entry.isComplaint, Call.isComplaint, Entry.isRefusal, Call.owesComplaint]
  · simp [Entry.isComplaint, Call.isComplaint]
  · simp
  · exact Entry.countP_isLost rfl _

theorem reject {kind : Kind} (hk : kind ≠ .insufficientData) (message : String)
    (item : Option String) :
    Abides h may wanted { own := 1 } (· = Token.success) (h.reject kind message item) :=
  (fail hk message item).bind fun _ _ => .pure rfl

theorem print (text : String) : Abides h may wanted {} (fun _ => True) (h.print text) :=
  .output (.line text) rfl rfl rfl

theorem printAll (lines : List String) :
    Abides h may wanted {} (fun _ => True) (h.printAll lines) := by
  induction lines with
  | nil => exact .pure trivial
  | cons text rest ih => exact (print text).bind fun _ _ => ih

end Action.Abides
end LineShell
