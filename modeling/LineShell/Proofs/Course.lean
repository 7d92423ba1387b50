import LineShell.Proofs.Journal
import LineShell.Interpreter

/-!
# The course of a run

Whatever a command does it does in deeds: a call on the host, a record pushed, an event told, a
pause, or a change of the session.  `Course h s ds s'` says that the deeds `ds` lead from `s` to
`s'`, and every answer in them is the one that the host gave in the world of that moment.  What a
deed list leaves alone, the run leaves alone; so a law on runs is a law on lists once the list is
known.
-/

namespace LineShell

/-- One thing that is done to a state. -/
inductive Deed where
  | call (call : Call) (answer : Except Failure Reply)
  | push (r : Record)
  | tell (event : Event)
  | pause (seconds : Nat)
  | setCode (code : ReturnCode)
  | setCwd (path : String)
  | keep (token : Token)

namespace Deed

@[simp] def entry? : Deed → Option Entry
  | .call c answer => some ⟨c, answer⟩
  | .push _ | .tell _ | .pause _ | .setCode _ | .setCwd _ | .keep _ => none

@[simp] def record? : Deed → Option Record
  | .push r => some r
  | .call .. | .tell _ | .pause _ | .setCode _ | .setCwd _ | .keep _ => none

@[simp] def code? : Deed → Option ReturnCode
  | .setCode code => some code
  | .call .. | .push _ | .tell _ | .pause _ | .setCwd _ | .keep _ => none

@[simp] def cwd? : Deed → Option String
  | .setCwd path => some path
  | .call .. | .push _ | .tell _ | .pause _ | .setCode _ | .keep _ => none

end Deed

def entriesOf (ds : List Deed) : List Entry := ds.filterMap Deed.entry?

def recordsOf (ds : List Deed) : List Record := ds.filterMap Deed.record?

def codesOf (ds : List Deed) : List ReturnCode := ds.filterMap Deed.code?

def cwdsOf (ds : List Deed) : List String := ds.filterMap Deed.cwd?

theorem filterMap_cons_toList {α β : Type} (f : α → Option β) (a : α) (as : List α) :
    (a :: as).filterMap f = (f a).toList ++ as.filterMap f := by
  rw [List.filterMap_cons]
  cases f a <;> rfl

@[simp] theorem entriesOf_nil : entriesOf [] = [] := rfl

@[simp] theorem recordsOf_nil : recordsOf [] = [] := rfl

@[simp] theorem codesOf_nil : codesOf [] = [] := rfl

@[simp] theorem cwdsOf_nil : cwdsOf [] = [] := rfl

@[simp] theorem entriesOf_cons (d : Deed) (ds : List Deed) :
    entriesOf (d :: ds) = d.entry?.toList ++ entriesOf ds :=
  filterMap_cons_toList Deed.entry? d ds

@[simp] theorem recordsOf_cons (d : Deed) (ds : List Deed) :
    recordsOf (d :: ds) = d.record?.toList ++ recordsOf ds :=
  filterMap_cons_toList Deed.record? d ds

@[simp] theorem codesOf_cons (d : Deed) (ds : List Deed) :
    codesOf (d :: ds) = d.code?.toList ++ codesOf ds :=
  filterMap_cons_toList Deed.code? d ds

@[simp] theorem cwdsOf_cons (d : Deed) (ds : List Deed) :
    cwdsOf (d :: ds) = d.cwd?.toList ++ cwdsOf ds :=
  filterMap_cons_toList Deed.cwd? d ds

@[simp] theorem entriesOf_append (ds es : List Deed) :
    entriesOf (ds ++ es) = entriesOf ds ++ entriesOf es := List.filterMap_append

@[simp] theorem recordsOf_append (ds es : List Deed) :
    recordsOf (ds ++ es) = recordsOf ds ++ recordsOf es := List.filterMap_append

@[simp] theorem codesOf_append (ds es : List Deed) :
    codesOf (ds ++ es) = codesOf ds ++ codesOf es := List.filterMap_append

@[simp] theorem cwdsOf_append (ds es : List Deed) :
    cwdsOf (ds ++ es) = cwdsOf ds ++ cwdsOf es := List.filterMap_append

variable {W : Type}

/-- A deed leads from one state to another. -/
inductive Deed.Makes (h : Host W) : State W → Deed → State W → Prop
  | call (s : State W) (c : Call) :
      Makes h s (.call c (h.perform c s.world).1) { s with world := (h.perform c s.world).2 }
  | push (s : State W) (r : Record) : Makes h s (.push r) { s with errors := (s.errors.push r).2 }
  | tell (s : State W) (event : Event) :
      Makes h s (.tell event) { s with world := h.note event s.world }
  | pause (s : State W) (seconds : Nat) :
      Makes h s (.pause seconds) { s with world := h.pause seconds s.world }
  | setCode (s : State W) (code : ReturnCode) :
      Makes h s (.setCode code) { s with session := { s.session with code } }
  | setCwd (s : State W) (cwd : String) :
      Makes h s (.setCwd cwd) { s with session := { s.session with cwd } }
  | keep (s : State W) (token : Token) : Makes h s (.keep token) (Interpreter.keep token s)

theorem Deed.Makes.perform_eq {h : Host W} {s t : State W} {c : Call}
    {answer : Except Failure Reply} (made : Deed.Makes h s (.call c answer) t) :
    h.perform c s.world = (answer, t.world) ∧ t.session = s.session := by
  generalize hd : Deed.call c answer = d at made
  cases made <;> cases hd
  exact ⟨rfl, rfl⟩

/-- Deeds lead, one after the other, from one state to another. -/
inductive Course (h : Host W) : State W → List Deed → State W → Prop
  | nil (s : State W) : Course h s [] s
  | cons {s t u : State W} {d : Deed} {ds : List Deed} :
      Deed.Makes h s d t → Course h t ds u → Course h s (d :: ds) u

namespace Course

variable {h : Host W} {s t u : State W} {ds es : List Deed}

theorem append (first : Course h s ds t) (second : Course h t es u) :
    Course h s (ds ++ es) u := by
  induction first with
  | nil s => exact second
  | cons made _ ih => exact .cons made (ih second)

theorem split (course : Course h s (ds ++ es) u) : ∃ t, Course h s ds t ∧ Course h t es u := by
  induction ds generalizing s with
  | nil => exact ⟨s, .nil s, course⟩
  | cons d ds ih =>
    cases course with
    | cons made rest =>
      obtain ⟨t, first, second⟩ := ih rest
      exact ⟨t, .cons made first, second⟩

theorem single {d : Deed} (made : Deed.Makes h s d t) : Course h s [d] t := .cons made (.nil t)

theorem induct {R : State W → Prop} {D : Deed → Prop}
    (step : ∀ {s d t}, D d → Deed.Makes h s d t → R s → R t)
    (course : Course h s ds t) (hds : ∀ d ∈ ds, D d) (start : R s) : R t := by
  induction course with
  | nil => exact start
  | cons made _ ih =>
    have first := step (hds _ List.mem_cons_self) made start
    exact ih (fun d hd => hds d (List.mem_cons_of_mem _ hd)) first

theorem records (course : Course h s ds t) :
    t.errors.records = s.errors.records ++ recordsOf ds := by
  induction course with
  | nil => simp
  | cons made _ ih => cases made <;> simp [ih, Interpreter.keep]

theorem code (course : Course h s ds t) :
    t.session.code = (codesOf ds).getLast?.getD s.session.code := by
  induction course with
  | nil => rfl
  | cons made _ ih => cases made <;> simp [ih, Interpreter.keep, List.getLast?_cons]

theorem cwd (course : Course h s ds t) :
    t.session.cwd = (cwdsOf ds).getLast?.getD s.session.cwd := by
  induction course with
  | nil => rfl
  | cons made _ ih => cases made <;> simp [ih, Interpreter.keep, List.getLast?_cons]

/-- No deed changes where home is or whose session it is. -/
theorem owner (course : Course h s ds t) :
    t.session.home = s.session.home ∧ t.session.user = s.session.user := by
  induction course with
  | nil => exact ⟨rfl, rfl⟩
  | cons made _ ih =>
    cases made with
    | _ => exact ih

/-- On a host with a journal the journal grows by the calls that were made, in their order. -/
theorem entries {h : Host W} {s t : State (Journal W)} {ds : List Deed}
    (course : Course h.journaled s ds t) :
    t.world.entries = s.world.entries ++ entriesOf ds := by
  induction course with
  | nil => simp
  | cons made _ ih => cases made <;> simp [ih, Interpreter.keep, Host.perform_journaled]

/-- All courses between two states make the same calls, since the journal shows them. -/
theorem entries_unique {h : Host W} {s t : State (Journal W)} {ds es : List Deed}
    (course : Course h.journaled s ds t) (other : Course h.journaled s es t) :
    entriesOf ds = entriesOf es := by
  have hjournal := course.entries
  rw [other.entries] at hjournal
  exact (List.append_cancel_left hjournal).symm

end Course
end LineShell
