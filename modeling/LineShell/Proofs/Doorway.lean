import LineShell.Proofs.Projection

/-!
# The door to the input

The world of a host does not show whether the input was opened.  A `Doorway` is a world with a
journal of the calls and, beside it, a list of the openings of the input: what had been called until
then and what came of it.  A host at the door does what the host does, so what the list shows of a
run holds of the run without it.
-/

namespace LineShell

variable {W : Type}

/-- An opening of the input. -/
structure Opening where
  /-- The calls that were made before. -/
  calls : List Entry
  answer : Except Failure Unit

structure Doorway (W : Type) extends Journal W where
  openings : List Opening := []

def Doorway.part : Part (Doorway W) (Journal W) where
  get d := d.toJournal
  set journal d := { d with toJournal := journal }

/-- The host that keeps a journal and leaves the openings to others. -/
def Host.atDoor (h : Host W) : Host (Doorway W) where
  toFileSystem := h.journaled.toFileSystem.within Doorway.part
  toOutput := h.journaled.toOutput.within Doorway.part
  toExecutor := h.journaled.toExecutor.within Doorway.part
  note event d := { d with world := h.note event d.world }
  pause seconds d := { d with world := h.pause seconds d.world }

def Supply.atDoor : Supply W → Supply (Doorway W)
  | .ended ending => .ended ending
  | .line text rest => .line text rest.atDoor
  | .ask look after =>
    .ask (fun d => (look d.world).atDoor) fun d => { d with world := after d.world }

def LineSource.atDoor (source : LineSource W) : LineSource (Doorway W) where
  supply := source.supply.atDoor
  showPrompt prompt d := { d with world := source.showPrompt prompt d.world }

/-- Opens the input and puts it down. -/
def Opener.atDoor (openSource : Attempt W (LineSource W)) :
    Attempt (Doorway W) (LineSource (Doorway W)) := fun d =>
  let (answer, world) := openSource d.world
  (answer.map LineSource.atDoor,
    { d with world, openings := d.openings ++ [⟨d.entries, answer.map fun _ => ()⟩] })

theorem Opener.atDoor_of {openSource : Attempt W (LineSource W)} {d : Doorway W}
    {answer : Except Failure (LineSource W)} {w : W} (hr : openSource d.world = (answer, w)) :
    Opener.atDoor openSource d =
      (answer.map LineSource.atDoor,
        { d with
          world := w,
          openings := d.openings ++ [⟨d.entries, answer.map fun _ => ()⟩] }) := by
  simp only [Opener.atDoor, hr]

def State.atDoor (s : State W) : State (Doorway W) := { s with world := { world := s.world } }

/-! ## Nobody can tell -/

theorem Host.perform_atDoor (h : Host W) (c : Call) (d : Doorway W) :
    h.atDoor.perform c d =
      ((h.perform c d.world).1,
        { d with
          world := (h.perform c d.world).2,
          entries := d.entries ++ [⟨c, (h.perform c d.world).1⟩] }) := by
  cases c with
  | edit edit path => cases edit <;> rfl
  | _ => rfl

theorem Host.over_atDoor (h : Host W) : Host.Over (fun d => d.world) h.atDoor h where
  perform c d := by rw [h.perform_atDoor]
  note _ _ := rfl
  pause _ _ := rfl

theorem Supply.over_atDoor (supply : Supply W) :
    Supply.Over (fun d => d.world) supply.atDoor supply := by
  induction supply with
  | ended ending => exact .ended ending
  | line text rest ih => exact .line text ih
  | ask look after ih => exact .ask (fun d => ih d.world) fun _ => rfl

theorem LineSource.over_atDoor (source : LineSource W) :
    LineSource.Over (fun d => d.world) source.atDoor source :=
  ⟨source.supply.over_atDoor, fun _ _ => rfl⟩

theorem Opener.over_atDoor (openSource : Attempt W (LineSource W)) :
    Opener.Over (fun d => d.world) (Opener.atDoor openSource) openSource where
  answer d := by
    simp only [Opener.atDoor]
    cases (openSource d.world).1 with
    | error cause => exact .error cause
    | ok source => exact .ok source.over_atDoor
  world _ := rfl

/-! ## What happens at the door -/

@[simp] theorem Host.note_atDoor (h : Host W) (event : Event) (d : Doorway W) :
    h.atDoor.note event d = { d with world := h.note event d.world } := rfl

@[simp] theorem Host.pause_atDoor (h : Host W) (seconds : Nat) (d : Doorway W) :
    h.atDoor.pause seconds d = { d with world := h.pause seconds d.world } := rfl

/-- At the door the journal grows by the calls that were made, and nothing is opened. -/
theorem Course.atDoor {h : Host W} {s t : State (Doorway W)} {ds : List Deed}
    (course : Course h.atDoor s ds t) :
    t.world.entries = s.world.entries ++ entriesOf ds ∧ t.world.openings = s.world.openings := by
  induction course with
  | nil => simp
  | cons made _ ih => cases made <;> simp [ih, Interpreter.keep, Host.perform_atDoor]

/-- What reading lines does at the door. -/
def Doorway.Aside (d d' : Doorway W) : Prop := d'.openings = d.openings

theorem Supply.within_atDoor (supply : Supply W) : supply.atDoor.Within Doorway.Aside := by
  induction supply with
  | ended ending => trivial
  | line text rest ih => exact ih
  | ask look after ih => exact fun d => ⟨rfl, ih d.world⟩

namespace Interpreter

theorem law_openings (h : Host W) :
    Law (standard h.atDoor) Doorway.Aside fun _ s t => t.world.openings = s.world.openings where
  refl _ := rfl
  trans first second := second.trans first
  dispatch words s := by
    obtain ⟨-, ds, course, -⟩ := account_dispatch h.atDoor words s
    exact course.atDoor.2
  tell _ _ := rfl
  aside _ _ hw := hw
  reset _ := rfl

theorem openings_loop (h : Host W) (source : LineSource W) (s : State (Doorway W)) :
    ((standard h.atDoor).loop source.atDoor s).2.2.world.openings = s.world.openings := by
  have hshow : ∀ prompt d, Doorway.Aside d (source.atDoor.showPrompt prompt d) := fun _ _ => rfl
  exact (law_openings h).readLines hshow source.supply.within_atDoor s

/-- A session opens its input once. -/
theorem openings_converse (h : Host W) (openSource : Attempt W (LineSource W))
    (s : State (Doorway W)) :
    ((standard h.atDoor).converse (Opener.atDoor openSource) s).2.world.openings =
      s.world.openings ++
        [⟨s.world.entries, (openSource s.world.world).1.map fun _ => ()⟩] := by
  cases hr : openSource s.world.world with
  | mk answer w =>
    have hopen := Opener.atDoor_of hr
    cases answer with
    | error cause =>
      rw [converse_of_error hopen]
    | ok source =>
      rw [converse_of_ok hopen]
      exact openings_loop h source _

end Interpreter
end LineShell
