import LineShell.ErrorLog
import LineShell.Host
import LineShell.Session

/-!
# Actions

A command acts on the state of the interpreter: the session, the error log and the world.  An action
ends in a value or in a failure, and the state it leaves counts in both cases, since what was done
before a failure stays done.
-/

namespace LineShell

/-- What an interpreter works on. -/
structure State (W : Type) where
  session : Session
  errors : ErrorLog
  world : W

/-- A step that may fail. -/
def Action (W α : Type) : Type := State W → Except Failure α × State W

namespace Action

variable {W α β : Type}

/-- Runs an action. -/
def run (x : Action W α) (s : State W) : Except Failure α × State W := x s

instance monadAction : Monad (Action W) where
  pure a := fun s => (.ok a, s)
  bind x f := fun s =>
    match x s with
    | (.ok a, s') => (f a).run s'
    | (.error cause, s') => (.error cause, s')

/-- Breaks off. -/
def abort (cause : Failure) : Action W α := fun s => (.error cause, s)

/-- Calls the host and breaks off if the call fails. -/
def call (attempt : Attempt W α) : Action W α := fun s =>
  let (answer, world) := attempt s.world
  (answer, { s with world })

/-- Calls the host and goes on either way. -/
def attempt (attempt : Attempt W α) : Action W (Except Failure α) := fun s =>
  let (answer, world) := attempt s.world
  (.ok answer, { s with world })

/-- The session as it is. -/
def session : Action W Session := fun s => (.ok s.session, s)

/-- The error log as it is. -/
def errors : Action W ErrorLog := fun s => (.ok s.errors, s)

def modifySession (f : Session → Session) : Action W Unit := fun s =>
  (.ok (), { s with session := f s.session })

/-- Appends a record and gives its position. -/
def push (r : Record) : Action W Nat := fun s =>
  let (position, errors) := s.errors.push r
  (.ok position, { s with errors })

/-- Changes the world in a way that cannot fail. -/
def touch (f : W → W) : Action W Unit := fun s => (.ok (), { s with world := f s.world })

@[simp] theorem run_pure (a : α) (s : State W) : (pure a : Action W α).run s = (.ok a, s) := rfl

theorem run_bind (x : Action W α) (f : α → Action W β) (s : State W) :
    (x >>= f).run s =
      match x.run s with
      | (.ok a, s') => (f a).run s'
      | (.error cause, s') => (.error cause, s') := rfl

theorem run_bind_ok {x : Action W α} {f : α → Action W β} {s s' : State W} {a : α}
    (h : x.run s = (.ok a, s')) : (x >>= f).run s = (f a).run s' := by
  rw [run_bind, h]

theorem run_bind_error {x : Action W α} {f : α → Action W β} {s s' : State W} {cause : Failure}
    (h : x.run s = (.error cause, s')) : (x >>= f).run s = (.error cause, s') := by
  rw [run_bind, h]

@[simp] theorem run_push (r : Record) (s : State W) :
    (push r).run s = (.ok s.errors.count, { s with errors := (s.errors.push r).2 }) := by
  rw [← s.errors.push_fst r]
  rfl

theorem run_push_bind (r : Record) (f : Nat → Action W β) (s : State W) :
    (push r >>= f).run s = (f s.errors.count).run { s with errors := (s.errors.push r).2 } :=
  run_bind_ok (run_push r s)

/-- An attempt itself never breaks off. -/
theorem run_attempt (call : Attempt W α) (s : State W) :
    (attempt call).run s = (.ok (call s.world).1, { s with world := (call s.world).2 }) := rfl

end Action

namespace Host

variable {W : Type}

/-- Tells an event. -/
def tell (h : Host W) (event : Event) : Action W Unit := .touch (h.note event)

/-- Records a failure of the given kind and tells the user of it.  The record stays if the user
cannot be told. -/
def fail (h : Host W) (kind : Kind) (message : String) (item : Option String) : Action W Unit := do
  let position ← .push (Record.ofKind kind)
  h.tell (.recorded kind position message item)
  .call (h.writeError message item)

theorem run_fail (h : Host W) (kind : Kind) (message : String) (item : Option String)
    (s : State W) :
    (h.fail kind message item).run s =
      (Action.call (h.writeError message item)).run
        { s with
          errors := (s.errors.push (Record.ofKind kind)).2
          world := h.note (.recorded kind s.errors.count message item) s.world } :=
  Action.run_push_bind _ _ s

/-- Records a failure and ends the command. -/
def reject (h : Host W) (kind : Kind) (message : String) (item : Option String) :
    Action W Token := do
  h.fail kind message item
  return .success

/-- Writes a line. -/
def print (h : Host W) (text : String) : Action W Unit := .call (h.writeLine text)

/-- Writes lines in order, up to the first that fails. -/
def printAll (h : Host W) : List String → Action W Unit
  | [] => pure ()
  | text :: rest => do
    h.print text
    h.printAll rest

/-- Writes a labelled value. -/
def printLabeled (h : Host W) (label value : String) : Action W Unit :=
  h.print (labeledLine label value)

end Host
end LineShell
