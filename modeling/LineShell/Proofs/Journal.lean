import LineShell.Action

/-!
# Calls on the host and the journal of them

What an interpreter asks of its host is a list of calls, each with its operands and its answer.  The
interpreter keeps no such list, and a host is a record of functions that nobody can look into.  But
hosts act on worlds of any type, so for every host there is one that does the same and writes down
what it is asked: `Host.journaled`.  A statement on the calls of a run is a statement on the journal
that the run leaves on this host.
-/

namespace LineShell

/-- A call on the host, with its operands.  The calls on files and directories come first, then the
calls on the output, then the one that runs a command line. -/
inductive Call where
  | edit (edit : PathEdit) (path : String)
  | list (path : String)
  /-- Asks for the working directory. -/
  | locate
  | move (path : String)
  | line (text : String)
  /-- Writes an error line. -/
  | complain (message : String) (item : Option String)
  | clear
  | run (line : String)
  deriving DecidableEq, Repr

/-- What a call that works gives back. -/
inductive Reply where
  | done
  | names (names : List String)
  | place (path : String)
  deriving DecidableEq, Repr

/-- A call that was made, and what came of it. -/
structure Entry where
  call : Call
  answer : Except Failure Reply

namespace Call

/-- Whether a call is on files and directories. -/
def isFiling : Call → Bool
  | .edit .. | .list _ | .locate | .move _ => true
  | .line _ | .complain .. | .clear | .run _ => false

def isOutput : Call → Bool
  | .line _ | .complain .. | .clear => true
  | _ => false

def isComplaint : Call → Bool
  | .complain .. => true
  | _ => false

def isMove : Call → Bool
  | .move _ => true
  | _ => false

def isLocate : Call → Bool
  | .locate => true
  | _ => false

/-- Whether the user has to be told if the call fails.  A working directory that cannot be named is
a failure only for whom it was `wanted`. -/
def owesComplaint (wanted : Bool) : Call → Bool
  | .edit .. | .list _ | .move _ | .run _ => true
  | .locate => wanted
  | .line _ | .complain .. | .clear => false

end Call

namespace Entry

def failed (e : Entry) : Bool := !e.answer.isOk

def isComplaint (e : Entry) : Bool := e.call.isComplaint

/-- A call on the output that failed. -/
def isLost (e : Entry) : Bool := e.failed && e.call.isOutput

/-- A call whose failure the user has to be told. -/
def isRefusal (wanted : Bool) (e : Entry) : Bool := e.failed && e.call.owesComplaint wanted

def isUnlocated (e : Entry) : Bool := e.failed && e.call.isLocate

end Entry

variable {W α : Type}

/-- A call with its answer in the common form. -/
def Attempt.reply (f : α → Reply) (attempt : Attempt W α) : Attempt W Reply := fun w =>
  ((attempt w).1.map f, (attempt w).2)

theorem Attempt.of_reply_ok {f : α → Reply} {attempt : Attempt W α} {w w' : W} {reply : Reply}
    (hr : attempt.reply f w = (.ok reply, w')) : ∃ a, attempt w = (.ok a, w') ∧ f a = reply := by
  unfold Attempt.reply at hr
  cases ha : attempt w with
  | mk answer v =>
    rw [ha] at hr
    cases answer with
    | ok a =>
      cases hr
      exact ⟨a, rfl, rfl⟩
    | error cause => cases hr

theorem Attempt.of_reply_error {f : α → Reply} {attempt : Attempt W α} {w w' : W}
    {cause : Failure} (hr : attempt.reply f w = (.error cause, w')) :
    attempt w = (.error cause, w') := by
  unfold Attempt.reply at hr
  cases ha : attempt w with
  | mk answer v =>
    rw [ha] at hr
    cases answer with
    | ok a => cases hr
    | error cause =>
      cases hr
      rfl

def Host.perform (h : Host W) : Call → Attempt W Reply
  | .edit edit path => (h.edit edit path).reply fun _ => .done
  | .list path => (h.listDir path).reply .names
  | .locate => h.currentDir.reply .place
  | .move path => (h.setCurrentDir path).reply fun _ => .done
  | .line text => (h.writeLine text).reply fun _ => .done
  | .complain message item => (h.writeError message item).reply fun _ => .done
  | .clear => h.clear.reply fun _ => .done
  | .run line => (h.run line).reply fun _ => .done

/-! ## The journal -/

/-- A world together with the calls that were made on it, oldest first. -/
structure Journal (W : Type) where
  world : W
  entries : List Entry := []

def Attempt.recorded (c : Call) (f : α → Reply) (attempt : Attempt W α) :
    Attempt (Journal W) α := fun j =>
  let (answer, world) := attempt j.world
  (answer, { world, entries := j.entries ++ [⟨c, answer.map f⟩] })

/-- The host that does what another one does and keeps a journal of the calls. -/
def Host.journaled (h : Host W) : Host (Journal W) where
  createFile path := .recorded (.edit .createFile path) (fun _ => .done) (h.createFile path)
  removeFile path := .recorded (.edit .removeFile path) (fun _ => .done) (h.removeFile path)
  createDir path := .recorded (.edit .createDir path) (fun _ => .done) (h.createDir path)
  removeDir path := .recorded (.edit .removeDir path) (fun _ => .done) (h.removeDir path)
  listDir path := .recorded (.list path) .names (h.listDir path)
  currentDir := .recorded .locate .place h.currentDir
  setCurrentDir path := .recorded (.move path) (fun _ => .done) (h.setCurrentDir path)
  writeLine text := .recorded (.line text) (fun _ => .done) (h.writeLine text)
  writeError message item :=
    .recorded (.complain message item) (fun _ => .done) (h.writeError message item)
  clear := .recorded .clear (fun _ => .done) h.clear
  run line := .recorded (.run line) (fun _ => .done) (h.run line)
  note event j := { j with world := h.note event j.world }
  pause seconds j := { j with world := h.pause seconds j.world }

theorem Host.perform_journaled (h : Host W) (c : Call) (j : Journal W) :
    h.journaled.perform c j =
      ((h.perform c j.world).1,
        { world := (h.perform c j.world).2,
          entries := j.entries ++ [⟨c, (h.perform c j.world).1⟩] }) := by
  cases c with
  | edit edit path => cases edit <;> rfl
  | _ => rfl

@[simp] theorem Host.entries_note_journaled (h : Host W) (event : Event) (j : Journal W) :
    (h.journaled.note event j).entries = j.entries := rfl

@[simp] theorem Host.entries_pause_journaled (h : Host W) (seconds : Nat) (j : Journal W) :
    (h.journaled.pause seconds j).entries = j.entries := rfl

/-- A host without files.  The world is the working directory, and every directory that has a name
can be entered. -/
def Host.bare : Host String where
  createFile _ := .refuse (.system .noAccess)
  removeFile _ := .refuse (.system .notFound)
  createDir _ := .refuse (.system .noAccess)
  removeDir _ := .refuse (.system .notFound)
  listDir _ w := (.ok [], w)
  currentDir w := (.ok w, w)
  setCurrentDir path w := if path = "" then (.error (.system .notFound), w) else (.ok (), path)
  writeLine _ w := (.ok (), w)
  writeError _ _ w := (.ok (), w)
  clear w := (.ok (), w)
  run _ := .refuse (.system .notFound)
  note _ w := w
  pause _ w := w

namespace State

def journaled (s : State W) : State (Journal W) := { s with world := { world := s.world } }

def forget (s : State (Journal W)) : State W := { s with world := s.world.world }

@[simp] theorem entries_journaled (s : State W) : s.journaled.world.entries = [] := rfl

end State
end LineShell
