import LineShell.Command

/-!
# The table of commands

Commands are stored in the order of their registration, and an index says for each name which stored
command answers to it.  A later registration takes over the names it shares with earlier ones.  A
command that has lost all its names, or never had one, stays stored and is out of reach.
-/

namespace LineShell

structure Registry (W : Type) where
  /-- The stored commands, in the order of registration. -/
  commands : List (Command W) := []
  /-- Each name with the slot of its command; the first entry for a name counts. -/
  index : List (String × Nat) := []

namespace Registry

variable {W : Type}

/-- The slot of the command that answers to a name. -/
def slot? (r : Registry W) (name : String) : Option Nat := r.index.lookup name

/-- Stores a command in the next slot and gives it all of its names. -/
def register (r : Registry W) (command : Command W) : Registry W :=
  { commands := r.commands ++ [command]
    index := command.names.map (fun name => (name, r.commands.length)) ++ r.index }

/-- The table with the given commands, registered in order. -/
def ofList (commands : List (Command W)) : Registry W := commands.foldl register {}

/-- The command that answers to a name. -/
def resolve (r : Registry W) (name : String) : Option (Command W) :=
  (r.slot? name).bind fun slot => r.commands[slot]?

def contains (r : Registry W) (name : String) : Bool := (r.slot? name).isSome

/-- The commands that still answer to one of their names, in the order of registration. -/
def reachable (r : Registry W) : List (Command W) :=
  (r.commands.zipIdx.filter fun entry =>
    entry.1.names.any fun name => r.slot? name == some entry.2).map Prod.fst

/-- What help shows of the table. -/
def synopses (r : Registry W) : List Synopsis := r.reachable.map Command.toSynopsis

@[simp] theorem commands_register (r : Registry W) (command : Command W) :
    (r.register command).commands = r.commands ++ [command] := rfl

theorem lookup_map_slot (names : List String) (slot : Nat) (name : String) :
    (names.map fun n => (n, slot)).lookup name = if name ∈ names then some slot else none := by
  induction names with
  | nil => rfl
  | cons n rest ih =>
    by_cases h : name = n
    · simp [h]
    · have hn : (name == n) = false := by simpa using h
      simp [List.lookup_cons, hn, h, ih]

/-- A command answers to its own names from its registration on. -/
theorem slot?_register_of_mem (r : Registry W) {command : Command W} {name : String}
    (h : name ∈ command.names) : (r.register command).slot? name = some r.commands.length := by
  simp [slot?, register, List.lookup_append, lookup_map_slot, h]

/-- A registration leaves the other names alone. -/
theorem slot?_register_of_not_mem (r : Registry W) {command : Command W} {name : String}
    (h : name ∉ command.names) : (r.register command).slot? name = r.slot? name := by
  simp [slot?, register, List.lookup_append, lookup_map_slot, h]

end Registry
end LineShell
