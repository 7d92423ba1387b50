import Mathlib.Data.List.Induction
import Mathlib.Data.List.Nodup
import Mathlib.Data.List.Pairwise
import LineShell.Standard.Table

/-!
# The built-in commands by name

A name finds the command that was registered under it last.  This is `resolve_ofList`, and it is
what the rest of the theory knows of the table: a standard command is found under each of its names,
and whatever is found is a standard command under one of its names.  What help shows of a table does
not depend on what its commands do.

The table of commands holds functions, which cannot be told apart by computing.  `Builtin` names its
members, so that a statement on every command is a case for each of them, and `resolve_table` says
that the table finds under a name the command of the member that has this name.
-/

namespace LineShell

/-! ## Which command answers to a name -/

namespace Registry

variable {W : Type}

/-- Every name of the index leads to a stored command. -/
def Sound (r : Registry W) : Prop :=
  ∀ name slot, r.slot? name = some slot → slot < r.commands.length

theorem sound_empty : Sound ({} : Registry W) := by
  intro name slot h
  cases h

/-- A registration keeps every slot in range: the new names get the new slot, and the list of
commands only grows. -/
theorem Sound.register {r : Registry W} (hr : r.Sound) (c : Command W) :
    (r.register c).Sound := by
  intro name slot h
  rw [commands_register, List.length_append, List.length_singleton]
  by_cases hn : name ∈ c.names
  · rw [slot?_register_of_mem r hn] at h
    cases h
    omega
  · rw [slot?_register_of_not_mem r hn] at h
    have := hr name slot h
    omega

theorem ofList_concat (cs : List (Command W)) (c : Command W) :
    ofList (cs ++ [c]) = (ofList cs).register c := by
  simp [ofList]

theorem sound_ofList (cs : List (Command W)) : (ofList cs).Sound := by
  induction cs using List.reverseRecOn with
  | nil => exact sound_empty
  | append_singleton cs c ih =>
    rw [ofList_concat]
    exact ih.register c

theorem Sound.resolve_register {r : Registry W} (hr : r.Sound) (c : Command W) (name : String) :
    (r.register c).resolve name = if name ∈ c.names then some c else r.resolve name := by
  by_cases hn : name ∈ c.names
  · rw [if_pos hn, resolve, slot?_register_of_mem r hn]
    simp
  · rw [if_neg hn, resolve, resolve, slot?_register_of_not_mem r hn]
    cases hs : r.slot? name with
    | none => rfl
    | some slot => simp [List.getElem?_append_left (hr name slot hs)]

/-- A name finds the last registered command that has it. -/
theorem resolve_ofList (cs : List (Command W)) (name : String) :
    (ofList cs).resolve name = cs.reverse.find? fun c => name ∈ c.names := by
  induction cs using List.reverseRecOn with
  | nil => rfl
  | append_singleton cs c ih =>
    rw [ofList_concat, (sound_ofList cs).resolve_register, ih, List.reverse_concat]
    by_cases hn : name ∈ c.names <;> simp [hn]

theorem mem_of_resolve_ofList {cs : List (Command W)} {name : String} {c : Command W}
    (h : (ofList cs).resolve name = some c) : c ∈ cs ∧ name ∈ c.names := by
  rw [resolve_ofList] at h
  exact ⟨List.mem_reverse.mp (List.mem_of_find?_eq_some h), by simpa using List.find?_some h⟩

theorem not_mem_of_resolve_ofList {cs : List (Command W)} {name : String} {c : Command W}
    (h : (ofList cs).resolve name = none) (hc : c ∈ cs) : name ∉ c.names := by
  rw [resolve_ofList, List.find?_eq_none] at h
  simpa using h c (List.mem_reverse.mpr hc)

theorem Sound.contains_eq {r : Registry W} (hr : r.Sound) (name : String) :
    r.contains name = (r.resolve name).isSome := by
  rw [contains, resolve]
  cases hs : r.slot? name with
  | none => rfl
  | some slot => simp [hr name slot hs]

/-! ## Tables that show the same -/

variable {V : Type}

/-- Two tables that show the same, whatever their commands do. -/
structure Alike (r : Registry V) (r' : Registry W) : Prop where
  index : r.index = r'.index
  shown : r.commands.map Command.toSynopsis = r'.commands.map Command.toSynopsis

theorem Alike.register {r : Registry V} {r' : Registry W} (alike : Alike r r') {c : Command V}
    {c' : Command W} (hc : c.toSynopsis = c'.toSynopsis) :
    Alike (r.register c) (r'.register c') := by
  have hlength : r.commands.length = r'.commands.length := by
    simpa using congrArg List.length alike.shown
  constructor
  · simp only [Registry.register, hc, hlength, alike.index]
  · simp [Registry.register, hc, alike.shown]

theorem alike_ofList {cs : List (Command V)} {cs' : List (Command W)}
    (hcs : cs.map Command.toSynopsis = cs'.map Command.toSynopsis) :
    Alike (ofList cs) (ofList cs') := by
  have hfold : ∀ {r : Registry V} {r' : Registry W}, Alike r r' →
      Alike (cs.foldl Registry.register r) (cs'.foldl Registry.register r') := by
    induction cs generalizing cs' with
    | nil =>
      obtain rfl := List.map_eq_nil_iff.mp hcs.symm
      exact id
    | cons c rest ih =>
      obtain ⟨c', rest', rfl, hc, hrest⟩ := List.map_eq_cons_iff.mp hcs.symm
      exact fun alike => ih hrest.symm (alike.register hc.symm)
  exact hfold ⟨rfl, rfl⟩

theorem synopses_eq_filter (r : Registry W) :
    r.synopses = ((r.commands.map Command.toSynopsis).zipIdx.filter fun entry =>
      entry.1.names.any fun name => r.slot? name == some entry.2).map Prod.fst := by
  simp only [synopses, reachable, List.zipIdx_map, List.filter_map, List.map_map]
  rfl

theorem Alike.synopses_eq {r : Registry V} {r' : Registry W} (alike : Alike r r') :
    r.synopses = r'.synopses := by
  rw [synopses_eq_filter, synopses_eq_filter, alike.shown]
  simp only [slot?, alike.index]

end Registry

namespace Standard

variable {W : Type}

theorem mem_of_resolve {h : Host W} {name : String} {c : Command W}
    (hc : (table h).resolve name = some c) : c ∈ commands h ∧ name ∈ c.names :=
  Registry.mem_of_resolve_ofList hc

theorem not_mem_of_resolve {h : Host W} {name : String} {c : Command W}
    (hn : (table h).resolve name = none) (hc : c ∈ commands h) : name ∉ c.names :=
  Registry.not_mem_of_resolve_ofList hn hc

end Standard

/-! ## The members of the table -/

/-- The members of the standard table. -/
inductive Builtin where
  | cd
  | gwd
  | exit
  | leave
  | restart
  | version
  | clear
  | print
  | sleep
  | throw
  | trace
  | system
  | single (edit : PathEdit)
  | batch (edit : PathEdit)
  | ls
  | help
  deriving DecidableEq, Repr

namespace Builtin

def all : List Builtin :=
  [.cd, .gwd, .exit, .leave, .restart, .version, .clear, .print, .sleep, .throw, .trace, .system,
   .single .createFile, .single .removeFile, .single .createDir, .single .removeDir,
   .batch .createFile, .batch .removeFile, .batch .createDir, .batch .removeDir, .ls, .help]

def names : Builtin → List String
  | .cd => ["cd", "chdir", "cwd"]
  | .gwd => ["gwd"]
  | .exit => ["exit", "quit", "q"]
  | .leave => ["return"]
  | .restart => ["restart"]
  | .version => ["version", "info"]
  | .clear => ["clear", "cls"]
  | .print => ["stdout", "print"]
  | .sleep => ["sleep"]
  | .throw => ["throw"]
  | .trace => ["trace", "traceback"]
  | .system => ["sh", "sys", "system"]
  | .single edit => Standard.singleNames edit
  | .batch edit => Standard.batchNames edit
  | .ls => ["ls", "listdir", "dig"]
  | .help => ["help"]

def ofName? (name : String) : Option Builtin := all.find? fun b => name ∈ b.names

variable {W : Type}

def command (h : Host W) : Builtin → Command W
  | .cd => Standard.cd h
  | .gwd => Standard.gwd h
  | .exit => Standard.exit
  | .leave => Standard.leave h
  | .restart => Standard.restart
  | .version => Standard.version h
  | .clear => Standard.clear h
  | .print => Standard.print h
  | .sleep => Standard.sleep h
  | .throw => Standard.throw h
  | .trace => Standard.trace h
  | .system => Standard.system h
  | .single edit => Standard.single h edit
  | .batch edit => Standard.batch h edit
  | .ls => Standard.ls h
  | .help => Standard.help h

theorem commands_eq (h : Host W) : Standard.commands h = all.map (command h) := rfl

theorem names_command (h : Host W) (b : Builtin) : (command h b).names = b.names := by
  cases b <;> rfl

theorem mem_all (b : Builtin) : b ∈ all := by
  cases b with
  | single edit => cases edit <;> decide
  | batch edit => cases edit <;> decide
  | _ => decide

/-- No name has two members. -/
theorem eq_of_mem_names {b c : Builtin} {name : String} (hb : name ∈ b.names)
    (hc : name ∈ c.names) : b = c := by
  have hnodup : (all.flatMap names).Nodup := by decide
  have hdisjoint := (List.nodup_flatMap.mp hnodup).2
  by_contra hne
  have : Std.Symm (Function.onFun List.Disjoint names) := ⟨fun _ _ h _ ha hb => h hb ha⟩
  exact hdisjoint.forall (mem_all b) (mem_all c) hne hb hc

theorem ofName?_eq_some_iff {name : String} {b : Builtin} :
    ofName? name = some b ↔ name ∈ b.names := by
  constructor
  · intro h
    simpa using List.find?_some h
  · intro hb
    cases hf : ofName? name with
    | none =>
      have := List.find?_eq_none.mp hf b (mem_all b)
      simp [hb] at this
    | some c =>
      have hc : name ∈ c.names := by simpa using List.find?_some hf
      rw [eq_of_mem_names hb hc]

theorem eq_iff_ofName?_eq_some {b : Builtin} {only : String} (hb : b.names = [only])
    (name : String) : name = only ↔ ofName? name = some b := by
  rw [ofName?_eq_some_iff, hb, List.mem_singleton]

theorem ofName?_eq_none_iff {name : String} :
    ofName? name = none ↔ ∀ b : Builtin, name ∉ b.names := by
  rw [← Option.not_isSome_iff_eq_none, Option.isSome_iff_exists]
  simp [ofName?_eq_some_iff]

/-- The table finds the command of the member that has the name. -/
theorem resolve_table (h : Host W) (name : String) :
    (Standard.table h).resolve name = (ofName? name).map (command h) := by
  cases hr : (Standard.table h).resolve name with
  | none =>
    have hn : ofName? name = none := by
      rw [ofName?_eq_none_iff]
      intro b hb
      have hb' : command h b ∈ Standard.commands h := List.mem_map_of_mem (mem_all b)
      exact Standard.not_mem_of_resolve hr hb' (names_command h b ▸ hb)
    rw [hn, Option.map_none]
  | some c =>
    obtain ⟨hc, hname⟩ := Standard.mem_of_resolve hr
    rw [commands_eq] at hc
    obtain ⟨b, -, rfl⟩ := List.mem_map.mp hc
    rw [names_command] at hname
    rw [ofName?_eq_some_iff.mpr hname, Option.map_some]

end Builtin

/-- Help shows the same on every host. -/
theorem Standard.synopses_table {V W : Type} (h : Host V) (h' : Host W) :
    (Standard.table h).synopses = (Standard.table h').synopses := by
  refine (Registry.alike_ofList ?_).synopses_eq
  rw [Builtin.commands_eq, Builtin.commands_eq, List.map_map, List.map_map]
  refine List.map_congr_left fun b _ => ?_
  cases b <;> rfl

end LineShell
