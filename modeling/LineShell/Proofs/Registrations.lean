import Mathlib.Data.List.Range
import LineShell.Proofs.Builtin

/-!
# The table as a history of registrations

A table is made by registering commands one after the other, and nothing else about it counts.  The
last registration that has a name answers to it, and a command is listed as long as one of its names
has not been taken over.  Two registrations may be of the same command, so a registration is known
by its place in the history; `table_of_history` says for every history what the table answers and
what it lists.
-/

namespace LineShell
namespace Registry

variable {W : Type}

theorem commands_ofList (cs : List (Command W)) : (ofList cs).commands = cs := by
  induction cs using List.reverseRecOn with
  | nil => rfl
  | append_singleton cs c ih => rw [ofList_concat, commands_register, ih]

/-! ## Who has a name -/

/-- The registration at a place is the last one that has the name. -/
structure IsLatest (cs : List (Command W)) (name : String) (i : Nat) : Prop where
  named : ∃ c, cs[i]? = some c ∧ name ∈ c.names
  latest : ∀ j c, i < j → cs[j]? = some c → name ∉ c.names

theorem IsLatest.lt_length {cs : List (Command W)} {name : String} {i : Nat}
    (h : IsLatest cs name i) : i < cs.length := by
  obtain ⟨c, hc, -⟩ := h.named
  exact (List.getElem?_eq_some_iff.mp hc).1

theorem isLatest_concat_of_mem (cs : List (Command W)) {c : Command W} {name : String}
    (hn : name ∈ c.names) (i : Nat) : IsLatest (cs ++ [c]) name i ↔ i = cs.length := by
  constructor
  · intro h
    have hi := h.lt_length
    rw [List.length_append, List.length_singleton] at hi
    by_contra hne
    exact h.latest cs.length c (by omega) (by simp) hn
  · rintro rfl
    refine ⟨⟨c, by simp, hn⟩, fun j c' hj hc' => ?_⟩
    have hlength := (List.getElem?_eq_some_iff.mp hc').1
    rw [List.length_append, List.length_singleton] at hlength
    omega

theorem isLatest_concat_of_not_mem (cs : List (Command W)) {c : Command W} {name : String}
    (hn : name ∉ c.names) (i : Nat) : IsLatest (cs ++ [c]) name i ↔ IsLatest cs name i := by
  constructor
  · intro h
    have hlt : i < cs.length := by
      obtain ⟨c', hc', hname⟩ := h.named
      by_contra hge
      have hi := h.lt_length
      rw [List.length_append, List.length_singleton] at hi
      obtain rfl : i = cs.length := by omega
      rw [List.getElem?_concat_length] at hc'
      cases hc'
      exact hn hname
    obtain ⟨c', hc', hname⟩ := h.named
    rw [List.getElem?_append_left hlt] at hc'
    refine ⟨⟨c', hc', hname⟩, fun j d hj hd => ?_⟩
    have hlength := (List.getElem?_eq_some_iff.mp hd).1
    exact h.latest j d hj (by rw [List.getElem?_append_left hlength, hd])
  · intro h
    obtain ⟨c', hc', hname⟩ := h.named
    refine ⟨⟨c', ?_, hname⟩, fun j d hj hd => ?_⟩
    · rw [List.getElem?_append_left h.lt_length, hc']
    · by_cases hlength : j < cs.length
      · rw [List.getElem?_append_left hlength] at hd
        exact h.latest j d hj hd
      · rw [List.getElem?_append_right (by omega)] at hd
        obtain rfl := List.mem_singleton.mp (List.mem_of_getElem? hd)
        exact hn

/-- The index leads from a name to the last registration that has it. -/
theorem slot?_ofList_eq_some_iff (cs : List (Command W)) (name : String) (i : Nat) :
    (ofList cs).slot? name = some i ↔ IsLatest cs name i := by
  induction cs using List.reverseRecOn with
  | nil =>
    refine iff_of_false (by simp [ofList, slot?]) fun h => ?_
    exact absurd h.lt_length (Nat.not_lt_zero i)
  | append_singleton cs c ih =>
    have hcommands : (ofList cs).commands.length = cs.length := by rw [commands_ofList]
    rw [ofList_concat]
    by_cases hn : name ∈ c.names
    · rw [slot?_register_of_mem _ hn, isLatest_concat_of_mem cs hn, hcommands,
        Option.some_inj, eq_comm]
    · rw [slot?_register_of_not_mem _ hn, isLatest_concat_of_not_mem cs hn, ih]

theorem resolve_ofList_eq_some_iff (cs : List (Command W)) (name : String) (c : Command W) :
    (ofList cs).resolve name = some c ↔ ∃ i, IsLatest cs name i ∧ cs[i]? = some c := by
  rw [resolve, commands_ofList, Option.bind_eq_some_iff]
  simp only [slot?_ofList_eq_some_iff]

theorem resolve_ofList_eq_none_iff (cs : List (Command W)) (name : String) :
    (ofList cs).resolve name = none ↔ ∀ c ∈ cs, name ∉ c.names := by
  rw [resolve_ofList, List.find?_eq_none]
  simp

/-! ## Who is listed -/

/-- A registration is listed if its own place is what one of its names leads to. -/
def isListed (r : Registry W) (entry : Command W × Nat) : Bool :=
  entry.1.names.any fun name => r.slot? name == some entry.2

/-- The places of the registrations that are listed. -/
def listedSlots (r : Registry W) : List Nat := (r.commands.zipIdx.filter r.isListed).map Prod.snd

theorem pairwise_listedSlots (r : Registry W) : r.listedSlots.Pairwise (· < ·) := by
  have hrange : (r.commands.zipIdx.map Prod.snd).Pairwise (· < ·) := by
    rw [List.zipIdx_map_snd]
    exact List.pairwise_lt_range'
  exact hrange.sublist (List.filter_sublist.map Prod.snd)

theorem map_some_reachable (r : Registry W) :
    r.reachable.map some = r.listedSlots.map (r.commands[·]?) := by
  rw [reachable, listedSlots, List.map_map, List.map_map]
  refine List.map_congr_left fun entry hentry => ?_
  have hmem := (List.mem_filter.mp hentry).1
  exact (List.mem_zipIdx_iff_getElem?.mp hmem).symm

/-- What is listed at some place is the command of the registration that is listed there. -/
theorem getElem?_reachable {r : Registry W} {k i : Nat} (hk : r.listedSlots[k]? = some i) :
    r.reachable[k]? = r.commands[i]? := by
  have hplace : (r.reachable.map some)[k]? = (r.listedSlots.map (r.commands[·]?))[k]? := by
    rw [map_some_reachable]
  rw [List.getElem?_map, List.getElem?_map, hk, Option.map_some] at hplace
  obtain ⟨c, hc, hcommand⟩ := Option.map_eq_some_iff.mp hplace
  rw [hc, hcommand]

theorem mem_listedSlots_ofList_iff (cs : List (Command W)) (i : Nat) :
    i ∈ (ofList cs).listedSlots ↔ ∃ name, IsLatest cs name i := by
  constructor
  · intro hi
    obtain ⟨entry, hentry, rfl⟩ := List.mem_map.mp hi
    obtain ⟨name, -, hslot⟩ := List.any_eq_true.mp (List.mem_filter.mp hentry).2
    exact ⟨name, (slot?_ofList_eq_some_iff cs name _).mp (by simpa using hslot)⟩
  · rintro ⟨name, h⟩
    obtain ⟨c, hc, hname⟩ := h.named
    refine List.mem_map.mpr ⟨(c, i), List.mem_filter.mpr ⟨?_, ?_⟩, rfl⟩
    · rw [commands_ofList]
      exact List.mem_zipIdx_iff_getElem?.mpr hc
    · have hslot := (slot?_ofList_eq_some_iff cs name i).mpr h
      exact List.any_eq_true.mpr ⟨name, hname, by simp [hslot]⟩

theorem mem_reachable_ofList_iff (cs : List (Command W)) (c : Command W) :
    c ∈ (ofList cs).reachable ↔ ∃ name ∈ c.names, (ofList cs).resolve name = some c := by
  have hmem : c ∈ (ofList cs).reachable ↔
      ∃ i ∈ (ofList cs).listedSlots, (ofList cs).commands[i]? = some c := by
    rw [← List.mem_map, ← map_some_reachable, List.mem_map]
    simp
  simp only [hmem, commands_ofList, mem_listedSlots_ofList_iff, resolve_ofList_eq_some_iff]
  constructor
  · rintro ⟨i, ⟨name, h⟩, hc⟩
    obtain ⟨c', hc', hname⟩ := h.named
    rw [hc] at hc'
    cases hc'
    exact ⟨name, hname, i, h, hc⟩
  · rintro ⟨name, -, i, h, hc⟩
    exact ⟨i, ⟨name, h⟩, hc⟩

/-- What a table answers and lists, for every history of registrations.  A name finds the last
registration that has it, and is in the table if there is one.  The commands that are listed are
those of the registrations that are still found by a name of their own, in the order of
registration and each once; so whatever a name finds is listed, and what has lost all of its names,
or never had one, is not.  One more registration changes only what its own names find. -/
theorem table_of_history (cs : List (Command W)) :
    let r := ofList cs
    (∀ name c, r.resolve name = some c ↔ ∃ i, IsLatest cs name i ∧ cs[i]? = some c) ∧
      (∀ name, r.resolve name = none ↔ ∀ c ∈ cs, name ∉ c.names) ∧
      (∀ name, r.contains name = (r.resolve name).isSome) ∧
      (∃ slots : List Nat, slots.Pairwise (· < ·) ∧
        r.reachable.map some = slots.map (cs[·]?) ∧
        ∀ i, i ∈ slots ↔ ∃ name, IsLatest cs name i) ∧
      (∀ name c, r.resolve name = some c → c ∈ r.reachable) ∧
      (∀ c ∈ r.reachable, ∃ name ∈ c.names, r.resolve name = some c) ∧
      ∀ c name, (ofList (cs ++ [c])).resolve name =
        if name ∈ c.names then some c else r.resolve name := by
  intro r
  have hlisted := map_some_reachable r
  rw [commands_ofList] at hlisted
  refine ⟨resolve_ofList_eq_some_iff cs, resolve_ofList_eq_none_iff cs,
    (sound_ofList cs).contains_eq,
    ⟨r.listedSlots, pairwise_listedSlots r, hlisted, mem_listedSlots_ofList_iff cs⟩, ?_, ?_, ?_⟩
  · intro name c hc
    exact (mem_reachable_ofList_iff cs c).mpr ⟨name, (mem_of_resolve_ofList hc).2, hc⟩
  · exact fun c => (mem_reachable_ofList_iff cs c).mp
  · intro c name
    rw [ofList_concat]
    exact (sound_ofList cs).resolve_register c name

/-- The first of three commands has lost its only name to the third one, and the second keeps one of
its two. -/
example :
    let command (names : List String) : Command Unit :=
      { names, execute := fun _ _ _ => .abort .brokenPipe }
    let r := ofList [command ["a"], command ["b", "bb"], command ["a", "b"]]
    r.reachable.map (·.names) = [["b", "bb"], ["a", "b"]] ∧
      (r.resolve "b").map (·.names) = some ["a", "b"] := by
  decide

end Registry
end LineShell
