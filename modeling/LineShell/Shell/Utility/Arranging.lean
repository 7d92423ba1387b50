import LineShell.Shell.Utility.Factoring

/-!
# The program that arranges by pairs

This is `tsort`.  It reads pairs of words, of which the first is to come before the second, and
writes all words in an order that keeps to that.  Words that nothing has to come before are
written in sorted order.  Where the pairs lead around in a circle, one pair of it is given up.
-/

namespace LineShell
namespace Shell
namespace Arranging

/-- A word: how many pairs it is still second in, and the places of the words after it, the last
pair first. -/
structure Item where
  word : Octets
  before : Nat := 0
  after : List Nat := []
  written : Bool := false
  /-- The item that led to this one on the way around a circle. -/
  link : Option Nat := none
  deriving Inhabited

abbrev Items := Array Item

def relate (items : Items) (first second : Nat) : Items :=
  if first = second then items
  else
    let items := items.modify second fun item => { item with before := item.before + 1 }
    items.modify first fun item => { item with after := second :: item.after }

/-- Writes the words that wait, and those that then have nothing before them; what is left. -/
def writeReady : Nat → List Nat → Items → List Octets → Items × List Octets
  | 0, _, items, done => (items, done)
  | _, [], items, done => (items, done)
  | fuel + 1, next :: waiting, items, done =>
    let item := items.getD next default
    let items := items.modify next fun item => { item with written := true }
    let (items, freed) := item.after.foldl (fun (items, freed) i =>
      let items := items.modify i fun item => { item with before := item.before - 1 }
      (items, if (items.getD i default).before = 0 then freed ++ [i] else freed))
      (items, ([] : List Nat))
    writeReady fuel (waiting ++ freed) items (item.word :: done)

/-- Follows links back from an item until they come to another one. -/
def retrace (items : Items) (last : Nat) : Nat → Option Nat → List Nat
  | 0, _ | _, none => []
  | fuel + 1, some i =>
    if i = last then [i] else i :: retrace items last fuel (items.getD i default).link

/-- What is known on the search for a circle. -/
structure Hunt where
  items : Items
  /-- The item that was reached last. -/
  at_ : Option Nat := none
  /-- The items of a circle that was found. -/
  found : Option (List Nat) := none

def Hunt.look (h : Hunt) (i : Nat) : Hunt :=
  let item := h.items.getD i default
  if h.found.isSome || item.before = 0 then h
  else
    match h.at_ with
    | none => { h with at_ := some i }
    | some goal =>
      if !item.after.contains goal then h
      else if item.link.isSome then
        let circle := retrace h.items i h.items.size h.at_
        let items := h.items.modify goal fun other => { other with before := other.before - 1 }
        let items := items.modify i fun other => { other with after := other.after.erase goal }
        { items := items.map fun other => { other with link := none }
          at_ := none, found := some circle }
      else
        { h with items := h.items.modify i fun other => { other with link := some goal }
                 at_ := some i }

def Hunt.run : Nat → Hunt → Hunt
  | 0, h => h
  | fuel + 1, h =>
    let h := (List.range h.items.size).foldl Hunt.look h
    if h.at_.isNone then h else Hunt.run fuel h

def writeAll (name title : Octets) : Nat → Items → Bool → Run Nat
  | 0, _, fine => return if fine then 0 else 1
  | fuel + 1, items, fine => do
    let ready := (List.range items.size).filter fun i =>
      let item := items.getD i default
      item.before = 0 && !item.written
    let (items, done) := writeReady (items.size + 1) ready items []
    Run.emit (Tool.unlines (done.reverse.map (·.toList)))
    if items.all (·.written) then return if fine then 0 else 1
    Tool.complain name (title ++ ": input contains a loop:")
    let h := Hunt.run (items.size + 2) { items }
    let _ ← (h.found.getD []).mapM fun i => Tool.complain name (h.items.getD i default).word
    writeAll name title fuel h.items false

def relateAll (place : Octets → Nat) : List Octets → Items → Items
  | first :: second :: rest, items =>
    relateAll place rest (relate items (place first) (place second))
  | _, items => items

def tsort : Tool := fun _ name words =>
  Tool.withOptions [] 1 name words fun given => do
    match given.operands with
    | _ :: extra :: _ => Tool.misuse name ("extra operand " ++ Quoting.plain extra) 1
    | operands =>
      let path := operands.headD "-"
      match ← Tool.input path with
      | .error fault =>
        let title := Quoting.ifNeeded path
        Tool.fault name (if fault = .isDirectory then title ++ ": read error" else title) fault
        return 1
      | .ok octets =>
        let tokens := Factoring.wordsOf octets
        if tokens.length % 2 = 1 then
          Tool.complain name (Quoting.ifNeeded path ++ ": input contains an odd number of tokens")
          return 1
        let sorted := ((tokens.mergeSort fun a b => !(b < a)).eraseDups).toArray
        let items : Items := sorted.map fun word => { word }
        let place := fun word => (sorted.findIdx? (· = word)).getD 0
        writeAll name (Quoting.ifNeeded path) (tokens.length + 1) (relateAll place tokens items)
          true

end Arranging
end Shell
end LineShell
