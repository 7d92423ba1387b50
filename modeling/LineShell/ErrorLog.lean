import LineShell.Record

/-!
# The error log

Records are only appended, and a record is looked up by how far back it lies: index one is the
newest.  The log keeps its records oldest first, so that the position a record got when it was
pushed stays its position until the log is cleared.
-/

namespace LineShell

/-- The failures of a session, oldest first. -/
structure ErrorLog where
  records : List Record := []
  deriving DecidableEq, Repr

/-- Indices are words of 64 bits; an integer stands for the word that it wraps to. -/
scoped instance coeIntInt64 : Coe Int Int64 := ⟨Int64.ofInt⟩

namespace ErrorLog

def count (log : ErrorLog) : Nat := log.records.length

def isEmpty (log : ErrorLog) : Bool := log.records.isEmpty

/-- Appends a record and gives its position, which is the last one. -/
def push (log : ErrorLog) (r : Record) : Nat × ErrorLog :=
  let records := log.records ++ [r]
  (records.length - 1, { records })

/-- A difference, unless it would lie below zero. -/
def checkedSub (m n : Nat) : Option Nat := if n ≤ m then some (m - n) else none

/-- The record that lies `index` back, the newest lying one back.  The index has to be a size of at
least one, and what it leaves of the number of records is the position. -/
def traceback (log : ErrorLog) (index : Int64) : Option Record := do
  let back ← index.toInt.toNat?.filter fun back => 1 ≤ back
  let position ← checkedSub log.records.length back
  log.records[position]?

/-- The newest record. -/
def newest (log : ErrorLog) : Option Record := log.records.getLast?

/-- Forgets every record. -/
def clear (_ : ErrorLog) : ErrorLog := {}

@[simp] theorem count_empty : ({} : ErrorLog).count = 0 := rfl

/-- The last position is the number of records before. -/
@[simp] theorem push_fst (log : ErrorLog) (r : Record) : (log.push r).1 = log.count := by
  simp [push, count]

@[simp] theorem records_push (log : ErrorLog) (r : Record) :
    (log.push r).2.records = log.records ++ [r] := rfl

/-- The steps come to reading the records from their end. -/
theorem traceback_eq_reverse (log : ErrorLog) (index : Int64) :
    log.traceback index =
      if index.toInt < 1 then none else log.records.reverse[(index.toInt - 1).toNat]? := by
  split
  · next hlow =>
    have hnone : index.toInt.toNat?.filter (fun back => 1 ≤ back) = none := by
      rw [Option.filter_eq_none_iff]
      intro back hback
      have hsize : index.toInt = back := Int.mem_toNat?.mp hback
      simp only [decide_eq_true_eq]
      omega
    rw [traceback, hnone]
    rfl
  · next hhigh =>
    obtain ⟨back, hsize⟩ := Int.eq_ofNat_of_zero_le (by omega : 0 ≤ index.toInt)
    have hback : index.toInt.toNat?.filter (fun back => 1 ≤ back) = some back := by
      rw [Option.filter_eq_some_iff, decide_eq_true_eq]
      exact ⟨Int.mem_toNat?.mpr hsize, by omega⟩
    have hplace : (index.toInt - 1).toNat = back - 1 := by omega
    simp only [traceback, hback, hplace, checkedSub, Option.bind_eq_bind, Option.bind_some]
    split
    · next hle =>
      have hposition : log.records.length - 1 - (back - 1) = log.records.length - back := by omega
      rw [Option.bind_some, List.getElem?_reverse (by omega), hposition]
    · next hbeyond =>
      rw [Option.bind_none, eq_comm, List.getElem?_eq_none_iff, List.length_reverse]
      omega

theorem traceback_of_lt_one (log : ErrorLog) {index : Int64} (h : index.toInt < 1) :
    log.traceback index = none := by
  rw [traceback_eq_reverse, if_pos h]

theorem traceback_one (log : ErrorLog) : log.traceback 1 = log.newest := by
  rw [traceback_eq_reverse, newest, ← List.head?_reverse, List.head?_eq_getElem?]
  rfl

/-- What was just pushed lies one back. -/
@[simp] theorem traceback_push_one (log : ErrorLog) (r : Record) :
    (log.push r).2.traceback 1 = some r := by
  rw [traceback_one, newest, records_push, List.getLast?_concat]

end ErrorLog
end LineShell
