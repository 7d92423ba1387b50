import Mathlib.Data.List.DropRight
import LineShell.Proofs.Execution
import LineShell.Proofs.History
import LineShell.Proofs.Numerals

/-!
# Walking back through the error log

Records are asked for by how far back they lie, and what lies so far back is settled by how many
records came after it.  So a record is found again however long ago it was made, as long as one
knows what the log has grown by since.  The log on its own is a list that is read from its end,
whatever was done with it before.
-/

namespace LineShell

variable {W : Type}

/-- The lines that tell a record. -/
def Record.lines (r : Record) : List String :=
  ["name: " ++ r.name, "message: " ++ r.message, "code: " ++ toString r.code.toInt,
    "type: " ++ r.origin.label]

/-- The operands ask for the record that lies so many back.  Only the first one counts. -/
inductive Asks : List String → Int → Prop
  | newest : Asks [] 1
  | index {text : String} {index : Int} (rest : List String)
      (writes : Numeral.WritesIndex text index) : Asks (text :: rest) index

/-- A dispatch writes the lines and does nothing else. -/
def Says (h : Host W) (words : List String) (s : State W) (lines : List String) : Prop :=
  AmountsTo h words s (lines.map fun text => ⟨.line text, .ok .done⟩) []

/-- A dispatch records a failure of the kind, writes one error line and does nothing else. -/
def Rejects (h : Host W) (words : List String) (s : State W) (kind : Kind)
    (message item : String) : Prop :=
  AmountsTo h words s [⟨.complain message (some item), .ok .done⟩] [Record.ofKind kind]

theorem ComesTo.said {h : Host W} {words : List String} {s : State W} {lines : List String}
    (comes : ComesTo h words s (lines.map fun text => .call (.line text) (.ok .done))
      (.ok .success)) : Says h words s lines :=
  comes.amountsTo (.lines lines (.ok .done)) rfl

theorem ComesTo.rejects {h : Host W} {words : List String} {s : State W} {kind : Kind}
    {message item : String} {event : Event}
    (comes : ComesTo h words s [.push (Record.ofKind kind), .tell event,
      .call (.complain message (some item)) (.ok .done)] (.ok .success)) :
    Rejects h words s kind message item :=
  comes.amountsTo (.fail kind event message (some item) (.ok .done)) rfl

/-! ## What lies how far back -/

namespace ErrorLog

theorem traceback_of_split {log : ErrorLog} {before after : List Record} {r : Record}
    {index : Int64} (hlog : log.records = before ++ r :: after)
    (hindex : index.toInt = after.length + 1) : log.traceback index = some r := by
  have hinside : ¬(index.toInt < 1) := by omega
  have hplace : (index.toInt - 1).toNat = after.length := by omega
  rw [traceback_eq_reverse, if_neg hinside, hplace, hlog]
  simp

theorem traceback_eq_none_of_outside {log : ErrorLog} {index : Int64}
    (outside : index.toInt < 1 ∨ (log.count : Int) < index.toInt) : log.traceback index = none := by
  rcases outside with hlow | hhigh
  · exact log.traceback_of_lt_one hlow
  · have hinside : ¬(index.toInt < 1) := by omega
    rw [traceback_eq_reverse, if_neg hinside, List.getElem?_eq_none_iff, List.length_reverse]
    simp only [count] at hhigh
    omega

/-- What lies so far back stands so far before the end. -/
theorem traceback_eq_position {log : ErrorLog} {index : Int64} {back : Nat}
    (hback : index.toInt = back) (hpos : 0 < back) (hcount : back ≤ log.count) :
    log.traceback index = log.records[log.count - back]? ∧
      log.traceback index = log.records.reverse[back - 1]? ∧ (log.traceback index).isSome := by
  rw [count] at hcount ⊢
  have hinside : ¬(index.toInt < 1) := by omega
  have hindex : (index.toInt - 1).toNat = back - 1 := by omega
  have hplace : log.records.length - 1 - (back - 1) = log.records.length - back := by omega
  have hreversed : log.records.reverse[back - 1]? = log.records[log.records.length - back]? := by
    rw [List.getElem?_reverse (by omega), hplace]
  rw [traceback_eq_reverse, if_neg hinside, hindex, hreversed, List.getElem?_eq_getElem (by omega)]
  exact ⟨rfl, rfl, rfl⟩

theorem toInt_add_one {index : Int64} (hlt : index < Int64.maxValue) :
    (index + 1).toInt = index.toInt + 1 := by
  have hhigh : index.toInt < Int64.maxValue.toInt := Int64.lt_iff_toInt_lt.mp hlt
  rw [Int64.toInt_maxValue] at hhigh
  have hlow := index.le_toInt
  rw [Int64.toInt_add, Int64.toInt_one]
  exact Int.bmod_eq_of_le (by omega) (by omega)

/-- Another record moves all others one back. -/
theorem traceback_push_succ (log : ErrorLog) (r : Record) {index : Int64}
    (hpos : 1 ≤ index.toInt) (hlt : index < Int64.maxValue) :
    (log.push r).2.traceback (index + 1) = log.traceback index := by
  have hnext : (index + 1).toInt = index.toInt + 1 := toInt_add_one hlt
  have hlonger : ¬((index + 1).toInt < 1) := by omega
  have hinside : ¬(index.toInt < 1) := by omega
  have hplace : ((index + 1).toInt - 1).toNat = (index.toInt - 1).toNat + 1 := by omega
  rw [traceback_eq_reverse, traceback_eq_reverse, if_neg hlonger, if_neg hinside, records_push,
    List.reverse_concat, hplace, List.getElem?_cons_succ]

/-! ## A log under any operations

A log is a list that is read from its end.  Whatever was done with it, it holds what was pushed
since it was cleared for the last time, and the answers to all questions follow from that. -/

/-- What can be done with a log. -/
inductive Operation where
  | push (r : Record)
  | clear
  | traceback (index : Int64)
  | count
  | isEmpty
  | iter
  deriving DecidableEq

/-- What an operation gives back. -/
inductive Answer where
  | done
  | position (n : Nat)
  | record (r : Option Record)
  | number (n : Nat)
  | truth (b : Bool)
  | records (rs : List Record)
  deriving DecidableEq

namespace Operation

def isClear : Operation → Bool
  | .clear => true
  | _ => false

/-- Whether an operation asks and does no more. -/
def isQuestion : Operation → Bool
  | .push _ | .clear => false
  | .traceback _ | .count | .isEmpty | .iter => true

def pushed? : Operation → Option Record
  | .push r => some r
  | _ => none

end Operation

def perform (log : ErrorLog) : Operation → Answer × ErrorLog
  | .push r => (.position (log.push r).1, (log.push r).2)
  | .clear => (.done, log.clear)
  | .traceback index => (.record (log.traceback index), log)
  | .count => (.number log.count, log)
  | .isEmpty => (.truth log.isEmpty, log)
  | .iter => (.records log.records, log)

def performAll (ops : List Operation) (log : ErrorLog) : ErrorLog :=
  ops.foldl (fun log op => (log.perform op).2) log

/-- The records that were pushed since the last time that a log was cleared, oldest first. -/
def pushedSinceClear (ops : List Operation) : List Record :=
  (ops.rtakeWhile fun op => !op.isClear).filterMap Operation.pushed?

theorem records_perform {log : ErrorLog} {op : Operation} (hkept : op.isClear = false) :
    (log.perform op).2.records = log.records ++ op.pushed?.toList := by
  cases op with
  | clear => cases hkept
  | push r => rfl
  | _ => exact (List.append_nil _).symm

theorem records_performAll (ops : List Operation) :
    (performAll ops {}).records = pushedSinceClear ops := by
  induction ops using List.reverseRecOn with
  | nil => rfl
  | append_singleton ops op ih =>
    rw [performAll, List.foldl_concat, ← performAll, pushedSinceClear, List.rtakeWhile_concat]
    cases hclear : op.isClear with
    | true =>
      cases op <;> cases hclear
      rfl
    | false =>
      rw [records_perform hclear, ih]
      cases hpushed : op.pushed? <;> simp [pushedSinceClear, hpushed]

/-- A record stays where it is until the log is cleared. -/
theorem getElem?_performAll {log : ErrorLog} {ops : List Operation} {i : Nat} {r : Record}
    (hkept : ∀ op ∈ ops, op.isClear = false) (hr : log.records[i]? = some r) :
    (performAll ops log).records[i]? = some r := by
  induction ops generalizing log with
  | nil => exact hr
  | cons op ops ih =>
    obtain ⟨hop, hops⟩ := List.forall_mem_cons.mp hkept
    refine ih hops ?_
    rw [records_perform hop, List.getElem?_append_left (List.getElem?_eq_some_iff.mp hr).1, hr]

/-- Whatever was done with a new log, it holds what was pushed since it was last cleared.  The
position that a push gives back is the number of records pushed before, and until the log is cleared
the record stands there.  An index names a record if it lies between one and the number of records,
and then the one that it names, counted from the end of the list.  A push moves all records one
back, and questions change nothing. -/
theorem read_from_end (ops : List Operation) :
    let log := performAll ops {}
    let position := (pushedSinceClear ops).length
    (log.records = pushedSinceClear ops ∧ (log.perform .iter).1 = .records log.records ∧
      (log.perform .count).1 = .number log.records.length ∧
      (log.perform .isEmpty).1 = .truth (log.records = [])) ∧
    (∀ r, (log.perform (.push r)).1 = .position position ∧
      ∀ later, (∀ op ∈ later, op.isClear = false) →
        (performAll (ops ++ .push r :: later) {}).records[position]? = some r) ∧
    (∀ index : Int64,
      (index < 1 ∨ (log.count : Int) < index.toInt →
        (log.perform (.traceback index)).1 = .record none) ∧
      (1 ≤ index → index.toInt ≤ log.count →
        ∃ r, (log.perform (.traceback index)).1 = .record (some r) ∧
          log.records.reverse[index.toInt.toNat - 1]? = some r ∧
          log.records[log.count - index.toInt.toNat]? = some r)) ∧
    (∀ r, let longer := (log.perform (.push r)).2
      (longer.perform (.traceback 1)).1 = .record (some r) ∧
      ∀ index : Int64, 1 ≤ index → index < Int64.maxValue →
        (longer.perform (.traceback (index + 1))).1 = (log.perform (.traceback index)).1) ∧
    ∀ op : Operation, op.isQuestion = true → (log.perform op).2 = log := by
  intro log position
  have hrecords : log.records = pushedSinceClear ops := records_performAll ops
  have hcount : log.count = position := congrArg List.length hrecords
  refine ⟨⟨hrecords, rfl, rfl, ?_⟩, fun r => ⟨?_, fun later hlater => ?_⟩,
    fun index => ⟨fun houtside => ?_, fun hpos hinside => ?_⟩,
    fun r => ⟨?_, fun index hpos hlt => ?_⟩, fun op hop => ?_⟩
  · have hempty : log.isEmpty = decide (log.records = []) := by
      rw [Bool.eq_iff_iff, isEmpty, List.isEmpty_iff, decide_eq_true_iff]
    rw [perform, hempty]
  · rw [perform, push_fst, hcount]
  · have hpushed : (log.perform (.push r)).2.records[position]? = some r := by
      rw [perform, records_push, ← hcount, count, List.getElem?_concat_length]
    rw [performAll, List.foldl_append, List.foldl_cons]
    exact getElem?_performAll hlater hpushed
  · rw [Int64.lt_iff_toInt_lt, Int64.toInt_one] at houtside
    rw [perform, traceback_eq_none_of_outside houtside]
  · rw [Int64.le_iff_toInt_le, Int64.toInt_one] at hpos
    obtain ⟨back, hback⟩ := Int.eq_ofNat_of_zero_le (by omega : 0 ≤ index.toInt)
    have hback_pos : 0 < back := by omega
    have hback_le : back ≤ log.count := by omega
    obtain ⟨hposition, hreversed, hsome⟩ := traceback_eq_position hback hback_pos hback_le
    obtain ⟨r, hr⟩ := Option.isSome_iff_exists.mp hsome
    rw [perform, hback, Int.toNat_natCast, ← hreversed, ← hposition, hr]
    exact ⟨r, rfl, rfl, rfl⟩
  · rw [perform, perform, traceback_push_one]
  · rw [Int64.le_iff_toInt_le, Int64.toInt_one] at hpos
    simp only [perform, traceback_push_succ log r hpos hlt]
  · cases op with
    | push r => cases hop
    | clear => cases hop
    | _ => rfl

end ErrorLog

namespace Standard

theorem traceLines_of_some {log : ErrorLog} {index : Int64} {r : Record}
    (hr : log.traceback index = some r) : traceLines log index = r.lines := by
  simp only [traceLines, hr, labeledLine, Numeral.decimal_eq_toString, Record.lines]
  rfl

theorem traceLines_of_none {log : ErrorLog} {index : Int64} (hr : log.traceback index = none) :
    traceLines log index = ["no errors have been traced"] := by
  simp only [traceLines, hr]

/-- All selectors but one start with two hyphens. -/
theorem notMem_countSelectors {text : String} (hlisted : text ≠ "-ls")
    (hoption : ¬['-', '-'] <+: text.toList) : text ∉ countSelectors := by
  simp only [countSelectors, List.mem_cons, List.not_mem_nil, or_false, not_or]
  refine ⟨?_, ?_, hlisted⟩
  · rintro rfl
    exact hoption (by decide)
  · rintro rfl
    exact hoption (by decide)

/-- The selectors are told apart from indices by their second character. -/
theorem not_selector_of_writes {text : String} {n : Int}
    (writes : Numeral.Writes text.toList n) :
    text ∉ countSelectors ∧ ¬['-', '-'] <+: text.toList := by
  have htail := writes.tail_ascii
  have hoption : ¬['-', '-'] <+: text.toList := by
    rintro ⟨rest, hrest⟩
    rw [← hrest] at htail
    exact absurd (htail '-' (by simp)) (by decide)
  refine ⟨notMem_countSelectors ?_ hoption, hoption⟩
  rintro rfl
  exact absurd (htail 'l' (by decide)) (by decide)

section

variable (h : Host W) {text : String}

theorem showSelected_of_count (hcount : text ∈ countSelectors) :
    showSelected h text = showCount h := if_pos hcount

theorem showSelected_of_option (hcount : text ∉ countSelectors)
    (hoption : ['-', '-'] <+: text.toList) :
    showSelected h text = h.reject .invalidToken "invalid option" (some text) := by
  rw [showSelected, if_neg hcount, if_pos (List.isPrefixOf_iff_prefix.mpr hoption)]

theorem showSelected_of_index {index : Int64} (writes : Numeral.WritesIndex text index.toInt) :
    showSelected h text = showRecord h index := by
  obtain ⟨hcount, hoption⟩ := not_selector_of_writes writes.1
  rw [← List.isPrefixOf_iff_prefix] at hoption
  rw [showSelected, if_neg hcount, if_neg hoption, Numeral.index?_eq_some_iff.mpr writes]

theorem showSelected_of_other (hcount : text ∉ countSelectors)
    (hoption : ¬['-', '-'] <+: text.toList)
    (hindex : ∀ index, ¬Numeral.WritesIndex text index) :
    showSelected h text = h.reject .invalidData "invalid integer" (some text) := by
  have hnone : Numeral.index? text = none := by
    rw [Option.eq_none_iff_forall_ne_some]
    exact fun index hread => hindex index.toInt (Numeral.index?_eq_some_iff.mp hread)
  rw [← List.isPrefixOf_iff_prefix] at hoption
  rw [showSelected, if_neg hcount, if_neg hoption, hnone, rejectInteger]

end

variable {h : Host W}

theorem does_showRecord (works : h.OutputWorks) (index : Int64) (s : State W) :
    ∃ t, Action.Does h (showRecord h index) s
      ((traceLines s.errors index).map fun text => .call (.line text) (.ok .done))
      (.ok .success) t := by
  obtain ⟨t, shown⟩ := Action.Does.printAll_of_works works (traceLines s.errors index) s
  have looked : Action.Does h Action.errors s [] (.ok s.errors) s := ⟨rfl, .nil s⟩
  exact ⟨t, looked.bind (shown.bind_pure Token.success)⟩

theorem does_showCount (works : h.OutputWorks) (s : State W) :
    ∃ t, Action.Does h (showCount h) s
      ([labeledLine "available errors to trace" (Numeral.decimal s.errors.count)].map
        fun text => .call (.line text) (.ok .done))
      (.ok .success) t := by
  obtain ⟨t, shown⟩ := Action.Does.print_of_works works
    (labeledLine "available errors to trace" (Numeral.decimal s.errors.count)) s
  have looked : Action.Does h Action.errors s [] (.ok s.errors) s := ⟨rfl, .nil s⟩
  exact ⟨t, looked.bind (shown.bind_pure Token.success)⟩

theorem does_throw (h : Host W) (name : String) {text : String} (words : List String)
    {code : ReturnCode} (hcode : Numeral.code? text = some code) (s : State W) :
    ∃ event t, Action.Does h (throwRecord h name text words) s
      [.push (Record.userDefined name code (thrownMessage words)), .tell event]
      (.ok .success) t := by
  let r := Record.userDefined name code (thrownMessage words)
  have pushed : Action.Does h (Action.push r) s [.push r] (.ok s.errors.count)
      { s with errors := (s.errors.push r).2 } := ⟨Action.run_push r s, .single (.push s r)⟩
  rw [throwRecord, hcode]
  exact ⟨_, _, pushed.bind ((Action.Does.tell _ _).bind_pure Token.success)⟩

end Standard

/-! ## The dispatches -/

namespace Interpreter

variable {h : Host W} {name : String}

/-- What a dispatch comes to is read off the deeds of what the selector picks. -/
theorem comes_to_of_selected (hname : name ∈ ["trace", "traceback"]) (text : String)
    (rest : List String) (s : State W) :
    ∃ event, ∀ ds r t,
      Action.Does h.journaled (Standard.showSelected h.journaled text)
        ((standard h.journaled).tell event s.journaled) ds r t →
      ComesTo h (name :: text :: rest) s ds r := by
  have ho : Builtin.ofName? name = some .trace := Builtin.ofName?_eq_some_iff.mpr hname
  obtain ⟨event, synopses, comes⟩ := comes_to_of_does h ho (text :: rest) s
  exact ⟨event, comes⟩

/-- Throwing appends the record that the words ask for, and no other. -/
theorem records_dispatch_throw (h : Host W) {words : List String} {r : Record}
    (hthrown : thrownRecord? words = some r) (s : State W) :
    ((standard h).dispatch words s).2.errors.records = s.errors.records ++ [r] := by
  unfold thrownRecord? at hthrown
  split at hthrown
  · next command name text rest =>
    split at hthrown
    · next hcommand =>
      subst hcommand
      obtain ⟨code, hcode, rfl⟩ := Option.map_eq_some_iff.mp hthrown
      have ho : Builtin.ofName? "throw" = some .throw := by decide
      obtain ⟨event, synopses, comes⟩ := comes_to_of_does h ho (name :: text :: rest) s
      obtain ⟨thrown, t, does⟩ := Standard.does_throw h.journaled name rest hcode
        ((standard h.journaled).tell event s.journaled)
      rw [(comes _ _ t does).records]
      simp [lossRecords, Record.userDefined, Standard.thrownMessage, Standard.noMessage]
    · cases hthrown
  · cases hthrown

section

variable (works : h.OutputWorks)

include works

theorem says_record (hname : name ∈ ["trace", "traceback"]) {operands : List String}
    {back : Int} (asks : Asks operands back) (s : State W) :
    ∃ index : Int64, index.toInt = back ∧
      Says h (name :: operands) s (Standard.traceLines s.errors index) := by
  cases asks with
  | newest =>
    have ho : Builtin.ofName? name = some .trace := Builtin.ofName?_eq_some_iff.mpr hname
    obtain ⟨event, synopses, comes⟩ := comes_to_of_does h ho [] s
    obtain ⟨t, shown⟩ := Standard.does_showRecord works.journaled 1
      ((standard h.journaled).tell event s.journaled)
    exact ⟨1, Int64.toInt_one, (comes _ _ t shown).said⟩
  | index rest writes =>
    obtain ⟨event, comes⟩ := comes_to_of_selected hname _ rest s
    obtain ⟨t, shown⟩ := Standard.does_showRecord works.journaled (Int64.ofInt back)
      ((standard h.journaled).tell event s.journaled)
    have hindex : (Int64.ofInt back).toInt = back := writes.toInt_ofInt
    rw [← hindex] at writes
    rw [← Standard.showSelected_of_index h.journaled writes] at shown
    exact ⟨_, hindex, (comes _ _ t shown).said⟩

theorem says_count (hname : name ∈ ["trace", "traceback"]) {text : String}
    (hcount : text ∈ Standard.countSelectors) (rest : List String) (s : State W) :
    Says h (name :: text :: rest) s
      ["available errors to trace: " ++ toString s.errors.count] := by
  obtain ⟨event, comes⟩ := comes_to_of_selected hname text rest s
  obtain ⟨t, shown⟩ := Standard.does_showCount works.journaled
    ((standard h.journaled).tell event s.journaled)
  rw [← Standard.showSelected_of_count h.journaled hcount] at shown
  exact (comes _ _ t shown).said

theorem rejects_selector {kind : Kind} {message : String} (hname : name ∈ ["trace", "traceback"])
    {text : String}
    (hselected : Standard.showSelected h.journaled text =
      h.journaled.reject kind message (some text)) (rest : List String) (s : State W) :
    Rejects h (name :: text :: rest) s kind message text := by
  obtain ⟨event, comes⟩ := comes_to_of_selected hname text rest s
  obtain ⟨t, rejected⟩ := Action.Does.reject_of_works works.journaled kind message (some text)
    ((standard h.journaled).tell event s.journaled)
  rw [← hselected] at rejected
  exact (comes _ _ t rejected).rejects

/-- A record is told to whoever asks for the one that lies as far back as the log has grown since,
whatever the log has grown by.  What was thrown is found there, and so is what a dispatch left as
its last record.  An index that no record has is answered with a line, the selectors are answered
with the number of records, and of all other texts each is refused with one record and one error
line. -/
theorem traceback_answers (hname : name ∈ ["trace", "traceback"]) (operands : List String)
    (s : State W) :
    (∀ before r after, s.errors.records = before ++ r :: after →
      Asks operands (after.length + 1) → Says h (name :: operands) s r.lines) ∧
    (∀ argv r before inputs, let raised := ((standard h).dispatch argv before).2
      (thrownRecord? argv = some r ∨
        ∃ earlier, raised.errors.records = before.errors.records ++ earlier ++ [r]) →
      (standard h).respondAll inputs raised = s →
      ∀ more, s.errors.count = raised.errors.count + more →
        Asks operands (more + 1) → Says h (name :: operands) s r.lines) ∧
    (∀ index, Asks operands index → index < 1 ∨ s.errors.count < index →
      Says h (name :: operands) s ["no errors have been traced"]) ∧
    ∀ text rest, operands = text :: rest →
      (text ∈ ["--count", "--available", "-ls"] → Says h (name :: operands) s
        ["available errors to trace: " ++ toString s.errors.count]) ∧
      (text ∉ ["--count", "--available", "-ls"] → ['-', '-'] <+: text.toList →
        Rejects h (name :: operands) s .invalidToken "invalid option" text) ∧
      (text ∉ ["--count", "--available", "-ls"] → ¬['-', '-'] <+: text.toList →
        (∀ index, ¬Numeral.WritesIndex text index) →
        Rejects h (name :: operands) s .invalidData "invalid integer" text) := by
  have told (before : List Record) (r : Record) (after : List Record)
      (hlog : s.errors.records = before ++ r :: after)
      (asks : Asks operands (after.length + 1)) : Says h (name :: operands) s r.lines := by
    obtain ⟨index, hindex, shown⟩ := says_record works hname asks s
    rwa [Standard.traceLines_of_some (ErrorLog.traceback_of_split hlog hindex)] at shown
  refine ⟨told, ?_, ?_, ?_⟩
  · intro argv r before inputs raised hraised hlater more hcount asks
    obtain ⟨earlier, hearlier⟩ :
        ∃ earlier, raised.errors.records = before.errors.records ++ earlier ++ [r] := by
      rcases hraised with hthrown | hlast
      · exact ⟨[], by simpa using records_dispatch_throw h hthrown before⟩
      · exact hlast
    obtain ⟨new, hnew, -, -⟩ := (law_grows h).respondAll
      (fun input _ => input.within_of_all fun _ _ => trivial) raised
    rw [hlater, hearlier] at hnew
    have hlength : new.length = more := by
      simp only [ErrorLog.count, hnew, hearlier, List.length_append] at hcount
      omega
    refine told (before.errors.records ++ earlier) r new ?_ ?_
    · simpa using hnew
    · rwa [hlength]
  · intro index asks outside
    obtain ⟨asked, rfl, shown⟩ := says_record works hname asks s
    have hnone := ErrorLog.traceback_eq_none_of_outside outside
    rwa [Standard.traceLines_of_none hnone] at shown
  · rintro text rest rfl
    refine ⟨fun hcount => says_count works hname hcount rest s, fun hcount hoption => ?_,
      fun hcount hoption hindex => ?_⟩
    · exact rejects_selector works hname
        (Standard.showSelected_of_option h.journaled hcount hoption) rest s
    · exact rejects_selector works hname
        (Standard.showSelected_of_other h.journaled hcount hoption hindex) rest s

end

/-- A record of the user lies two back once the interpreter has recorded a failure of its own. -/
theorem traceback_answers_bare :
    let s : State String :=
      { session := { cwd := "/", home := "/", user := "user" }, errors := {}, world := "/" }
    let t := (standard Host.bare).respondAll [.words ["throw", "late", "-04", "no", "lunch"],
      .words ["cd", ""]] s
    Host.bare.OutputWorks ∧ "trace" ∈ ["trace", "traceback"] ∧ t.errors.count = 2 ∧
      Asks ["+02", "more"] 2 ∧
      Host.bare.callsOf ["trace", "+02", "more"] t =
        ["name: late", "message: no lunch", "code: -4", "type: User Defined Error"].map
          fun text => ⟨.line text, .ok .done⟩ := by
  intro s t
  have works : Host.bare.OutputWorks := Host.outputWorks_bare
  have hname : "trace" ∈ ["trace", "traceback"] := by decide
  have writes : Numeral.WritesIndex "+02" (2 : Int64).toInt :=
    Numeral.index?_eq_some_iff.mp (by decide)
  have asks : Asks ["+02", "more"] 2 := .index ["more"] writes
  have hcount : t.errors.count = 2 := by decide +kernel
  let r := Record.userDefined "late" (-4) "no lunch"
  have told := (traceback_answers works hname ["+02", "more"] t).2.1
    ["throw", "late", "-04", "no", "lunch"] r s [.words ["cd", ""]] (Or.inl (by decide +kernel))
    rfl 1 (by decide +kernel) asks
  exact ⟨works, hname, hcount, asks, told.calls⟩

end Interpreter
end LineShell
