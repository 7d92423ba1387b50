import LineShell.Proofs.Traceback

/-!
# Operands that are integers

Four commands read an integer, and what they do is settled by the text of that operand.  If it
writes a number that fits, the command acts on that number.  If it does not, the command refuses
the text: it records a failure, writes an error line, and does nothing else.  Both outcomes are
written out as states, so that nothing is left open about the session, the log or the world.
-/

namespace LineShell

variable {W : Type}

/-- What comes of a dispatch whose command makes one change.  The host is told of the command, under
its first name, before the change, and of the token after it. -/
def Interpreter.around (sh : Interpreter W) (command : String) (operands : List String)
    (token : Token) (change : State W → State W) (s : State W) : Token × State W :=
  let s := change (sh.tell (.commandStarted command operands.length) s)
  (token, keep token (sh.tell (.dispatched token) s))

/-- The world after the lines were written, whatever came of it. -/
def Host.wrote (h : Host W) (lines : List String) (w : W) : W :=
  lines.foldl (fun w text => (h.writeLine text w).2) w

/-- The state after the text was refused as an integer: there is one more record, the host was told
of it, and an error line was written. -/
def State.refusing (h : Host W) (text : String) (s : State W) : State W :=
  let w := h.note (.recorded .invalidData s.errors.count "invalid integer" (some text)) s.world
  { s with
    errors := (s.errors.push (Record.ofKind .invalidData)).2
    world := (h.writeError "invalid integer" (some text) w).2 }

/-- A dispatch reads an operand by a grammar.  It comes to the outcome of what the operand writes,
and it refuses the operand exactly if that writes nothing. -/
structure ReadsBy {α : Type} (dispatched : Token × State W) (writes : α → Prop)
    (outcome : α → Token × State W) (refusal : Token × State W) : Prop where
  accepts : ∀ a, writes a → dispatched = outcome a
  refuses : dispatched = refusal ↔ ∀ a, ¬writes a

/-! ## An output that works -/

namespace Host.OutputWorks

variable {h : Host W} (works : h.OutputWorks)

include works

theorem answers {c : Call} (hc : c.isOutput = true) {attempt : Attempt W Unit}
    (hperform : h.perform c = attempt.reply fun _ => .done) (w : W) :
    attempt w = (.ok (), (attempt w).2) := by
  have hanswer := works c hc w
  rw [hperform] at hanswer
  cases hr : attempt w with
  | mk answer v =>
    simp only [Attempt.reply, hr] at hanswer
    cases answer with
    | ok u => rfl
    | error cause => cases hanswer

theorem run_printAll (lines : List String) (s : State W) :
    (h.printAll lines).run s = (.ok (), { s with world := h.wrote lines s.world }) := by
  induction lines generalizing s with
  | nil => rfl
  | cons text rest ih =>
    have hprint : (h.print text).run s =
        (.ok (), { s with world := (h.writeLine text s.world).2 }) :=
      Action.run_call (works.answers (c := .line text) rfl rfl s.world)
    rw [printAll, Action.run_bind_ok hprint, ih]
    rfl

theorem run_rejectInteger (text : String) (s : State W) :
    (Standard.rejectInteger h text).run s = (.ok .success, s.refusing h text) := by
  let w := h.note (.recorded .invalidData s.errors.count "invalid integer" (some text)) s.world
  have hwrite := works.answers (c := .complain "invalid integer" (some text)) rfl rfl w
  have hfail : (h.fail .invalidData "invalid integer" (some text)).run s =
      (.ok (), s.refusing h text) := by
    rw [run_fail]
    exact Action.run_call hwrite
  exact Action.run_bind_ok hfail

end Host.OutputWorks

/-! ## The commands -/

namespace Standard

variable (h : Host W) {text : String}

theorem run_leaveWith {code : ReturnCode} (hcode : Numeral.code? text = some code) (s : State W) :
    (leaveWith h text).run s =
      (.ok .leaveWith, { s with session := { s.session with code } }) := by
  rw [leaveWith, hcode]
  rfl

theorem run_throwRecord {code : ReturnCode} (hcode : Numeral.code? text = some code)
    (name : String) (words : List String) (s : State W) :
    (throwRecord h name text words).run s =
      (.ok .success, (Interpreter.standard h).tell (.thrown name code s.errors.count)
        { s with errors :=
            (s.errors.push (Record.userDefined name code (thrownMessage words))).2 }) := by
  rw [throwRecord, hcode]
  exact Action.run_push_bind _ _ s

theorem run_sleepFor {seconds : Nat} (hseconds : Numeral.seconds? text = some seconds)
    (s : State W) :
    (sleepFor h text).run s = (.ok .success, { s with world := h.pause seconds s.world }) := by
  rw [sleepFor, hseconds]
  rfl

end Standard

namespace Interpreter

theorem dispatch_of_run (h : Host W) {name : String} {b : Builtin}
    (ho : Builtin.ofName? name = some b) {operands : List String} {token : Token}
    {change : State W → State W} {s : State W}
    (hrun : ∀ synopses s, ((b.command h).execute synopses name operands).run s =
      (.ok token, change s)) :
    (standard h).dispatch (name :: operands) s =
      (standard h).around ((b.command h).names.headD name) operands token change s := by
  rw [dispatch, answer_of_command h ho, runCommand_of_ok (hrun _ _)]
  rfl

/-- What a dispatch refuses it records, and no outcome without that record is a refusal. -/
theorem refusal_ne_around (h : Host W) {command : String} {operands : List String} {token : Token}
    {text : String} {change : State W → State W} {s : State W}
    (hrecords : ∀ s, (change s).errors.records ≠
      s.errors.records ++ [Record.ofKind .invalidData]) :
    (standard h).around command operands token change s ≠
      (standard h).around command operands .success (·.refusing h text) s :=
  fun hsame => hrecords ((standard h).tell _ s) (congrArg (·.2.errors.records) hsame)

end Interpreter

/-- A reader that is told by a grammar whether it reads, and what. -/
theorem ReadsBy.of_reader {α : Type} {dispatched : Token × State W} {writes : α → Prop}
    {outcome : α → Token × State W} {refusal : Token × State W} {read : Option α}
    (hread : ∀ {a}, read = some a ↔ writes a) (hsome : ∀ a, read = some a → dispatched = outcome a)
    (hnone : read = none → dispatched = refusal) (apart : ∀ a, outcome a ≠ refusal) :
    ReadsBy dispatched writes outcome refusal := by
  constructor
  · exact fun a written => hsome a (hread.mpr written)
  · constructor
    · intro refused a written
      exact apart a ((hsome a (hread.mpr written)).symm.trans refused)
    · intro none_written
      refine hnone (Option.eq_none_iff_forall_ne_some.mpr fun a ha => ?_)
      exact none_written a (hread.mp ha)

namespace Interpreter

section

variable {h : Host W} (works : h.OutputWorks)

include works

theorem dispatch_of_rejectInteger {name : String} {b : Builtin}
    (ho : Builtin.ofName? name = some b) {operands : List String} {text : String}
    (hreject : ∀ synopses, (b.command h).execute synopses name operands =
      Standard.rejectInteger h text) (s : State W) :
    (standard h).dispatch (name :: operands) s =
      (standard h).around ((b.command h).names.headD name) operands .success
        (·.refusing h text) s :=
  dispatch_of_run h ho fun synopses s => by rw [hreject, works.run_rejectInteger]

theorem reads_leaveWith (text : String) (rest : List String) (s : State W) :
    ReadsBy ((standard h).dispatch ("return" :: text :: rest) s)
      (fun code : ReturnCode => Numeral.WritesCode text code.toInt)
      (fun code => (standard h).around "return" (text :: rest) .leaveWith
        (fun s => { s with session := { s.session with code } }) s)
      ((standard h).around "return" (text :: rest) .success (·.refusing h text) s) := by
  have ho : Builtin.ofName? "return" = some .leave := by decide
  refine .of_reader Numeral.code?_eq_some_iff ?_ ?_ ?_
  · exact fun code hcode => dispatch_of_run h ho fun _ => Standard.run_leaveWith h hcode
  · intro hcode
    refine dispatch_of_rejectInteger works ho (fun _ => ?_) s
    show Standard.leaveWith h text = _
    rw [Standard.leaveWith, hcode]
  · exact fun code => refusal_ne_around h fun s => by simp

theorem reads_throwRecord (name text : String) (words : List String) (s : State W) :
    ReadsBy ((standard h).dispatch ("throw" :: name :: text :: words) s)
      (fun code : ReturnCode => Numeral.WritesCode text code.toInt)
      (fun code => (standard h).around "throw" (name :: text :: words) .success
        (fun s => (standard h).tell (.thrown name code s.errors.count)
          { s with errors := (s.errors.push
              (Record.userDefined name code (Standard.thrownMessage words))).2 }) s)
      ((standard h).around "throw" (name :: text :: words) .success (·.refusing h text) s) := by
  have ho : Builtin.ofName? "throw" = some .throw := by decide
  refine .of_reader Numeral.code?_eq_some_iff ?_ ?_ ?_
  · exact fun code hcode =>
      dispatch_of_run h ho fun _ => Standard.run_throwRecord h hcode name words
  · intro hcode
    refine dispatch_of_rejectInteger works ho (fun _ => ?_) s
    show Standard.throwRecord h name text words = _
    rw [Standard.throwRecord, hcode]
  · refine fun code => refusal_ne_around h fun s => ?_
    simp [Interpreter.tell, Record.userDefined, Record.ofKind]

theorem reads_index {name : String} (hname : name ∈ ["trace", "traceback"]) {text : String}
    (hcount : text ∉ Standard.countSelectors) (hoption : ¬['-', '-'] <+: text.toList)
    (rest : List String) (s : State W) :
    ReadsBy ((standard h).dispatch (name :: text :: rest) s)
      (fun index : Int64 => Numeral.WritesIndex text index.toInt)
      (fun index => (standard h).around "trace" (text :: rest) .success
        (fun s => { s with world := h.wrote (Standard.traceLines s.errors index) s.world }) s)
      ((standard h).around "trace" (text :: rest) .success (·.refusing h text) s) := by
  have ho : Builtin.ofName? name = some .trace := Builtin.ofName?_eq_some_iff.mpr hname
  refine .of_reader Numeral.index?_eq_some_iff ?_ ?_ ?_
  · refine fun index hindex => dispatch_of_run h ho fun _ s => ?_
    show (Standard.showSelected h text).run s = _
    rw [Standard.showSelected_of_index h (Numeral.index?_eq_some_iff.mp hindex)]
    exact Action.run_bind_ok (works.run_printAll (Standard.traceLines s.errors index) s)
  · intro hindex
    refine dispatch_of_rejectInteger works ho (fun _ => ?_) s
    refine Standard.showSelected_of_other h hcount hoption fun index writes => ?_
    rw [← writes.toInt_ofInt] at writes
    cases hindex.symm.trans (Numeral.index?_eq_some_iff.mpr writes)
  · exact fun index => refusal_ne_around h fun s => by simp

theorem reads_seconds (text : String) (rest : List String) (s : State W) :
    ReadsBy ((standard h).dispatch ("sleep" :: text :: rest) s) (Numeral.WritesSeconds text)
      (fun seconds => (standard h).around "sleep" (text :: rest) .success
        (fun s => { s with world := h.pause seconds s.world }) s)
      ((standard h).around "sleep" (text :: rest) .success (·.refusing h text) s) := by
  have ho : Builtin.ofName? "sleep" = some .sleep := by decide
  refine .of_reader Numeral.seconds?_eq_some_iff ?_ ?_ ?_
  · exact fun seconds hseconds => dispatch_of_run h ho fun _ => Standard.run_sleepFor h hseconds
  · intro hseconds
    refine dispatch_of_rejectInteger works ho (fun _ => ?_) s
    show Standard.sleepFor h text = _
    rw [Standard.sleepFor, hseconds]
  · exact fun seconds => refusal_ne_around h fun s => by simp

/-- An operand that is an integer is accepted exactly by its grammar and range, each command with
its own, and the command acts on exactly the value that is written.  Any other text is refused with
one record and one error line, and nothing else comes of it.  The code that is shown of a record is
read again as that code, and as no other. -/
theorem integers_read (text : String) (s : State W) :
    (∀ rest, ReadsBy ((standard h).dispatch ("return" :: text :: rest) s)
      (fun code : ReturnCode => Numeral.WritesCode text code.toInt)
      (fun code => (standard h).around "return" (text :: rest) .leaveWith
        (fun s => { s with session := { s.session with code } }) s)
      ((standard h).around "return" (text :: rest) .success (·.refusing h text) s)) ∧
    (∀ name words, ReadsBy ((standard h).dispatch ("throw" :: name :: text :: words) s)
      (fun code : ReturnCode => Numeral.WritesCode text code.toInt)
      (fun code => (standard h).around "throw" (name :: text :: words) .success
        (fun s => (standard h).tell (.thrown name code s.errors.count)
          { s with errors := (s.errors.push
              (Record.userDefined name code (Standard.thrownMessage words))).2 }) s)
      ((standard h).around "throw" (name :: text :: words) .success (·.refusing h text) s)) ∧
    (∀ name ∈ ["trace", "traceback"], text ≠ "-ls" → ¬['-', '-'] <+: text.toList → ∀ rest,
      ReadsBy ((standard h).dispatch (name :: text :: rest) s)
        (fun index : Int64 => Numeral.WritesIndex text index.toInt)
        (fun index => (standard h).around "trace" (text :: rest) .success
          (fun s => { s with world := h.wrote (Standard.traceLines s.errors index) s.world }) s)
        ((standard h).around "trace" (text :: rest) .success (·.refusing h text) s)) ∧
    (∀ rest, ReadsBy ((standard h).dispatch ("sleep" :: text :: rest) s)
      (Numeral.WritesSeconds text)
      (fun seconds => (standard h).around "sleep" (text :: rest) .success
        (fun s => { s with world := h.pause seconds s.world }) s)
      ((standard h).around "sleep" (text :: rest) .success (·.refusing h text) s)) ∧
    errorLine "invalid integer" (some text) = "error: invalid integer: " ++ text ∧
    (∀ n, Numeral.WritesCode text n → ∃ code : ReturnCode, code.toInt = n) ∧
    (∀ n, Numeral.WritesIndex text n → ∃ index : Int64, index.toInt = n) ∧
    ∀ index r, s.errors.traceback index = some r → ∃ shown,
      "code: " ++ shown ∈ Standard.traceLines s.errors index ∧
        ∀ code : ReturnCode, Numeral.WritesCode shown code.toInt ↔ code = r.code := by
  refine ⟨fun rest => reads_leaveWith works text rest s,
    fun name words => reads_throwRecord works name text words s, ?_,
    fun rest => reads_seconds works text rest s, rfl, ?_, ?_, ?_⟩
  · intro name hname hlisted hoption rest
    have hcount : text ∉ Standard.countSelectors :=
      Standard.notMem_countSelectors hlisted hoption
    exact reads_index works hname hcount hoption rest s
  · intro n writes
    exact ⟨Int32.ofInt n, writes.toInt_ofInt⟩
  · intro n writes
    exact ⟨Int64.ofInt n, writes.toInt_ofInt⟩
  · intro index r hr
    refine ⟨Numeral.decimal r.code.toInt, ?_, fun code => ?_⟩
    · simp only [Standard.traceLines, hr]
      exact .tail _ (.tail _ (.head _))
    · rw [← Numeral.code?_eq_some_iff,
        Numeral.code?_eq_some_iff.mpr (Numeral.writesCode_decimal r.code), Option.some.injEq,
        eq_comm]

end

/-- The least code is accepted with zeros in front; seconds may not even be minus zero. -/
theorem integers_read_bare :
    let s : State String :=
      { session := { cwd := "/", home := "/", user := "user" }, errors := {}, world := "/" }
    Host.bare.OutputWorks ∧
      Numeral.WritesCode "-002147483648" (-2147483648 : ReturnCode).toInt ∧
      ((standard Host.bare).dispatch ["return", "-002147483648", "0"] s).1 = .leaveWith ∧
      ((standard Host.bare).dispatch ["return", "-002147483648", "0"] s).2.session.code =
        -2147483648 ∧
      (standard Host.bare).dispatch ["sleep", "-0"] s =
        (standard Host.bare).around "sleep" ["-0"] .success (·.refusing Host.bare "-0") s := by
  intro s
  have works : Host.bare.OutputWorks := Host.outputWorks_bare
  have writes : Numeral.WritesCode "-002147483648" (-2147483648 : ReturnCode).toInt :=
    Numeral.code?_eq_some_iff.mp (by decide)
  have left := ((integers_read works "-002147483648" s).1 ["0"]).accepts (-2147483648) writes
  have refused := ((integers_read works "-0" s).2.2.2.1 []).refuses.mpr fun seconds written => by
    cases Numeral.seconds?_eq_some_iff.mpr written
  exact ⟨works, writes, congrArg (·.1) left, congrArg (·.2.session.code) left, refused⟩

end Interpreter

end LineShell
