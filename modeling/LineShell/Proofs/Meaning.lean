import LineShell.Proofs.Builtin
import LineShell.Proofs.Conduct

/-!
# What the built-in commands do

For each member of the table and each list of operands it is fixed beforehand, whatever the host
answers, which token it gives, whether it refuses its operands, which record and which code it makes
of them, and which calls it may make.  `Builtin.abides` says that the commands keep to this, on
every host and in every state.
-/

namespace LineShell

namespace Builtin

def token : Builtin → List String → Token
  | .exit, _ => .leave
  | .restart, _ => .restart
  | .leave, [] => .leaveWith
  | .leave, text :: _ => if (Numeral.code? text).isSome then .leaveWith else .success
  | _, _ => .success

/-- A text behind the command that walks back through the log, if it is no index and no selector
that counts. -/
def isMisselected (text : String) : Bool :=
  text ∉ Standard.countSelectors &&
    (['-', '-'].isPrefixOf text.toList || (Numeral.index? text).isNone)

/-- Whether a command refuses its operands: one is missing, is no integer of its kind, or is an
unknown selector. -/
def refuses : Builtin → List String → Bool
  | .leave, text :: _ => (Numeral.code? text).isNone
  | .sleep, text :: _ => (Numeral.seconds? text).isNone
  | .throw, _ :: text :: _ => (Numeral.code? text).isNone
  | .throw, _ => true
  | .trace, text :: _ => isMisselected text
  | .system, [] => true
  | .single _, [] => true
  | .batch _, [] => true
  | _, _ => false

def newCode? : Builtin → List String → Option ReturnCode
  | .leave, text :: _ => Numeral.code? text
  | _, _ => none

def thrown? : Builtin → List String → Option Record
  | .throw, name :: text :: words =>
    (Numeral.code? text).map fun code => Record.userDefined name code (Standard.thrownMessage words)
  | _, _ => none

def dues (b : Builtin) (operands : List String) : Dues where
  own := (b.refuses operands).toNat
  codes := (b.newCode? operands).toList
  thrown := (b.thrown? operands).toList

/-- The calls on files and on the executor, the pauses and the changes of directory that are open to
a command. -/
def opens (b : Builtin) (operands : List String) : Deed → Prop
  | .call (.edit edit path) _ =>
    (b = .single edit ∧ operands.head? = some path) ∨ (b = .batch edit ∧ path ∈ operands)
  | .call (.list path) _ => b = .ls ∧ ∀ named ∈ operands.head?, path = named
  | .call .locate _ => b = .cd ∨ b = .gwd ∨ (b = .ls ∧ operands = [])
  | .call (.move path) _ => b = .cd ∧ ∀ named ∈ operands.head?, path = named
  | .call (.run line) _ => b = .system ∧ operands ≠ [] ∧ line = joinWords operands
  | .pause _ => b = .sleep
  | .setCwd _ => b = .cd
  | _ => False

end Builtin

/-! ## The parts of commands -/

namespace Standard

variable {W : Type} {h : Host W} {may : Deed → Prop} {wanted : Bool}

theorem abides_rejectInteger (text : String) :
    (rejectInteger h text).Abides h may wanted { own := 1 } (· = .success) :=
  .reject (by decide) _ _

theorem abides_rejectMissing :
    (rejectMissing h).Abides h may wanted { own := 1 } (· = .success) :=
  .reject (by decide) _ _

theorem abides_follow (hl : ∀ answer, may (.call .locate answer)) (hw : ∀ cwd, may (.setCwd cwd)) :
    (follow h).Abides h may false {} (· = .success) := by
  refine .attempt .locate rfl hl rfl (fun cwd => ?_) fun _ => .pure rfl
  exact (Action.Abides.setCwd (P := fun _ => True) (hw cwd) trivial).bind fun _ _ => .pure rfl

theorem abides_goTo {path : String} (hm : ∀ answer, may (.call (.move path) answer))
    (hl : ∀ answer, may (.call .locate answer)) (hw : ∀ cwd, may (.setCwd cwd)) :
    (goTo h path).Abides h may false {} (· = .success) :=
  .attempt (.move path) rfl hm rfl (fun _ => abides_follow hl hw)
    fun _ => .tell (.reject (by decide) _ _)

theorem abides_goHome (hm : ∀ path answer, may (.call (.move path) answer))
    (hl : ∀ answer, may (.call .locate answer)) (hw : ∀ cwd, may (.setCwd cwd)) :
    (goHome h).Abides h may false {} (· = .success) :=
  .session fun session =>
    .attempt (.move session.home) rfl (hm session.home) rfl (fun _ => abides_follow hl hw)
      fun _ => .tell (.reject (by decide) _ _)

theorem abides_showDirectory (hl : ∀ answer, may (.call .locate answer)) :
    (showDirectory h).Abides h may true {} (· = .success) := by
  refine .attempt .locate rfl hl rfl (fun cwd => ?_) fun _ => .tell (.reject (by decide) _ _)
  exact (Action.Abides.print cwd).bind fun _ _ => .pure rfl

theorem abides_showListing {path : String} (hm : ∀ answer, may (.call (.list path) answer)) :
    (showListing h path).Abides h may wanted {} (· = .success) := by
  refine .attempt (.list path) rfl hm rfl (fun names => ?_) fun _ => .tell (.reject (by decide) _ _)
  exact (Action.Abides.printAll (listingLines path names)).bind fun _ _ => .pure rfl

/-- Nobody is told that the working directory could not be named. -/
theorem abides_defaultListing (hl : ∀ answer, may (.call .locate answer)) :
    (defaultListing h).Abides h may false {} (fun _ => True) :=
  .attempt .locate rfl hl rfl (fun _ => .pure trivial) fun _ => .session fun _ => .pure trivial

theorem abides_editPath {edit : PathEdit} {path : String}
    (hm : ∀ answer, may (.call (.edit edit path) answer)) :
    (editPath h edit path).Abides h may wanted {} (fun _ => True) :=
  .attempt (.edit edit path) rfl hm rfl (fun _ => .print _) fun _ => .tell (.fail (by decide) _ _)

/-- A path that fails owes its own error line, so the paths after it find nothing owed. -/
theorem abides_editAll {edit : PathEdit} {paths : List String}
    (hm : ∀ path ∈ paths, ∀ answer, may (.call (.edit edit path) answer)) :
    (editAll h edit paths).Abides h may wanted {} (fun _ => True) := by
  induction paths with
  | nil => exact .pure trivial
  | cons path rest ih =>
    refine (abides_editPath (hm path List.mem_cons_self)).bind fun _ _ => ih ?_
    exact fun p hp => hm p (List.mem_cons_of_mem path hp)

theorem abides_runLine {line : String} (hm : ∀ answer, may (.call (.run line) answer)) :
    (runLine h line).Abides h may wanted {} (· = .success) :=
  .attempt (.run line) rfl hm rfl (fun _ => .pure rfl) fun _ => .tell (.reject (by decide) _ _)

theorem abides_showRecord (index : Int64) :
    (showRecord h index).Abides h may wanted {} (· = .success) :=
  .errors fun errors =>
    (Action.Abides.printAll (traceLines errors index)).bind fun _ _ => .pure rfl

theorem abides_showCount : (showCount h).Abides h may wanted {} (· = .success) :=
  .errors fun _ => (Action.Abides.print _).bind fun _ _ => .pure rfl

theorem abides_showSelected (selector : String) :
    (showSelected h selector).Abides h may wanted
      { own := (Builtin.isMisselected selector).toNat } (· = .success) := by
  unfold showSelected Builtin.isMisselected
  by_cases hc : selector ∈ countSelectors
  · simp only [hc, if_true]
    exact abides_showCount
  · by_cases hp : ['-', '-'].isPrefixOf selector.toList = true
    · simp only [hc, hp, if_true, if_false]
      exact .reject (by decide) _ _
    · simp only [hc, hp, if_false]
      cases hi : Numeral.index? selector with
      | none => exact abides_rejectInteger selector
      | some index => exact abides_showRecord index

theorem abides_leaveWith (text : String) :
    (leaveWith h text).Abides h may wanted (Builtin.leave.dues [text])
      (· = Builtin.leave.token [text]) := by
  cases hc : Numeral.code? text with
  | none =>
    have hd : Builtin.leave.dues [text] = { own := 1 } := by
      simp [Builtin.dues, Builtin.refuses, Builtin.newCode?, Builtin.thrown?, hc]
    have ht : Builtin.leave.token [text] = .success := by simp [Builtin.token, hc]
    rw [hd, ht, leaveWith, hc]
    exact abides_rejectInteger text
  | some code =>
    have hd : Builtin.leave.dues [text] = { codes := [code] } := by
      simp [Builtin.dues, Builtin.refuses, Builtin.newCode?, Builtin.thrown?, hc]
    have ht : Builtin.leave.token [text] = .leaveWith := by simp [Builtin.token, hc]
    simp only [hd, ht, leaveWith, hc]
    exact .setCode (.pure rfl)

theorem abides_throwRecord (name text : String) (words : List String) :
    (throwRecord h name text words).Abides h may wanted
      (Builtin.throw.dues (name :: text :: words)) (· = .success) := by
  cases hc : Numeral.code? text with
  | none =>
    have hd : Builtin.throw.dues (name :: text :: words) = { own := 1 } := by
      simp [Builtin.dues, Builtin.refuses, Builtin.newCode?, Builtin.thrown?, hc]
    rw [hd, throwRecord, hc]
    exact abides_rejectInteger text
  | some code =>
    have hd : Builtin.throw.dues (name :: text :: words) =
        { thrown := [Record.userDefined name code (thrownMessage words)] } := by
      simp [Builtin.dues, Builtin.refuses, Builtin.newCode?, Builtin.thrown?, hc]
    simp only [hd, throwRecord, hc]
    exact .push rfl fun _ => .tell (.pure rfl)

theorem abides_sleepFor (text : String) (hm : ∀ seconds, may (.pause seconds)) :
    (sleepFor h text).Abides h may wanted (Builtin.sleep.dues [text]) (· = .success) := by
  cases hs : Numeral.seconds? text with
  | none =>
    have hd : Builtin.sleep.dues [text] = { own := 1 } := by
      simp [Builtin.dues, Builtin.refuses, Builtin.newCode?, Builtin.thrown?, hs]
    rw [hd, sleepFor, hs]
    exact abides_rejectInteger text
  | some seconds =>
    have hd : Builtin.sleep.dues [text] = {} := by
      simp [Builtin.dues, Builtin.refuses, Builtin.newCode?, Builtin.thrown?, hs]
    simp only [hd, sleepFor, hs]
    exact .pause (hm seconds) (.pure rfl)

end Standard

namespace Builtin

/-- A command does what is fixed for its operands, whatever the host answers. -/
theorem abides {W : Type} (h : Host W) (b : Builtin) (synopses : List Synopsis) (name : String)
    (operands : List String) :
    ((b.command h).execute synopses name operands).Abides h (b.opens operands) (b == .gwd)
      (b.dues operands) (· = b.token operands) := by
  cases b with
  | cd =>
    cases operands with
    | nil =>
      exact Standard.abides_goHome (fun _ _ => ⟨rfl, by simp⟩) (fun _ => .inl rfl) fun _ => rfl
    | cons path rest =>
      exact Standard.abides_goTo (fun _ => ⟨rfl, by simp⟩) (fun _ => .inl rfl) fun _ => rfl
  | gwd => exact Standard.abides_showDirectory fun _ => .inr (.inl rfl)
  | exit => exact .pure rfl
  | leave =>
    cases operands with
    | nil => exact .pure rfl
    | cons text rest => exact Standard.abides_leaveWith text
  | restart => exact .pure rfl
  | version => exact (Action.Abides.printAll _).bind fun _ _ => .pure rfl
  | clear => exact (Action.Abides.output .clear rfl rfl rfl).bind fun _ _ => .pure rfl
  | print => exact (Action.Abides.print _).bind fun _ _ => .pure rfl
  | sleep =>
    cases operands with
    | nil => exact .pause rfl (.pure rfl)
    | cons text rest => exact Standard.abides_sleepFor text fun _ => rfl
  | throw =>
    match operands with
    | [] => exact Standard.abides_rejectMissing
    | [_] => exact Standard.abides_rejectMissing
    | name :: text :: words => exact Standard.abides_throwRecord name text words
  | trace =>
    cases operands with
    | nil => exact Standard.abides_showRecord 1
    | cons selector rest => exact Standard.abides_showSelected selector
  | system =>
    cases operands with
    | nil => exact Standard.abides_rejectMissing
    | cons word rest => exact Standard.abides_runLine fun _ => ⟨rfl, by simp, rfl⟩
  | single edit =>
    cases operands with
    | nil => exact Standard.abides_rejectMissing
    | cons path rest =>
      refine (Standard.abides_editPath fun _ => .inl ⟨rfl, rfl⟩).bind fun _ _ => .pure rfl
  | batch edit =>
    cases operands with
    | nil => exact Standard.abides_rejectMissing
    | cons path rest =>
      refine (Standard.abides_editAll fun p hp _ => .inr ⟨rfl, hp⟩).bind fun _ _ => .pure rfl
  | ls =>
    cases operands with
    | nil =>
      refine (Standard.abides_defaultListing fun _ => .inr (.inr ⟨rfl, rfl⟩)).bind fun _ _ => ?_
      exact Standard.abides_showListing fun _ => ⟨rfl, by simp⟩
    | cons path rest => exact Standard.abides_showListing fun _ => ⟨rfl, by simp⟩
  | help => exact (Action.Abides.printAll _).bind fun _ _ => .pure rfl

theorem token_of_error {W : Type} {h : Host W} {b : Builtin} {synopses : List Synopsis}
    {name : String} {operands : List String} {s : State W} {cause : Failure}
    (he : (((b.command h).execute synopses name operands).run s).1 = .error cause) :
    b.token operands = .success := by
  cases b with
  | exit => cases he
  | restart => cases he
  | leave =>
    cases operands with
    | nil => cases he
    | cons text rest =>
      cases hc : Numeral.code? text with
      | none => simp [token, hc]
      | some code =>
        simp only [command, Standard.leave, Standard.leaveWith, hc] at he
        cases he
  | _ => rfl

end Builtin
end LineShell
