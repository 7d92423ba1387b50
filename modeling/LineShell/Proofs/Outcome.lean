import LineShell.Proofs.Errand
import LineShell.Proofs.Runs

/-!
# How a session ends

Which line ends a session, and with which code, can be read off the lines alone.  Nothing the host
does has a say in it: commands that fail go on like commands that work.  The reading of a line given
here knows neither the table of commands nor the interpreter.
-/

namespace LineShell

/-! ## What lines mean to the loop -/

/-- Whether a line ends the session.  A code that cannot be read does not. -/
def endsSession (line : String) : Bool :=
  match tokenize line with
  | [] => false
  | name :: operands =>
    name ∈ ["exit", "quit", "q"] ||
      (name = "return" && operands.head?.all fun text => (Numeral.code? text).isSome)

/-- The code that words store. -/
def storedBy? : List String → Option ReturnCode
  | name :: text :: _ => if name = "return" then Numeral.code? text else none
  | _ => none

def storedCode? (line : String) : Option ReturnCode := storedBy? (tokenize line)

def restartsSession (line : String) : Bool := (tokenize line).head? = some "restart"

theorem Builtin.isTerminal_token (b : Builtin) (operands : List String) :
    (b.token operands).isTerminal = (b == .exit || (b == .leave &&
      operands.head?.all fun text => (Numeral.code? text).isSome)) := by
  cases b with
  | leave =>
    cases operands with
    | nil => rfl
    | cons text rest => cases hc : Numeral.code? text <;> simp [token, hc, Token.isTerminal]
  | _ => simp [token, Token.isTerminal]

theorem Builtin.token_eq_restart_iff (b : Builtin) (operands : List String) :
    b.token operands = .restart ↔ b = .restart := by
  cases b with
  | leave =>
    cases operands with
    | nil => simp [token]
    | cons text rest => cases hc : Numeral.code? text <;> simp [token, hc]
  | _ => simp [token]

theorem endsSession_eq (line : String) :
    endsSession line = (Errand.ofWords (tokenize line)).token.isTerminal := by
  unfold endsSession
  cases tokenize line with
  | nil => rfl
  | cons name operands =>
    have hexit : name ∈ ["exit", "quit", "q"] ↔ Builtin.ofName? name = some .exit :=
      (Builtin.ofName?_eq_some_iff (b := .exit)).symm
    have hleave := Builtin.eq_iff_ofName?_eq_some (b := .leave) rfl name
    cases ho : Builtin.ofName? name with
    | none => simp [Errand.ofWords_external ho, Errand.token, Token.isTerminal, hexit, hleave, ho]
    | some b =>
      rw [Errand.ofWords_command ho]
      simp only [Errand.token, Builtin.isTerminal_token, hexit, hleave, ho, Option.some.injEq]
      rfl

theorem codes_ofWords (words : List String) :
    (Errand.ofWords words).dues.codes = (storedBy? words).toList := by
  cases words with
  | nil => rfl
  | cons name operands =>
    have hleave := Builtin.eq_iff_ofName?_eq_some (b := .leave) rfl name
    cases ho : Builtin.ofName? name with
    | none =>
      cases operands <;> simp [storedBy?, Errand.ofWords_external ho, Errand.dues, hleave, ho]
    | some b =>
      rw [Errand.ofWords_command ho]
      cases b <;> cases operands <;>
        simp [storedBy?, Errand.dues, Builtin.dues, Builtin.newCode?, hleave, ho]

theorem token_eq_restart_iff (line : String) :
    (Errand.ofWords (tokenize line)).token = .restart ↔ restartsSession line = true := by
  unfold restartsSession
  cases tokenize line with
  | nil => simp [Errand.ofWords, Errand.token]
  | cons name operands =>
    have hrestart := Builtin.eq_iff_ofName?_eq_some (b := .restart) rfl name
    cases ho : Builtin.ofName? name with
    | none => simp [Errand.ofWords_external ho, Errand.token, hrestart, ho]
    | some b =>
      simp [Errand.ofWords_command ho, Errand.token, Builtin.token_eq_restart_iff, hrestart, ho]

theorem storedCode?_of_not_endsSession {line : String} (he : endsSession line = false) :
    storedCode? line = none := by
  unfold endsSession at he
  unfold storedCode? storedBy?
  generalize tokenize line = words at he ⊢
  rcases words with _ | ⟨name, _ | ⟨text, rest⟩⟩
  · rfl
  · rfl
  · by_cases hn : name = "return"
    · simpa [hn] using he
    · simp [hn]

/-! ## Lines and sessions -/

namespace Interpreter

variable {W : Type}

theorem token_runLine (h : Host W) (line : String) (s : State W) :
    ((standard h).runLine line s).1 = (Errand.ofWords (tokenize line)).token :=
  (account_dispatch h (tokenize line) s).1

theorem code_dispatch (h : Host W) (words : List String) (s : State W) :
    ((standard h).dispatch words s).2.session.code = (storedBy? words).getD s.session.code := by
  obtain ⟨-, ds, course, account⟩ := account_dispatch h words s
  rw [course.code, account.codes, codes_ofWords]
  cases storedBy? words <;> rfl

theorem code_runLine (h : Host W) (line : String) (s : State W) :
    ((standard h).runLine line s).2.session.code = (storedCode? line).getD s.session.code :=
  code_dispatch h (tokenize line) s

/-- The code that a session has after lines, the last of which may have ended it. -/
def codeAfter (lines : List String) (code : ReturnCode) : ReturnCode :=
  ((lines.dropWhile (!endsSession ·)).head?.bind storedCode?).getD
    (if (lines.takeWhile (!endsSession ·)).any restartsSession then 0 else code)

theorem codeAfter_of_endsSession {line : String} (he : endsSession line = true)
    (rest : List String) (code : ReturnCode) :
    codeAfter (line :: rest) code = (storedCode? line).getD code := by
  simp [codeAfter, he]

theorem codeAfter_of_not_endsSession {line : String} (he : endsSession line = false)
    (rest : List String) (code : ReturnCode) :
    codeAfter (line :: rest) code = codeAfter rest (if restartsSession line then 0 else code) := by
  simp only [codeAfter, he, List.dropWhile_cons, List.takeWhile_cons, Bool.not_false, if_true,
    List.any_cons]
  cases restartsSession line <;> simp

/-- What a loop does with lines: it goes on to the first that ends the session. -/
theorem readLines_ofLines (h : Host W) (showPrompt : String → W → W) (ending : Ending)
    (lines : List String) (s : State W) :
    let (reading, t) := (standard h).readLines showPrompt (.ofLines ending lines) s
    reading.prompts.length = (lines.takeWhile (!endsSession ·)).length + 1 ∧
      reading.unread = (lines.dropWhile (!endsSession ·)).tail ∧
      t.session.code = codeAfter lines s.session.code := by
  -- Of the state that a line leaves, only the code matters to the lines behind it.
  induction lines generalizing s with
  | nil => exact ⟨rfl, rfl, rfl⟩
  | cons line rest ih =>
    cases hr : (standard h).runLine line (prompted showPrompt s) with
    | mk token t =>
      have htoken : token = (Errand.ofWords (tokenize line)).token :=
        (congrArg Prod.fst hr).symm.trans (token_runLine h line _)
      have hcode : t.session.code = (storedCode? line).getD s.session.code :=
        (congrArg (·.2.session.code) hr).symm.trans (code_runLine h line _)
      have hterminal : token.isTerminal = endsSession line := by rw [htoken, endsSession_eq]
      cases he : endsSession line with
      | true =>
        rw [he] at hterminal
        rw [Supply.ofLines, readLines_of_terminal hr hterminal, codeAfter_of_endsSession he]
        simp only [List.takeWhile_cons, List.dropWhile_cons, he, Supply.pending_ofLines]
        exact ⟨rfl, rfl, hcode⟩
      | false =>
        rw [he] at hterminal
        rw [storedCode?_of_not_endsSession he] at hcode
        have hstart : ((standard h).afterRound token t).session.code =
            if restartsSession line then 0 else s.session.code := by
          by_cases hrestart : token = .restart
          · have hline := (token_eq_restart_iff line).mp (htoken.symm.trans hrestart)
            simp [afterRound, hrestart, hline, restart, Session.reset]
          · have hline := mt (fun hl => htoken.trans ((token_eq_restart_iff line).mpr hl)) hrestart
            simp only [afterRound, hrestart, hline, if_false]
            exact hcode
        obtain ⟨hprompts, hunread, hfinal⟩ := ih ((standard h).afterRound token t)
        rw [Supply.ofLines, readLines_of_not_terminal hr hterminal,
          codeAfter_of_not_endsSession he, ← hstart]
        simp only [List.takeWhile_cons, List.dropWhile_cons, he, Bool.not_false, if_true,
          List.length_cons]
        exact ⟨congrArg (· + 1) hprompts, hunread, hfinal⟩

/-- A session over lines always comes to an end, and its end is fixed by the lines: it reads up to
the first line that ends it, or to the end of the lines and once more.  No call on the host, whether
it works or not, changes where it stops or the code it gives, and the error log is left empty. -/
theorem loop_outcome (h : Host W) (showPrompt : String → W → W) (ending : Ending)
    (lines : List String) (s : State W) :
    let source : LineSource W := { supply := .ofLines ending lines, showPrompt }
    let before := lines.takeWhile (!endsSession ·)
    let rest := lines.dropWhile (!endsSession ·)
    let (code, reading, t) := (standard h).loop source s
    reading.prompts.length = before.length + 1 ∧
      reading.unread = rest.tail ∧
      code = (rest.head?.bind storedCode?).getD
        (if before.any restartsSession then 0 else s.session.code) ∧
      t.session.code = code ∧
      t.errors = {} ∧
      ((standard h).converse (fun w => (.ok source, w)) s).1.result = .ok code := by
  obtain ⟨hprompts, hunread, hcode⟩ := readLines_ofLines h showPrompt ending lines s
  exact ⟨hprompts, hunread, hcode, rfl, rfl, rfl⟩

end Interpreter
end LineShell
