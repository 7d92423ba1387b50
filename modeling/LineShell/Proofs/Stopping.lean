import LineShell.Proofs.Journal
import LineShell.Proofs.Runs

/-!
# What stops a loop

After each line the loop asks two questions: whether the token of the line ends the session, and
whether the token that the session remembers does.  The second one is never needed, since a dispatch
stores the token that it gives after its command has run, whatever the command did to the session.
This holds for any table of commands, so nothing here knows the standard one.
-/

namespace LineShell
namespace Interpreter

variable {W : Type}

/-! ## The loop with one question -/

/-- Reads and answers lines until the token of one of them ends the loop. -/
def readLinesByToken (sh : Interpreter W) (showPrompt : String → W → W) :
    Supply W → State W → Reading × State W
  | .ended ending, s =>
    ({ prompts := [s.session.prompt], unread := [] }, sh.tell ending.event (prompted showPrompt s))
  | .line text rest, s =>
    let (token, t) := sh.runLine text (prompted showPrompt s)
    if token.isTerminal then ({ prompts := [s.session.prompt], unread := rest.pending }, t)
    else
      let (reading, u) := sh.readLinesByToken showPrompt rest (sh.afterRound token t)
      ({ reading with prompts := s.session.prompt :: reading.prompts }, u)
  | .ask look after, s =>
    sh.readLinesByToken showPrompt (look s.world) { s with world := after s.world }

def loopByToken (sh : Interpreter W) (source : LineSource W) (s : State W) :
    ReturnCode × Reading × State W :=
  let (reading, t) := sh.readLinesByToken source.showPrompt source.supply s
  (t.session.code, reading, sh.shutdown t)

theorem readLines_eq_byToken (sh : Interpreter W) (showPrompt : String → W → W)
    (supply : Supply W) (s : State W) :
    sh.readLines showPrompt supply s = sh.readLinesByToken showPrompt supply s := by
  induction supply generalizing s with
  | ended ending => rfl
  | ask look after ih => exact ih s.world { s with world := after s.world }
  | line text rest ih =>
    cases hr : sh.runLine text (prompted showPrompt s) with
    | mk token t =>
      cases ht : token.isTerminal with
      | true =>
        rw [readLines_of_terminal hr ht]
        simp only [readLinesByToken, hr, ht, if_true]
      | false =>
        rw [readLines_of_not_terminal hr ht, ih]
        simp only [readLinesByToken, hr, ht, Bool.false_eq_true, if_false]

/-! ## Commands that fail -/

/-- The words name a command, and the command breaks off. -/
def BreaksOff (sh : Interpreter W) (words : List String) (s : State W) : Prop :=
  ∃ name operands command cause, words = name :: operands ∧
    sh.commands.resolve name = some command ∧
    ((command.execute sh.commands.synopses name operands).run
      (sh.tell (.commandStarted (command.names.headD name) operands.length) s)).1 = .error cause

/-- A command that breaks off counts as run, whatever it was about to ask of the loop. -/
theorem BreaksOff.token {sh : Interpreter W} {words : List String} {s : State W}
    (breaks : sh.BreaksOff words s) : (sh.dispatch words s).1 = .success := by
  obtain ⟨name, operands, command, cause, rfl, hresolve, hcause⟩ := breaks
  have hanswer : (sh.answer (name :: operands) s).1 = .success := by
    simp only [answer, hresolve, runCommand]
    split
    · next token t hr =>
      rw [hr] at hcause
      cases hcause
    · rfl
  exact hanswer

/-! ## Where the rounds end -/

section

variable (sh : Interpreter W) (showPrompt : String → W → W) (ending : Ending)

/-- A loop reads at least once, and the first read is made in the state as it is. -/
theorem head?_rounds (lines : List String) (s : State W) :
    (sh.rounds showPrompt (.ofLines ending lines) s).head? = some ⟨s, prompted showPrompt s⟩ := by
  cases lines with
  | nil => rfl
  | cons text rest =>
    cases hr : sh.runLine text (prompted showPrompt s) with
    | mk token t =>
      cases ht : token.isTerminal with
      | true => rw [Supply.ofLines, rounds_of_terminal hr ht, List.head?_cons]
      | false => rw [Supply.ofLines, rounds_of_not_terminal hr ht, List.head?_cons]

theorem length_rounds_pos (lines : List String) (s : State W) :
    0 < (sh.rounds showPrompt (.ofLines ending lines) s).length := by
  have hhead := head?_rounds sh showPrompt ending lines s
  rw [List.length_pos_iff]
  intro hnil
  rw [hnil] at hhead
  cases hhead

/-- Whether a line that was read is the last one is a matter of its token. -/
theorem isTerminal_iff_last {lines : List String} {s : State W} {i : Nat} {line : String}
    {r : Round W} (hline : lines[i]? = some line)
    (hround : (sh.rounds showPrompt (.ofLines ending lines) s)[i]? = some r) :
    (sh.runLine line r.typed).1.isTerminal = true ↔
      (sh.rounds showPrompt (.ofLines ending lines) s).length = i + 1 := by
  induction lines generalizing s i with
  | nil => cases hline
  | cons text rest ih =>
    cases hr : sh.runLine text (prompted showPrompt s) with
    | mk token t =>
      cases ht : token.isTerminal with
      | true =>
        rw [Supply.ofLines, rounds_of_terminal hr ht] at hround ⊢
        cases i with
        | zero =>
          cases hline
          cases hround
          simp [hr, ht]
        | succ i => cases hround
      | false =>
        rw [Supply.ofLines, rounds_of_not_terminal hr ht] at hround ⊢
        cases i with
        | zero =>
          -- Behind a round that does not end the loop there is another one.
          have hnext := length_rounds_pos sh showPrompt ending rest (sh.afterRound token t)
          cases hline
          cases hround
          simp only [hr, ht, Bool.false_eq_true, List.length_cons, false_iff]
          omega
        | succ i =>
          rw [List.getElem?_cons_succ] at hline hround
          rw [ih hline hround, List.length_cons]
          omega

/-- What was not read is what lies behind the line of the last round. -/
theorem unread_readLines (lines : List String) (s : State W) :
    (sh.readLines showPrompt (.ofLines ending lines) s).1.unread =
      lines.drop (sh.rounds showPrompt (.ofLines ending lines) s).length := by
  induction lines generalizing s with
  | nil => rfl
  | cons text rest ih =>
    cases hr : sh.runLine text (prompted showPrompt s) with
    | mk token t =>
      cases ht : token.isTerminal with
      | true =>
        rw [Supply.ofLines, readLines_of_terminal hr ht, rounds_of_terminal hr ht]
        simp
      | false =>
        rw [Supply.ofLines, readLines_of_not_terminal hr ht, rounds_of_not_terminal hr ht,
          List.length_cons, List.drop_succ_cons]
        exact ih (sh.afterRound token t)

/-- A loop that no token ends goes through all lines and makes one more read. -/
theorem length_rounds_of_not_terminal {lines : List String} {s : State W}
    (goes : ∀ (i : Nat) line (r : Round W), lines[i]? = some line →
      (sh.rounds showPrompt (.ofLines ending lines) s)[i]? = some r →
        (sh.runLine line r.typed).1.isTerminal = false) :
    (sh.rounds showPrompt (.ofLines ending lines) s).length = lines.length + 1 := by
  induction lines generalizing s with
  | nil => rfl
  | cons text rest ih =>
    cases hr : sh.runLine text (prompted showPrompt s) with
    | mk token t =>
      have hfirst := goes 0 text ⟨s, prompted showPrompt s⟩ rfl
        (List.head?_eq_getElem? ▸ head?_rounds sh showPrompt ending (text :: rest) s)
      rw [hr] at hfirst
      rw [Supply.ofLines, rounds_of_not_terminal hr hfirst, List.length_cons, List.length_cons,
        ih]
      intro i line r hline hround
      refine goes (i + 1) line r hline ?_
      rw [Supply.ofLines, rounds_of_not_terminal hr hfirst]
      exact hround

end

/-- For any table of commands the loop is the one that asks for the token of the line alone.  It
stops behind a line if and only if the dispatch of that line asks it to, and else only where the
lines end.  It always reads once, whatever token the session remembers from before, and it always
goes on behind a command that breaks off. -/
theorem loop_stops_by_token (sh : Interpreter W) (s : State W) :
    (∀ source, sh.loop source s = sh.loopByToken source s) ∧
    ∀ showPrompt ending lines,
      let source : LineSource W := { supply := .ofLines ending lines, showPrompt }
      let rounds := sh.rounds source.showPrompt source.supply s
      let reading := (sh.loop source s).2.1
      reading.prompts = rounds.map (·.before.session.prompt) ∧
        reading.unread = lines.drop rounds.length ∧
        rounds.head? = some ⟨s, prompted showPrompt s⟩ ∧
        (∀ (i : Nat) line (r : Round W), lines[i]? = some line → rounds[i]? = some r →
          (((sh.runLine line r.typed).1 = .leave ∨ (sh.runLine line r.typed).1 = .leaveWith) ↔
            rounds.length = i + 1) ∧
          (sh.BreaksOff (tokenize line) r.typed → i + 1 < rounds.length)) ∧
        ((∀ (i : Nat) line (r : Round W), lines[i]? = some line → rounds[i]? = some r →
            (sh.runLine line r.typed).1.isTerminal = false) →
          rounds.length = lines.length + 1) := by
  refine ⟨fun source => ?_, fun showPrompt ending lines => ?_⟩
  · simp only [loop, loopByToken, readLines_eq_byToken]
  · intro source rounds reading
    refine ⟨prompts_readLines sh showPrompt source.supply s,
      unread_readLines sh showPrompt ending lines s, head?_rounds sh showPrompt ending lines s, ?_,
      length_rounds_of_not_terminal sh showPrompt ending⟩
    intro i line r hline hround
    have hlast := isTerminal_iff_last sh showPrompt ending hline hround
    refine ⟨(Token.isTerminal_iff _).symm.trans hlast, fun breaks => ?_⟩
    have hread : i < rounds.length := (List.getElem?_eq_some_iff.mp hround).1
    have hgoes : ¬ rounds.length = i + 1 := by
      rw [← hlast, runLine, breaks.token]
      decide
    omega

/-- A command that has the session remember an end, and breaks off before it can ask for one.  The
session itself remembers an end from before.  Both lines are read. -/
example :
    let stop : Command String :=
      { names := ["stop"]
        execute := fun _ _ _ => do
          .modifySession fun s => { s with last := some .leave }
          .abort .brokenPipe }
    let sh : Interpreter String := { host := Host.bare, commands := .ofList [stop] }
    let session := { cwd := "/", home := "/", user := "user", last := some .leaveWith }
    let source := { supply := .ofLines .endOfInput ["stop", ""], showPrompt := fun _ w => w }
    let reading := (sh.loop source { session, errors := {}, world := "/" }).2.1
    reading.prompts.length = 3 ∧ reading.unread = [] := by
  decide +kernel

end Interpreter
end LineShell
