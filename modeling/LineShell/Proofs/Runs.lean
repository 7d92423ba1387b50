import LineShell.Launch

/-!
# Rounds and runs

A loop goes in rounds: it shows a prompt, reads a line and answers it.  What comes after a round
depends on the token alone, which the two equations on `readLines` say for any table of commands.
`linesRead` and `rounds` follow the same equations and keep what a loop itself does not give back:
the lines it has read, and the states in which it showed its prompts and answered.

A run answers inputs one after the other: words, lines, and whole sources of lines.  `Law` gathers
what a relation between the states before and after has to satisfy so that every run keeps it, and
the induction over rounds and inputs is made once, in `Law.respondAll`.  A relation may name the
words that were dispatched on the way.
-/

namespace LineShell

/-! ## Rounds -/

/-- A round of a loop: the state in which the prompt is shown, and the one in which the line that
is read is answered. -/
structure Round (W : Type) where
  before : State W
  typed : State W

namespace Interpreter

variable {W : Type}

def prompted (showPrompt : String → W → W) (s : State W) : State W :=
  { s with world := showPrompt s.session.prompt s.world }

def afterRound (sh : Interpreter W) (token : Token) (s : State W) : State W :=
  if token = .restart then sh.restart s else s

theorem readLines_of_terminal {sh : Interpreter W} {showPrompt : String → W → W} {text : String}
    {rest : Supply W} {s t : State W} {token : Token}
    (hr : sh.runLine text (prompted showPrompt s) = (token, t)) (ht : token.isTerminal = true) :
    sh.readLines showPrompt (.line text rest) s =
      ({ prompts := [s.session.prompt], unread := rest.pending }, t) := by
  have hstops := sh.stops_runLine text (prompted showPrompt s)
  rw [hr, ht] at hstops
  simp only [readLines]
  rw [← prompted, hr]
  simp only [hstops, if_true]

theorem readLines_of_not_terminal {sh : Interpreter W} {showPrompt : String → W → W}
    {text : String} {rest : Supply W} {s t : State W} {token : Token}
    (hr : sh.runLine text (prompted showPrompt s) = (token, t)) (ht : token.isTerminal = false) :
    sh.readLines showPrompt (.line text rest) s =
      let (reading, u) := sh.readLines showPrompt rest (sh.afterRound token t)
      ({ reading with prompts := s.session.prompt :: reading.prompts }, u) := by
  have hstops := sh.stops_runLine text (prompted showPrompt s)
  rw [hr, ht] at hstops
  simp only [readLines]
  rw [← prompted, hr]
  simp only [hstops, Bool.false_eq_true, if_false, afterRound]

def linesRead (sh : Interpreter W) (showPrompt : String → W → W) :
    Supply W → State W → List String
  | .ended _, _ => []
  | .line text rest, s =>
    let (token, t) := sh.runLine text (prompted showPrompt s)
    if token.isTerminal then [text]
    else text :: sh.linesRead showPrompt rest (sh.afterRound token t)
  | .ask look after, s =>
    sh.linesRead showPrompt (look s.world) { s with world := after s.world }

/-- The rounds of a loop, the one that finds no line among them. -/
def rounds (sh : Interpreter W) (showPrompt : String → W → W) :
    Supply W → State W → List (Round W)
  | .ended _, s => [⟨s, prompted showPrompt s⟩]
  | .line text rest, s =>
    let (token, t) := sh.runLine text (prompted showPrompt s)
    if token.isTerminal then [⟨s, prompted showPrompt s⟩]
    else ⟨s, prompted showPrompt s⟩ :: sh.rounds showPrompt rest (sh.afterRound token t)
  | .ask look after, s => sh.rounds showPrompt (look s.world) { s with world := after s.world }

section

variable {sh : Interpreter W} {showPrompt : String → W → W} {text : String} {rest : Supply W}
  {s t : State W} {token : Token}

theorem linesRead_of_terminal (hr : sh.runLine text (prompted showPrompt s) = (token, t))
    (ht : token.isTerminal = true) : sh.linesRead showPrompt (.line text rest) s = [text] := by
  simp only [linesRead, hr, ht, if_true]

theorem linesRead_of_not_terminal (hr : sh.runLine text (prompted showPrompt s) = (token, t))
    (ht : token.isTerminal = false) :
    sh.linesRead showPrompt (.line text rest) s =
      text :: sh.linesRead showPrompt rest (sh.afterRound token t) := by
  simp only [linesRead, hr, ht, Bool.false_eq_true, if_false]

theorem rounds_of_terminal (hr : sh.runLine text (prompted showPrompt s) = (token, t))
    (ht : token.isTerminal = true) :
    sh.rounds showPrompt (.line text rest) s = [⟨s, prompted showPrompt s⟩] := by
  simp only [rounds, hr, ht, if_true]

theorem rounds_of_not_terminal (hr : sh.runLine text (prompted showPrompt s) = (token, t))
    (ht : token.isTerminal = false) :
    sh.rounds showPrompt (.line text rest) s =
      ⟨s, prompted showPrompt s⟩ :: sh.rounds showPrompt rest (sh.afterRound token t) := by
  simp only [rounds, hr, ht, Bool.false_eq_true, if_false]

end

/-- Every line is read or left unread. -/
theorem linesRead_append_unread (sh : Interpreter W) (showPrompt : String → W → W)
    (ending : Ending) (lines : List String) (s : State W) :
    sh.linesRead showPrompt (.ofLines ending lines) s ++
      (sh.readLines showPrompt (.ofLines ending lines) s).1.unread = lines := by
  induction lines generalizing s with
  | nil => rfl
  | cons text rest ih =>
    cases hr : sh.runLine text (prompted showPrompt s) with
    | mk token t =>
      cases ht : token.isTerminal with
      | true =>
        rw [Supply.ofLines, linesRead_of_terminal hr ht, readLines_of_terminal hr ht]
        simp
      | false =>
        rw [Supply.ofLines, linesRead_of_not_terminal hr ht, readLines_of_not_terminal hr ht]
        exact congrArg (text :: ·) (ih (sh.afterRound token t))

/-- There is one prompt for each round, made of the session as it was then. -/
theorem prompts_readLines (sh : Interpreter W) (showPrompt : String → W → W) (supply : Supply W)
    (s : State W) :
    (sh.readLines showPrompt supply s).1.prompts =
      (sh.rounds showPrompt supply s).map (·.before.session.prompt) := by
  induction supply generalizing s with
  | ended ending => rfl
  | ask look after ih => exact ih s.world { s with world := after s.world }
  | line text rest ih =>
    cases hr : sh.runLine text (prompted showPrompt s) with
    | mk token t =>
      cases ht : token.isTerminal with
      | true =>
        rw [rounds_of_terminal hr ht, readLines_of_terminal hr ht]
        rfl
      | false =>
        rw [rounds_of_not_terminal hr ht, readLines_of_not_terminal hr ht]
        exact congrArg (s.session.prompt :: ·) (ih (sh.afterRound token t))

end Interpreter

variable {W : Type}

/-! ## Sources that keep to themselves -/

/-- Whether a supply changes the world only in ways that are admitted. -/
def Supply.Within (aside : W → W → Prop) : Supply W → Prop
  | .ended _ => True
  | .line _ rest => rest.Within aside
  | .ask look after => ∀ w, aside w (after w) ∧ (look w).Within aside

structure LineSource.Within (aside : W → W → Prop) (source : LineSource W) : Prop where
  showPrompt : ∀ prompt w, aside w (source.showPrompt prompt w)
  supply : source.supply.Within aside

/-- Whether opening a source and reading from it change the world only in ways that are admitted. -/
def Opens (aside : W → W → Prop) (openSource : Attempt W (LineSource W)) : Prop :=
  ∀ w, aside w (openSource w).2 ∧ ∀ source, (openSource w).1 = .ok source → source.Within aside

section

variable {aside aside' : W → W → Prop} (h : ∀ w w', aside w w' → aside' w w')

include h

theorem Supply.Within.mono {supply : Supply W} (within : supply.Within aside) :
    supply.Within aside' := by
  induction supply with
  | ended ending => trivial
  | line text rest ih => exact ih within
  | ask look after ih =>
    exact fun w => ⟨h w (after w) (within w).1, ih w (within w).2⟩

theorem LineSource.Within.mono {source : LineSource W} (within : source.Within aside) :
    source.Within aside' :=
  ⟨fun prompt w => h w _ (within.showPrompt prompt w), within.supply.mono h⟩

theorem Opens.mono {openSource : Attempt W (LineSource W)} (within : Opens aside openSource) :
    Opens aside' openSource :=
  fun w => ⟨h w _ (within w).1, fun source hopen => ((within w).2 source hopen).mono h⟩

end

theorem Supply.within_of_all {aside : W → W → Prop} (all : ∀ w w', aside w w')
    (supply : Supply W) : supply.Within aside := by
  induction supply with
  | ended ending => trivial
  | line text rest ih => exact ih
  | ask look after ih => exact fun w => ⟨all w (after w), ih w⟩

theorem Supply.within_ofLines (aside : W → W → Prop) (ending : Ending) (lines : List String) :
    (ofLines ending lines : Supply W).Within aside := by
  induction lines with
  | nil => trivial
  | cons text rest ih => exact ih

/-! ## Inputs -/

/-- What an interpreter may be given to answer. -/
inductive Input (W : Type) where
  | words (words : List String)
  | line (text : String)
  | lines (source : LineSource W)

def Input.Within (aside : W → W → Prop) : Input W → Prop
  | .words _ | .line _ => True
  | .lines source => source.Within aside

theorem Input.within_of_all {aside : W → W → Prop} (all : ∀ w w', aside w w') (input : Input W) :
    input.Within aside := by
  cases input with
  | lines source => exact ⟨fun prompt w => all w _, source.supply.within_of_all all⟩
  | _ => trivial

namespace Interpreter

def respond (sh : Interpreter W) : Input W → State W → State W
  | .words words, s => (sh.dispatch words s).2
  | .line text, s => (sh.runLine text s).2
  | .lines source, s => (sh.readLines source.showPrompt source.supply s).2

/-- The word lists that an input has the interpreter dispatch. -/
def dispatched (sh : Interpreter W) : Input W → State W → List (List String)
  | .words words, _ => [words]
  | .line text, _ => [tokenize text]
  | .lines source, s => (sh.linesRead source.showPrompt source.supply s).map tokenize

def respondAll (sh : Interpreter W) : List (Input W) → State W → State W
  | [], s => s
  | input :: rest, s => sh.respondAll rest (sh.respond input s)

def dispatchedAll (sh : Interpreter W) : List (Input W) → State W → List (List String)
  | [], _ => []
  | input :: rest, s => sh.dispatched input s ++ sh.dispatchedAll rest (sh.respond input s)

/-- A relation between the states before and after words are dispatched, which runs keep. -/
structure Law (sh : Interpreter W) (aside : W → W → Prop)
    (R : List (List String) → State W → State W → Prop) : Prop where
  refl : ∀ s, R [] s s
  trans : ∀ {argvs argvs' : List (List String)} {s t u : State W},
    R argvs s t → R argvs' t u → R (argvs ++ argvs') s u
  dispatch : ∀ words s, R [words] s (sh.dispatch words s).2
  tell : ∀ event s, R [] s (sh.tell event s)
  /-- What a source does to the world. -/
  aside : ∀ s w, aside s.world w → R [] s { s with world := w }
  reset : ∀ s, R [] s { s with session := s.session.reset }

namespace Law

variable {sh : Interpreter W} {aside : W → W → Prop}
  {R : List (List String) → State W → State W → Prop}

theorem prompted (law : Law sh aside R) {showPrompt : String → W → W}
    (hshow : ∀ prompt w, aside w (showPrompt prompt w)) (s : State W) :
    R [] s (prompted showPrompt s) := law.aside s _ (hshow s.session.prompt s.world)

theorem restart (law : Law sh aside R) (s : State W) : R [] s (sh.restart s) :=
  law.trans (law.tell _ s) (law.reset _)

theorem afterRound (law : Law sh aside R) (token : Token) (s : State W) :
    R [] s (sh.afterRound token s) := by
  unfold Interpreter.afterRound
  split
  · exact law.restart s
  · exact law.refl s

theorem round (law : Law sh aside R) {showPrompt : String → W → W}
    (hshow : ∀ prompt w, aside w (showPrompt prompt w)) {text : String} {s t : State W}
    {token : Token} (hr : sh.runLine text (Interpreter.prompted showPrompt s) = (token, t)) :
    R [tokenize text] s t := by
  have answered := law.dispatch (tokenize text) (Interpreter.prompted showPrompt s)
  rw [← runLine, hr] at answered
  exact law.trans (law.prompted hshow s) answered

theorem readLines (law : Law sh aside R) {showPrompt : String → W → W}
    (hshow : ∀ prompt w, aside w (showPrompt prompt w)) {supply : Supply W}
    (within : supply.Within aside) (s : State W) :
    R ((sh.linesRead showPrompt supply s).map tokenize) s
      (sh.readLines showPrompt supply s).2 := by
  induction supply generalizing s with
  | ended ending => exact law.trans (law.prompted hshow s) (law.tell ending.event _)
  | ask look after ih =>
    exact law.trans (law.aside s _ (within s.world).1) (ih s.world (within s.world).2 _)
  | line text rest ih =>
    cases hr : sh.runLine text (Interpreter.prompted showPrompt s) with
    | mk token t =>
      have first := law.round hshow hr
      cases ht : token.isTerminal with
      | true =>
        rw [linesRead_of_terminal hr ht, readLines_of_terminal hr ht]
        exact first
      | false =>
        rw [linesRead_of_not_terminal hr ht, readLines_of_not_terminal hr ht]
        exact law.trans first (law.trans (law.afterRound token t) (ih within _))

/-- What a law carries from state to state holds in every round of a loop. -/
theorem rounds {I : State W → Prop} (law : Law sh aside fun _ s t => I s → I t)
    {showPrompt : String → W → W} (hshow : ∀ prompt w, aside w (showPrompt prompt w))
    {supply : Supply W} (within : supply.Within aside) {s : State W} (hs : I s) :
    ∀ r ∈ sh.rounds showPrompt supply s, I r.before ∧ I r.typed := by
  induction supply generalizing s with
  | ended ending =>
    intro r hr
    obtain rfl := List.mem_singleton.mp hr
    exact ⟨hs, law.prompted hshow s hs⟩
  | ask look after ih =>
    exact ih s.world (within s.world).2 (law.aside s _ (within s.world).1 hs)
  | line text rest ih =>
    have first : I s ∧ I (Interpreter.prompted showPrompt s) := ⟨hs, law.prompted hshow s hs⟩
    cases hr : sh.runLine text (Interpreter.prompted showPrompt s) with
    | mk token t =>
      cases ht : token.isTerminal with
      | true =>
        rw [rounds_of_terminal hr ht]
        simpa using first
      | false =>
        rw [rounds_of_not_terminal hr ht]
        have next := law.afterRound token t (law.round hshow hr hs)
        exact List.forall_mem_cons.mpr ⟨first, ih within next⟩

theorem respond (law : Law sh aside R) {input : Input W} (within : input.Within aside)
    (s : State W) : R (sh.dispatched input s) s (sh.respond input s) := by
  cases input with
  | words words => exact law.dispatch words s
  | line text => exact law.dispatch (tokenize text) s
  | lines source => exact law.readLines within.showPrompt within.supply s

theorem respondAll (law : Law sh aside R) {inputs : List (Input W)}
    (within : ∀ input ∈ inputs, input.Within aside) (s : State W) :
    R (sh.dispatchedAll inputs s) s (sh.respondAll inputs s) := by
  induction inputs generalizing s with
  | nil => exact law.refl s
  | cons input rest ih =>
    obtain ⟨first, second⟩ := List.forall_mem_cons.mp within
    exact law.trans (law.respond first s) (ih second (sh.respond input s))

end Law
end Interpreter
end LineShell
