import LineShell.Proofs.Listener

/-!
# Two scripts side by side

On a deaf host and without prompts a loop is a recursion on its lines, `play`, and two scripts can
be compared line by line.  Two things may be done to a script without anybody noticing: a command
may be called by another one of its names, and idle lines may be added, which leave no trace in a
view of the session.

A view leaves out a part of the session that no dispatch and no prompt depends on.  States that have
the same view are answered with the same token and the same calls, and they are left with the same
view again.  There are two views to be used: one leaves out the last token, the other one the code
as well.
-/

namespace LineShell

/-! ## Views -/

section

namespace Session

/-- A view of sessions shows the user and both directories, and what it leaves out has no influence
on what it shows. -/
structure View (view : Session → Session) : Prop where
  idem : ∀ x, view (view x) = view x
  user : ∀ x, (view x).user = x.user
  home : ∀ x, (view x).home = x.home
  cwd : ∀ x, (view x).cwd = x.cwd
  last : ∀ x last, view { x with last } = view x
  setCode : ∀ x code, view { view x with code } = view { x with code }
  setCwd : ∀ x cwd, view { view x with cwd } = view { x with cwd }

/-- Leaves out the last token. -/
def unlast (x : Session) : Session := { x with last := none }

theorem view_unlast : View unlast where
  idem _ := rfl
  user _ := rfl
  home _ := rfl
  cwd _ := rfl
  last _ _ := rfl
  setCode _ _ := rfl
  setCwd _ _ := rfl

/-- To forget the code and the last token is a view, too. -/
theorem view_reset : View reset where
  idem _ := rfl
  user _ := rfl
  home _ := rfl
  cwd _ := rfl
  last _ _ := rfl
  setCode _ _ := rfl
  setCwd _ _ := rfl

variable {view : Session → Session}

theorem View.prompt (hview : View view) (x : Session) : (view x).prompt = x.prompt := by
  rw [Session.prompt, hview.user, hview.cwd, ← Session.prompt]

end Session

variable {W α : Type} {view : Session → Session}

/-- A state of which only a view of the session is left. -/
def State.viewed (view : Session → Session) (s : State W) : State W :=
  { s with session := view s.session }

open Session

/-! ## Plans -/

theorem Act.viewed_apply (hview : View view) (h : Host W) (a : Act) (s : State W) :
    (a.apply h (s.viewed view)).viewed view = (a.apply h s).viewed view := by
  cases a with
  | setCode code => exact congrArg (State.mk · s.errors s.world) (hview.setCode s.session code)
  | setCwd cwd => exact congrArg (State.mk · s.errors s.world) (hview.setCwd s.session cwd)
  | keep token =>
    have hlast : view { view s.session with last := some token } =
        view { s.session with last := some token } :=
      (hview.last (view s.session) _).trans ((hview.idem _).trans (hview.last s.session _).symm)
    exact congrArg (State.mk · s.errors s.world) hlast
  | _ => exact congrArg (State.mk · _ _) (hview.idem s.session)

/-- From a view a plan comes to the same result and to the same view. -/
theorem Plan.run_viewed (hview : View view) (h : Host W) (p : Plan α) (s : State W) :
    (p.run h (s.viewed view)).1 = (p.run h s).1 ∧
      (p.run h (s.viewed view)).2.viewed view = (p.run h s).2.viewed view := by
  induction p generalizing s with
  | done a => exact ⟨rfl, congrArg (State.mk · s.errors s.world) (hview.idem s.session)⟩
  | call c next ih => exact ih (h.perform c s.world).1 (s.called h c)
  | act a next ih =>
    -- Neither state is the view of the other one, but both have the same view.
    obtain ⟨hresult, hleft⟩ := ih (a.apply h s)
    obtain ⟨hresult', hleft'⟩ := ih (a.apply h (s.viewed view))
    rw [a.viewed_apply hview] at hresult' hleft'
    exact ⟨hresult'.symm.trans hresult, hleft'.symm.trans hleft⟩
  | lookup next ih =>
    obtain ⟨hresult, hleft⟩ := ih s.session.home s.session.cwd s.errors s
    simp only [Plan.run, State.viewed, hview.home, hview.cwd]
    exact ⟨hresult, hleft⟩

/-! ## Dispatches -/

theorem Planned.viewed (hview : View view) {x : (W : Type) → Host W → State W → α × State W}
    (hx : Planned x) (h : Host W) {s t : State W} (same : t.viewed view = s.viewed view) :
    (x W h t).1 = (x W h s).1 ∧ (x W h t).2.viewed view = (x W h s).2.viewed view := by
  obtain ⟨p, hp⟩ := hx
  obtain ⟨hresult, hleft⟩ := p.run_viewed hview h s
  obtain ⟨hresult', hleft'⟩ := p.run_viewed hview h t
  rw [same] at hresult' hleft'
  rw [hp, hp]
  exact ⟨hresult'.symm.trans hresult, hleft'.symm.trans hleft⟩

namespace State

variable {s t : State W}

theorem errors_of_viewed (same : t.viewed view = s.viewed view) : t.errors = s.errors := by
  have herrors := congrArg State.errors same
  exact herrors

theorem prompt_of_viewed (hview : View view) (same : t.viewed view = s.viewed view) :
    t.session.prompt = s.session.prompt := by
  have hsession : view t.session = view s.session := congrArg State.session same
  rw [← hview.prompt, hsession, hview.prompt]

end State

end

variable {W L α β κ : Type}

namespace Interpreter

/-! ## Quiet loops -/

/-- What comes of lines in a quiet loop: the turns, the lines that are not read, and the state in
which it stops. -/
def play (sh : Interpreter W) : List String → State W → List Turn × List String × State W
  | [], s => ([], [], s)
  | line :: rest, s =>
    let (token, t) := sh.runLine line s
    let turn : Turn := { prompt := s.session.prompt, token, errors := t.errors }
    if token.isTerminal then ([turn], rest, t)
    else
      let (turns, unread, u) := sh.play rest (sh.afterRound token t)
      (turn :: turns, unread, u)

section

variable {sh : Interpreter W} {line : String} {rest : List String} {s t : State W} {token : Token}

theorem play_of_terminal (hr : sh.runLine line s = (token, t)) (ht : token.isTerminal = true) :
    sh.play (line :: rest) s = ([⟨s.session.prompt, token, t.errors⟩], rest, t) := by
  simp only [play, hr, ht, if_true]

theorem play_of_not_terminal (hr : sh.runLine line s = (token, t))
    (ht : token.isTerminal = false) :
    sh.play (line :: rest) s =
      let (turns, unread, u) := sh.play rest (sh.afterRound token t)
      (⟨s.session.prompt, token, t.errors⟩ :: turns, unread, u) := by
  simp only [play, hr, ht, Bool.false_eq_true, if_false]

end

variable {h : Host W} (deaf : ∀ event w, h.note event w = w)

section

include deaf

theorem play_eq (ending : Ending) (lines : List String) (s : State W) :
    let source := LineSource.quiet ending lines
    let (reading, t) := (standard h).readLines source.showPrompt source.supply s
    (standard h).play lines s = ((standard h).turnsOf source s, reading.unread, t) := by
  induction lines generalizing s with
  | nil => exact congrArg (fun t => ([], [], t)) (tell_deaf deaf ending.event s).symm
  | cons line rest ih =>
    let hush : String → W → W := fun _ w => w
    have hplay := ih
    simp only [LineSource.quiet, turnsOf] at hplay ⊢
    cases hr : (standard h).runLine line s with
    | mk token t =>
      have hr' : (standard h).runLine line (prompted hush s) = (token, t) := hr
      cases ht : token.isTerminal with
      | true =>
        rw [play_of_terminal hr ht, Supply.ofLines, readLines_of_terminal hr' ht,
          turns_of_terminal hr' ht, Supply.pending_ofLines]
      | false =>
        rw [play_of_not_terminal hr ht, Supply.ofLines, readLines_of_not_terminal hr' ht,
          turns_of_not_terminal hr' ht, hplay]

end

/-- What comes of a loop with a listener is what comes of its lines in a quiet loop on the deaf
host, the journal of which has the calls. -/
theorem loop_play (h : Host W) (listen : Event → L → L) (showPrompt : String → L → L)
    (ending : Ending) (lines : List String) (s : State (Overheard W L)) :
    let host := h.overheard listen
    let source := LineSource.typed showPrompt ending lines
    let played := (standard h.deaf.journaled).play lines (s.through Overheard.world).journaled
    let run := (standard host).loop source s
    run.1 = played.2.2.session.code ∧ run.2.2.session = played.2.2.session ∧
      run.2.2.world.world = played.2.2.world.world ∧
      host.callsOfLoop source s = played.2.2.world.entries ∧ run.2.1.unread = played.2.1 ∧
      (standard host).turnsOf source s = played.1 ∧
      run.2.1.prompts.take lines.length = played.1.map Turn.prompt := by
  intro host source played run
  obtain ⟨hcode, hreading, hsession, hworld, hcalls, hturns⟩ :=
    loop_overheard h listen showPrompt ending lines s
  have hplayed : played = _ :=
    play_eq h.note_deaf_journaled ending lines (s.through Overheard.world).journaled
  have hprompts := take_prompts (standard host) source.showPrompt ending lines s
  rw [hplayed]
  exact ⟨hcode, hsession, hworld, hcalls, congrArg Reading.unread hreading, hturns,
    hprompts.trans (congrArg (List.map Turn.prompt) hturns)⟩

/-- Loops make the same calls and leave the same world if what their lines come to has the same
view. -/
theorem loop_alike (h : Host W) (listen : Event → L → L) (showPrompt : String → L → L)
    (ending ending' : Ending) {lines lines' : List String} {s s' : State (Overheard W L)}
    {view : Session → Session}
    (same : ((standard h.deaf.journaled).play lines
        (s.through Overheard.world).journaled).2.2.viewed view =
      ((standard h.deaf.journaled).play lines'
        (s'.through Overheard.world).journaled).2.2.viewed view) :
    let host := h.overheard listen
    let source := LineSource.typed showPrompt ending lines
    let source' := LineSource.typed showPrompt ending' lines'
    let t := ((standard host).loop source s).2.2
    let t' := ((standard host).loop source' s').2.2
    host.callsOfLoop source s = host.callsOfLoop source' s' ∧ t.world.world = t'.world.world ∧
      view t.session = view t'.session := by
  intro host source source' t t'
  obtain ⟨-, hsession, hworld, hcalls, -⟩ := loop_play h listen showPrompt ending lines s
  obtain ⟨-, hsession', hworld', hcalls', -⟩ := loop_play h listen showPrompt ending' lines' s'
  refine ⟨?_, ?_, ?_⟩
  · exact hcalls.trans ((congrArg (·.world.entries) same).trans hcalls'.symm)
  · exact hworld.trans ((congrArg (·.world.world) same).trans hworld'.symm)
  · rw [hsession, hsession']
    exact congrArg State.session same

end Interpreter

/-! ## Names -/

/-- Words that call for the same: the first one may be another name of the same command. -/
inductive Synonymous : List String → List String → Prop
  | same (words : List String) : Synonymous words words
  | renamed (b : Builtin) {name name' : String} (hname : name ∈ b.names) (hname' : name' ∈ b.names)
      (operands : List String) : Synonymous (name :: operands) (name' :: operands)

/-- No command looks at the name it was called by. -/
theorem Builtin.execute_name (h : Host W) (b : Builtin) (synopses : List Synopsis)
    (name name' : String) (operands : List String) :
    (b.command h).execute synopses name operands =
      (b.command h).execute synopses name' operands := by
  cases b <;> rfl

namespace Interpreter

section

variable {h : Host W} (deaf : ∀ event w, h.note event w = w)

include deaf

/-- The name goes to those who listen and nowhere else. -/
theorem dispatch_synonymous {words words' : List String} (same : Synonymous words words')
    (s : State W) : (standard h).dispatch words s = (standard h).dispatch words' s := by
  cases same with
  | same => rfl
  | @renamed b name name' hname hname' operands =>
    have hanswer : (standard h).answer (name :: operands) s =
        (standard h).answer (name' :: operands) s := by
      rw [answer_of_command h (Builtin.ofName?_eq_some_iff.mpr hname),
        answer_of_command h (Builtin.ofName?_eq_some_iff.mpr hname')]
      simp only [runCommand, breakOff, tell_deaf deaf]
      rw [b.execute_name h _ name name']
    simp only [dispatch, hanswer]

/-- Lines that call for the same, one by one, come to the same. -/
theorem play_synonymous {lines lines' : List String}
    (same : List.Forall₂ (fun line line' => Synonymous (tokenize line) (tokenize line')) lines
      lines') (s : State W) :
    let (turns, _, t) := (standard h).play lines s
    let (turns', _, t') := (standard h).play lines' s
    turns = turns' ∧ t = t' := by
  induction same generalizing s with
  | nil => exact ⟨rfl, rfl⟩
  | @cons line line' rest rest' hline _ ih =>
    cases hr : (standard h).runLine line s with
    | mk token t =>
      have hr' : (standard h).runLine line' s = (token, t) :=
        (dispatch_synonymous deaf hline s).symm.trans hr
      cases ht : token.isTerminal with
      | true =>
        rw [play_of_terminal hr ht, play_of_terminal hr' ht]
        exact ⟨rfl, rfl⟩
      | false =>
        obtain ⟨hturns, hleft⟩ := ih ((standard h).afterRound token t)
        rw [play_of_not_terminal hr ht, play_of_not_terminal hr' ht]
        exact ⟨congrArg (_ :: ·) hturns, hleft⟩

end
end Interpreter

/-! ## Idle lines -/

/-- Of a list that goes along with others, what goes along with those that are picked. -/
def picked (p : κ → Bool) (keys : List κ) (xs : List α) : List α :=
  ((keys.zip xs).filter (p ·.1)).map Prod.snd

theorem picked_map (p : κ → Bool) (keys : List κ) (f : α → β) (xs : List α) :
    picked p keys (xs.map f) = (picked p keys xs).map f := by
  rw [picked, List.zip_map_right, List.filter_map, List.map_map, picked, List.map_map]
  rfl

theorem picked_keys (p : β → Bool) (f : κ → β) (keys : List κ) (xs : List α) :
    picked p (keys.map f) xs = picked (p ∘ f) keys xs := by
  rw [picked, List.zip_map_left, List.filter_map, List.map_map, picked]
  rfl

theorem picked_take (p : κ → Bool) (keys : List κ) (xs : List α) :
    picked p keys (xs.take keys.length) = picked p keys xs := by
  have hzip : keys.zip (xs.take keys.length) = keys.zip xs := by
    induction keys generalizing xs with
    | nil => rfl
    | cons key rest ih => cases xs <;> simp [ih]
  rw [picked, hzip, picked]

/-- A line of a script, which is the script's own or was added to it. -/
inductive Slot (idle : String → Prop) where
  | own (line : String)
  | added (line : String) (h : idle line)

namespace Slot

variable {idle : String → Prop}

def text : Slot idle → String
  | .own line | .added line _ => line

def own? : Slot idle → Option String
  | .own line => some line
  | .added _ _ => none

def isOwn : Slot idle → Bool
  | .own _ => true
  | .added _ _ => false

theorem filterMap_own (line : String) (script : List (Slot idle)) :
    (own line :: script).filterMap own? = line :: script.filterMap own? := rfl

theorem filterMap_added {line : String} (hline : idle line) (script : List (Slot idle)) :
    (added line hline :: script).filterMap own? = script.filterMap own? := rfl

/-- What goes along with the script's own lines. -/
def ofOwn (script : List (Slot idle)) (xs : List α) : List α := picked isOwn script xs

end Slot

namespace Interpreter

/-- The loop goes on after the line, and a view of the session is left as it was. -/
def Idle (sh : Interpreter W) (view : Session → Session) (line : String) : Prop :=
  ∀ s, (sh.runLine line s).1.isTerminal = false ∧
    (sh.afterRound (sh.runLine line s).1 (sh.runLine line s).2).viewed view = s.viewed view

theorem runLine_viewed {view : Session → Session} (hview : Session.View view) (h : Host W)
    {line : String} {s t u : State W} {token : Token} (same : t.viewed view = s.viewed view)
    (hr : (standard h).runLine line s = (token, u)) :
    ∃ u', (standard h).runLine line t = (token, u') ∧ u'.viewed view = u.viewed view := by
  obtain ⟨htoken, hleft⟩ := (planned_dispatch (tokenize line)).viewed hview h same
  rw [← runLine, ← runLine, hr] at htoken hleft
  exact ⟨((standard h).runLine line t).2, Prod.ext htoken rfl, hleft⟩

section

variable {h : Host W} (deaf : ∀ event w, h.note event w = w) {view : Session → Session}
  (hview : Session.View view)

include deaf hview

theorem afterRound_viewed (token : Token) {s t : State W} (same : t.viewed view = s.viewed view) :
    ((standard h).afterRound token t).viewed view =
      ((standard h).afterRound token s).viewed view := by
  unfold afterRound restart
  split
  · have hreset (x : Session) : view x.reset = view { view x with code := 0 } :=
      (hview.last { x with code := 0 } none).trans (hview.setCode x 0).symm
    simp only [tell_deaf deaf, State.viewed, hreset]
    exact congrArg (fun u : State W => { u with session := view { u.session with code := 0 } }) same
  · exact same

theorem idle_of_tokenize_nil {line : String} (hline : tokenize line = []) :
    (standard h).Idle view line := by
  intro s
  have hr : (standard h).runLine line s = (.blank, keep .blank s) := by
    simp only [runLine, hline, dispatch, answer, tell_deaf deaf]
  rw [hr]
  exact ⟨rfl, congrArg (State.mk · s.errors s.world) (hview.last s.session _)⟩

/-- Idle lines may be added to a script: its own lines have the same turns, none of the added ones
ends the loop, and the state that is left has the same view. -/
theorem play_added {idle : String → Prop}
    (hidle : ∀ line, idle line → (standard h).Idle view line) (script : List (Slot idle))
    {s t : State W} (same : t.viewed view = s.viewed view) :
    let (turns, unread, u) := (standard h).play (script.filterMap Slot.own?) s
    let (turns', unread', u') := (standard h).play (script.map Slot.text) t
    let left := script.drop turns'.length
    Slot.ofOwn script turns' = turns ∧
      (∀ x ∈ script.zip turns', x.1.isOwn = true ∨ x.2.token.isTerminal = false) ∧
      left.filterMap Slot.own? = unread ∧ left.map Slot.text = unread' ∧
      u'.viewed view = u.viewed view := by
  induction script generalizing s t with
  | nil => exact ⟨rfl, by simp, rfl, rfl, same⟩
  | cons slot rest ih =>
    cases slot with
    | added line hline =>
      -- Only the longer script has the line, and its view is left as it was.
      have hgone := hidle line hline t
      cases hr : (standard h).runLine line t with
      | mk token u =>
        rw [hr] at hgone
        obtain ⟨ht, hround⟩ := hgone
        obtain ⟨hturns, hgoes, hunread, hunread', hleft⟩ := ih (hround.trans same)
        rw [Slot.filterMap_added, List.map_cons, Slot.text, play_of_not_terminal hr ht]
        exact ⟨hturns, List.forall_mem_cons.mpr ⟨Or.inr ht, hgoes⟩, hunread, hunread', hleft⟩
    | own line =>
      cases hr : (standard h).runLine line s with
      | mk token u =>
        obtain ⟨u', hr', hline⟩ := runLine_viewed hview h same hr
        have hturn : (⟨t.session.prompt, token, u'.errors⟩ : Turn) =
            ⟨s.session.prompt, token, u.errors⟩ := by
          rw [State.prompt_of_viewed hview same, State.errors_of_viewed hline]
        rw [Slot.filterMap_own, List.map_cons, Slot.text]
        cases ht : token.isTerminal with
        | true =>
          rw [play_of_terminal hr ht, play_of_terminal hr' ht]
          refine ⟨?_, by simp [Slot.isOwn], rfl, rfl, hline⟩
          simpa [Slot.ofOwn, picked, Slot.isOwn] using hturn
        | false =>
          have hround := afterRound_viewed deaf hview token hline
          obtain ⟨hturns, hgoes, hunread, hunread', hleft⟩ := ih hround
          rw [play_of_not_terminal hr ht, play_of_not_terminal hr' ht]
          exact ⟨congrArg₂ List.cons hturn hturns, List.forall_mem_cons.mpr ⟨Or.inl rfl, hgoes⟩,
            hunread, hunread', hleft⟩

end
end Interpreter

end LineShell
