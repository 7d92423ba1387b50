import Mathlib.Data.Nat.PSub
import LineShell.Launch
import LineShell.Proofs.Registrations

/-!
# Looking no further than there is

The table is asked for the command in a slot, a command for its first name, a line for what follows
the name, and none of them is asked beforehand whether it has any.  The names of this module do the
same and check each of these look-ups: one beyond the end has no result, and then nothing after it
has one.  That they have results, and the same as the unchecked ones, rests on what is known
elsewhere.  The index only leads to slots that are taken (`Registry.Sound`), what it leads to has
the name it was found by, and only a line with a first word gets as far as the table.
-/

namespace LineShell

/-- What the index leads to is stored, has the name, and is what the name finds. -/
theorem Registry.stored_of_slot? {W : Type} {cs : List (Command W)} {name : String} {slot : Nat}
    (hslot : (Registry.ofList cs).slot? name = some slot) :
    ∃ c, cs[slot]? = some c ∧ (Registry.ofList cs).resolve name = some c ∧ name ∈ c.names := by
  have hlt := Registry.sound_ofList cs name slot hslot
  rw [Registry.commands_ofList] at hlt
  have hresolve : (Registry.ofList cs).resolve name = some cs[slot] := by
    rw [Registry.resolve, hslot, Registry.commands_ofList]
    exact List.getElem?_eq_getElem hlt
  exact ⟨cs[slot], List.getElem?_eq_getElem hlt, hresolve,
    (Registry.mem_of_resolve_ofList hresolve).2⟩

namespace Checked

variable {W α : Type}

/-! ## Parts of a list -/

/-- The part of a list from one place up to another, if the places are in order and in the list. -/
def slice (as : List α) (start stop : Nat) : Option (List α) :=
  if start ≤ stop ∧ stop ≤ as.length then some (as.extract start stop) else none

/-- The list with another element at a place, if it has that place. -/
def store (as : List α) (i : Nat) (a : α) : Option (List α) :=
  if i < as.length then some (as.set i a) else none

theorem slice_to_end {as : List α} {start : Nat} (h : start ≤ as.length) :
    slice as start as.length = some (as.drop start) := by
  rw [slice, if_pos ⟨h, le_rfl⟩, List.extract_eq_take_drop]
  exact congrArg some (List.take_of_length_le (by simp))

theorem slice_tail (a : α) (as : List α) :
    slice (a :: as) 1 (a :: as).length = some as :=
  slice_to_end (by simp)

theorem slice_from_start {as : List α} {stop : Nat} (h : stop ≤ as.length) :
    slice as 0 stop = some (as.take stop) := by
  rw [slice, if_pos ⟨Nat.zero_le stop, h⟩]
  rfl

/-! ## The error log -/

/-- Appends a record and gives the position of the last one. -/
def push (log : ErrorLog) (r : Record) : Option (Nat × ErrorLog) :=
  let records := log.records ++ [r]
  records.length.ppred.map fun position => (position, { records })

theorem push_eq (log : ErrorLog) (r : Record) : push log r = some (log.push r) := by
  have hlength : (log.records ++ [r]).length = log.count + 1 := by simp [ErrorLog.count]
  simp only [push, hlength, Nat.ppred_succ, Option.map_some]
  rw [← log.push_fst r]
  rfl

/-! ## Commands -/

/-- A command that is given a whole line, its name included, and may look beyond the end of it. -/
structure Handler (W : Type) extends Synopsis where
  execute : List Synopsis → List String → Option (Action W Token)

/-- A handler does what a command does, if there is a name before the operands. -/
structure Fulfils (handler : Handler W) (c : Command W) : Prop where
  shown : handler.toSynopsis = c.toSynopsis
  acts : ∀ synopses name operands,
    handler.execute synopses (name :: operands) = some (c.execute synopses name operands)

/-- Every command has a handler in its slot. -/
def Serve (handlers : List (Handler W)) (cs : List (Command W)) : Prop :=
  ∀ (slot : Nat) (c : Command W), cs[slot]? = some c →
    ∃ handler, handlers[slot]? = some handler ∧ Fulfils handler c

theorem serve_map {β : Type} {f : β → Handler W} {g : β → Command W}
    (h : ∀ b, Fulfils (f b) (g b)) (bs : List β) : Serve (bs.map f) (bs.map g) := by
  intro slot c hc
  rw [List.getElem?_map, Option.map_eq_some_iff] at hc
  obtain ⟨b, hb, rfl⟩ := hc
  exact ⟨f b, by rw [List.getElem?_map, hb, Option.map_some], h b⟩

/-- The handler of a command, for which there has to be a name. -/
def ofCommand (c : Command W) : Handler W where
  toSynopsis := c.toSynopsis
  execute synopses argv :=
    match argv with
    | [] => none
    | name :: operands => some (c.execute synopses name operands)

theorem fulfils_ofCommand (c : Command W) : Fulfils (ofCommand c) c :=
  ⟨rfl, fun _ _ _ => rfl⟩

/-- A built-in command as the handler of a line.  To print and to edit, the name is cut off without
a question.  The host's shell gets what follows the name of a line that was found to have two words,
and a message is what follows three.  The others ask for each word that they use. -/
def ofBuiltin (h : Host W) (b : Builtin) : Handler W where
  toSynopsis := (b.command h).toSynopsis
  execute synopses argv :=
    let act := (b.command h).execute synopses (argv.headD "")
    match b with
    | .print | .single _ | .batch _ => (slice argv 1 argv.length).map act
    | .system =>
      if argv.length < 2 then some (Standard.rejectMissing h)
      else (slice argv 1 argv.length).map act
    | .throw =>
      match argv with
      | _ :: name :: text :: _ =>
        match Numeral.code? text with
        | some _ =>
          if 3 < argv.length then
            (slice argv 3 argv.length).map (Standard.throwRecord h name text)
          else some (Standard.throwRecord h name text [])
        | none => some (Standard.rejectInteger h text)
      | _ => some (Standard.rejectMissing h)
    | _ => some (act argv.tail)

theorem fulfils_ofBuiltin (h : Host W) (b : Builtin) : Fulfils (ofBuiltin h b) (b.command h) := by
  refine ⟨rfl, fun synopses name operands => ?_⟩
  cases b with
  | print | single | batch => simp only [ofBuiltin, slice_tail, Option.map_some, List.headD_cons]
  | system =>
    cases operands with
    | nil => rfl
    | cons word words =>
      have hlength : ¬(name :: word :: words).length < 2 := by simp
      simp only [ofBuiltin, if_neg hlength, slice_tail, Option.map_some, List.headD_cons]
  | throw =>
    match operands with
    | [] | [_] => rfl
    | first :: text :: words =>
      have hmessage : slice (name :: first :: text :: words) 3
          (name :: first :: text :: words).length = some words := slice_to_end (by simp)
      have hthrown : (Builtin.throw.command h).execute synopses name (first :: text :: words) =
          Standard.throwRecord h first text words := rfl
      simp only [ofBuiltin, hthrown, hmessage]
      cases hcode : Numeral.code? text with
      | none => simp only [Standard.throwRecord, hcode]
      | some code =>
        cases words with
        | nil => rfl
        | cons word words => simp
  | _ => rfl

/-- Without any word, these commands would look beyond the end. -/
theorem ofBuiltin_nil_eq_none_iff (h : Host W) (b : Builtin) (synopses : List Synopsis) :
    (ofBuiltin h b).execute synopses [] = none ↔
      b = .print ∨ ∃ edit, b = .single edit ∨ b = .batch edit := by
  cases b <;> simp [ofBuiltin, slice]

/-! ## Lines -/

/-- Answers words, with a handler in each slot. -/
def answer (sh : Interpreter W) (handlers : List (Handler W)) (argv : List String) (s : State W) :
    Option (Token × State W) :=
  match argv.head? with
  | none => some (.blank, s)
  | some name =>
    match sh.commands.slot? name with
    | none => some (sh.runExternal (joinWords argv) s)
    | some slot => do
      let handler ← handlers[slot]?
      let canonical ← handler.names[0]?
      let operands ← argv.length.ppred
      let act ← handler.execute sh.commands.synopses argv
      return match act.run (sh.tell (.commandStarted canonical operands) s) with
        | (.ok token, s) => (token, s)
        | (.error cause, s) => (.success, sh.breakOff name cause s)

def dispatch (sh : Interpreter W) (handlers : List (Handler W)) (argv : List String)
    (s : State W) : Option (Token × State W) :=
  (answer sh handlers argv s).map fun (token, s) =>
    (token, Interpreter.keep token (sh.tell (.dispatched token) s))

def readLines (sh : Interpreter W) (handlers : List (Handler W)) (showPrompt : String → W → W) :
    Supply W → State W → Option (Reading × State W)
  | .ended ending, s => some (sh.readLines showPrompt (.ended ending) s)
  | .line text rest, s => do
    let prompt := s.session.prompt
    let (token, s) ←
      dispatch sh handlers (tokenize text) { s with world := showPrompt prompt s.world }
    if Interpreter.stops token s then
      return ({ prompts := [prompt], unread := rest.pending }, s)
    else
      let s := if token = .restart then sh.restart s else s
      let (reading, s) ← readLines sh handlers showPrompt rest s
      return ({ reading with prompts := prompt :: reading.prompts }, s)
  | .ask look after, s =>
    readLines sh handlers showPrompt (look s.world) { s with world := after s.world }

def loop (sh : Interpreter W) (handlers : List (Handler W)) (source : LineSource W)
    (s : State W) : Option (ReturnCode × Reading × State W) :=
  (readLines sh handlers source.showPrompt source.supply s).map fun (reading, s) =>
    (s.session.code, reading, sh.shutdown s)

variable {sh : Interpreter W} {cs : List (Command W)} {handlers : List (Handler W)}

/-- The slot of a name has a command and its handler, the command has a name, and the line is not
empty, so there is an answer. -/
theorem answer_eq (hcs : sh.commands = .ofList cs) (hserve : Serve handlers cs)
    (argv : List String) (s : State W) : answer sh handlers argv s = some (sh.answer argv s) := by
  cases argv with
  | nil => rfl
  | cons name operands =>
    cases hslot : sh.commands.slot? name with
    | none =>
      have hresolve : sh.commands.resolve name = none := by simp [Registry.resolve, hslot]
      simp only [answer, List.head?_cons, hslot, Interpreter.answer, hresolve]
    | some slot =>
      -- the three look-ups: the handler in the slot, its first name, and what follows the name
      obtain ⟨c, hc, hresolve, hname⟩ := Registry.stored_of_slot? (hcs ▸ hslot)
      obtain ⟨handler, hhandler, hfulfils⟩ := hserve slot c hc
      have hcanonical : handler.names[0]? = some (c.names.headD name) := by
        rw [hfulfils.shown]
        cases hnames : c.names with
        | nil => exact absurd (hnames ▸ hname) List.not_mem_nil
        | cons canonical _ => rfl
      have hact := hfulfils.acts sh.commands.synopses name operands
      simp only [answer, List.head?_cons, hslot, hhandler, hcanonical, hact, List.length_cons,
        Nat.ppred_succ, Option.bind_eq_bind, Option.bind_some, Interpreter.answer, hcs ▸ hresolve,
        Interpreter.runCommand]
      rfl

theorem dispatch_eq (hcs : sh.commands = .ofList cs) (hserve : Serve handlers cs)
    (argv : List String) (s : State W) :
    dispatch sh handlers argv s = some (sh.dispatch argv s) := by
  rw [dispatch, answer_eq hcs hserve, Option.map_some]
  rfl

theorem readLines_eq (hcs : sh.commands = .ofList cs) (hserve : Serve handlers cs)
    (showPrompt : String → W → W) (supply : Supply W) (s : State W) :
    readLines sh handlers showPrompt supply s = some (sh.readLines showPrompt supply s) := by
  induction supply generalizing s with
  | ended ending => rfl
  | line text rest ih =>
    simp only [readLines, dispatch_eq hcs hserve, ih, Option.bind_eq_bind, Option.bind_some,
      Interpreter.readLines, Interpreter.runLine]
    -- whether the loop stops is asked before the result is wrapped here, and after it there
    exact (apply_ite some _ _ _).symm
  | ask look after ih => exact ih _ _

theorem loop_eq (hcs : sh.commands = .ofList cs) (hserve : Serve handlers cs)
    (source : LineSource W) (s : State W) :
    loop sh handlers source s = some (sh.loop source s) := by
  rw [loop, readLines_eq hcs hserve, Option.map_some]
  rfl

/-- A table whose index is not sound leads to a slot without a handler. -/
example (h : Host W) (s : State W) :
    answer { host := h, commands := { index := [("a", 0)] } } [] ["a"] s = none := rfl

/-! ## The process -/

def converse (sh : Interpreter W) (handlers : List (Handler W))
    (openSource : Attempt W (LineSource W)) (s : State W) : Option (Outcome × State W) :=
  match (Action.call openSource).run s with
  | (.error cause, s) => some ({ result := .error cause, reading := none }, s)
  | (.ok source, s) =>
    (loop sh handlers source s).map fun (code, reading, s) =>
      ({ result := .ok code, reading := some reading }, s)

def launch (sh : Interpreter W) (handlers : List (Handler W)) (invocation : Invocation)
    (openSource : Attempt W (LineSource W)) (s : State W) : Option (Outcome × State W) :=
  let told := sh.tell (.launching invocation) s
  match invocation with
  | .interactive =>
    match sh.enterHome told with
    | (.ok _, s) => converse sh handlers openSource s
    | (.error cause, s) => converse sh handlers openSource (sh.tell (.homeSkipped cause) s)
  | .directory path =>
    match sh.changeDir path told with
    | (.ok _, s) => converse sh handlers openSource s
    | (.error cause, s) =>
      let s := sh.tell (.startRefused cause path) s
      some (Interpreter.conclude (sh.report .invalidData "invalid directory" (some path) s))
  | .command words =>
    if words.isEmpty then some (sh.launchCommand words told)
    else
      (dispatch sh handlers words told).map fun (_, s) =>
        let (outcome, s) := Interpreter.conclude s
        (outcome, sh.shutdown s)
  | .version | .help _ | .invalid _ => some (sh.launch invocation openSource s)

theorem converse_eq (hcs : sh.commands = .ofList cs) (hserve : Serve handlers cs)
    (openSource : Attempt W (LineSource W)) (s : State W) :
    converse sh handlers openSource s = some (sh.converse openSource s) := by
  rcases hopen : (Action.call openSource).run s with ⟨cause | source, opened⟩
  · simp only [converse, Interpreter.converse, hopen]
  · simp only [converse, Interpreter.converse, hopen, loop_eq hcs hserve, Option.map_some]

theorem launch_eq (hcs : sh.commands = .ofList cs) (hserve : Serve handlers cs)
    (invocation : Invocation) (openSource : Attempt W (LineSource W)) (s : State W) :
    launch sh handlers invocation openSource s = some (sh.launch invocation openSource s) := by
  cases invocation with
  | interactive =>
    rcases hhome : sh.enterHome (sh.tell (.launching .interactive) s) with ⟨_ | _, entered⟩ <;>
      simp only [launch, Interpreter.launch, Interpreter.launchInteractive, hhome,
        converse_eq hcs hserve]
  | directory path =>
    rcases hentry : sh.changeDir path (sh.tell (.launching (.directory path)) s) with
      ⟨_ | _, entered⟩ <;>
      simp only [launch, Interpreter.launch, Interpreter.launchIn, hentry, converse_eq hcs hserve]
  | command words =>
    cases words with
    | nil => rfl
    | cons name operands =>
      simp only [launch, dispatch_eq hcs hserve, Option.map_some]
      rfl
  | version | help | invalid => rfl

/-- With these handlers no run breaks off at a look-up, and each is the same as without the
checks. -/
structure Within (sh : Interpreter W) (handlers : List (Handler W)) : Prop where
  dispatch : ∀ argv s, dispatch sh handlers argv s = some (sh.dispatch argv s)
  loop : ∀ source s, loop sh handlers source s = some (sh.loop source s)
  launch : ∀ invocation openSource s,
    launch sh handlers invocation openSource s = some (sh.launch invocation openSource s)

theorem within_of_serve (hcs : sh.commands = .ofList cs) (hserve : Serve handlers cs) :
    Within sh handlers where
  dispatch := dispatch_eq hcs hserve
  loop := loop_eq hcs hserve
  launch := launch_eq hcs hserve

/-! ## The arguments of the process -/

/-- The first flag with the arguments that are its own, as the parser of flags gets them.  Its
other spellings are replaced by the long one. -/
def flagWords (args : List String) (first : String) : Option (List String) :=
  let (flag, owned) :=
    if first ∈ Invocation.versionFlags then ("--version", 1)
    else if first ∈ Invocation.directoryFlags then ("--directory", 2)
    else (first, 1)
  (slice args 0 (min owned args.length)).bind fun argv => store argv 0 flag

def ofArgs (parse : List String → Invocation) (args : List String) : Option Invocation :=
  match args.head? with
  | none => some .interactive
  | some first =>
    if first ∈ Invocation.commandFlags then (slice args 1 args.length).map .command
    else (flagWords args first).map parse

/-- What the parser of flags makes of a flag and its value. -/
def readFlag : List String → Invocation
  | [] => .interactive
  | flag :: values =>
    if flag = "--version" then .version
    else if flag = "--directory" then
      match values with
      | path :: _ => .directory path
      | [] => .invalid Invocation.missingDirectory
    else if flag = Invocation.endOfFlags then .interactive
    else if flag ∈ Invocation.helpFlags then .help Invocation.usage
    else .invalid (Invocation.unrecognized flag)

/-- The parser always gets the flag, and a value only if the flag takes one and there is one. -/
theorem flagWords_cons (first : String) (rest : List String) :
    flagWords (first :: rest) first =
      if first ∈ Invocation.versionFlags then some ["--version"]
      else if first ∈ Invocation.directoryFlags then some ("--directory" :: rest.take 1)
      else some [first] := by
  have hslice : ∀ owned, slice (first :: rest) 0 (min owned (first :: rest).length) =
      some ((first :: rest).take (min owned (first :: rest).length)) :=
    fun owned => slice_from_start (min_le_right owned _)
  simp only [flagWords, hslice, Option.bind_some]
  split_ifs <;> cases rest <;> simp [store]

/-- Whatever the parser does, the arguments that it is given are there. -/
theorem isSome_ofArgs (parse : List String → Invocation) (args : List String) :
    (ofArgs parse args).isSome := by
  cases args with
  | nil => rfl
  | cons first rest =>
    simp only [ofArgs, List.head?_cons, slice_tail, flagWords_cons]
    split_ifs <;> rfl

/-- An argument in neither of the lists reaches the parser as it is, and is none of its flags. -/
theorem readFlag_of_not_mem {first : String} (hversion : first ∉ Invocation.versionFlags)
    (hdirectory : first ∉ Invocation.directoryFlags) :
    readFlag [first] =
      if first = Invocation.endOfFlags then .interactive
      else if first ∈ Invocation.helpFlags then .help Invocation.usage
      else .invalid (Invocation.unrecognized first) := by
  have hversion' : first ≠ "--version" := by
    rintro rfl
    exact hversion (by decide)
  have hdirectory' : first ≠ "--directory" := by
    rintro rfl
    exact hdirectory (by decide)
  rw [readFlag, if_neg hversion', if_neg hdirectory']

theorem ofArgs_readFlag (args : List String) :
    ofArgs readFlag args = some (Invocation.ofArgs args) := by
  cases args with
  | nil => rfl
  | cons first rest =>
    simp only [ofArgs, List.head?_cons, slice_tail, flagWords_cons, Invocation.ofArgs]
    -- both sides ask for the same lists in the same order
    by_cases hcommand : first ∈ Invocation.commandFlags
    · rw [if_pos hcommand, if_pos hcommand]
      rfl
    rw [if_neg hcommand, if_neg hcommand]
    by_cases hversion : first ∈ Invocation.versionFlags
    · rw [if_pos hversion, if_pos hversion]
      rfl
    rw [if_neg hversion, if_neg hversion]
    by_cases hdirectory : first ∈ Invocation.directoryFlags
    · rw [if_pos hdirectory, if_pos hdirectory]
      cases rest <;> rfl
    rw [if_neg hdirectory, if_neg hdirectory, Option.map_some,
      readFlag_of_not_mem hversion hdirectory]

end Checked

namespace Interpreter

variable {W : Type}

/-- No look-up goes beyond the end, for any history of registrations, any state and any words.  The
index leads to stored commands that have a name; a command is only run for a line that has a first
word; a position is only taken in a log that has a record; and the arguments of the process are
taken where they are.  So every dispatch, every session and every launch comes to its end, also with
the built-in commands, which cut their lines without asking. -/
theorem lookups_within (h : Host W) (cs : List (Command W)) :
    let sh : Interpreter W := { host := h, commands := .ofList cs }
    (∀ name slot, sh.commands.slot? name = some slot →
      slot < sh.commands.commands.length ∧ ∃ c, sh.commands.commands[slot]? = some c ∧
        sh.commands.resolve name = some c ∧ 0 < c.names.length) ∧
    Checked.Within sh (cs.map Checked.ofCommand) ∧
    (∀ b synopses name operands, (Checked.ofBuiltin h b).execute synopses (name :: operands) =
      some ((b.command h).execute synopses name operands)) ∧
    (∀ log r, Checked.push log r = some (log.push r)) ∧
    (∀ parse args, (Checked.ofArgs parse args).isSome) ∧
    (∀ args, Checked.ofArgs Checked.readFlag args = some (Invocation.ofArgs args)) ∧
    Checked.Within (standard h) (Builtin.all.map (Checked.ofBuiltin h)) := by
  intro sh
  refine ⟨fun name slot hslot => ?_, ?_, fun b => (Checked.fulfils_ofBuiltin h b).acts,
    Checked.push_eq, Checked.isSome_ofArgs, Checked.ofArgs_readFlag, ?_⟩
  · obtain ⟨c, hc, hresolve, hname⟩ := Registry.stored_of_slot? hslot
    rw [← Registry.commands_ofList cs] at hc
    exact ⟨Registry.sound_ofList cs name slot hslot, c, hc, hresolve, List.length_pos_of_mem hname⟩
  · have hserve := Checked.serve_map Checked.fulfils_ofCommand cs
    rw [List.map_id'] at hserve
    exact Checked.within_of_serve rfl hserve
  · have hcs : (standard h).commands = .ofList (Builtin.all.map (Builtin.command h)) := rfl
    exact Checked.within_of_serve hcs (Checked.serve_map (Checked.fulfils_ofBuiltin h) _)

end Interpreter
end LineShell
