import SkyCatalog.Console.Program
import SkyCatalog.Proofs.Body.Valid
import SkyCatalog.Proofs.Session.Growth

/-!
# Totality — input never breaks the program off

Reading, executing and writing each have ends that are no answer: a record that fails its check,
a parent that is not stored, a tag without a handler, a number too long for a numeral. None of
them is met by a catalog that has grown from lines. The records that lines describe are valid,
parents were looked up before, and temperatures that were read can be written; so every line is
answered, a conversation goes on to its end, and the program with it.
-/

namespace SkyCatalog

open Grammar

/-! ## §1  Records and handlers -/

theorem Grammar.Described.valid {b : Body} (h : Described b) : b.draft.check = .ok b :=
  Body.check_draft h.named.1

/-- The handler of a command is found, knows it, and does what is done about it. -/
theorem Command.exists_handler (c : Catalog) (cmd : Command) :
    ∃ handler, handlers.lookup cmd.tag = some handler ∧ handler c cmd = some (cmd.execute c) :=
  Option.bind_eq_some_iff.mp (handled?_eq c cmd)

/-- An addition that is executed and refused was refused for its name, and warns of it. -/
theorem Command.warned_of_refused {c : Catalog} {b : Body} {parent : Option (Held Body)}
    {effect : Effect} {fault : AddFault} (executed : (Command.add b parent).execute c = .ok effect)
    (refused : (c.put b parent).2 = .error fault) :
    ∃ k n, fault = .duplicate k n ∧
      effect.payload = some (.notice (AddFault.duplicate k n).message .warning) := by
  rw [execute_add, executeAdd] at executed
  generalize c.put b parent = after at executed refused
  obtain ⟨c', outcome⟩ := after
  obtain rfl : outcome = .error fault := refused
  cases fault with
  | duplicate k n =>
      obtain rfl := Except.ok.inj executed
      exact ⟨k, n, rfl, rfl⟩
  | unknownParent => cases executed

/-! ## §2  Reports -/

/-- Whatever is shown among the children of a body is a view of a stored body. -/
theorem Catalog.stored_of_mem_childrenOfKind {α : Type} {c : Catalog} {view : Body → Option α}
    {x : Held Body} {y : Held α} (h : y ∈ c.childrenOfKind view x) :
    ∃ b ∈ c.bodies, view b = some y.value := by
  unfold childrenOfKind at h
  obtain ⟨z, hz, hy⟩ := List.mem_filterMap.mp h
  obtain ⟨v, seen, rfl⟩ := Option.map_eq_some_iff.mp hy
  refine ⟨z.value, ?_, seen⟩
  unfold children? at hz
  cases known : c.handleOf? x with
  | none => simp [known] at hz
  | some p =>
      cases linked : c.childHandles? p with
      | none => simp [known, linked] at hz
      | some hs =>
          simp only [known, linked, Option.bind_some, Option.map_some, Option.getD_some,
            List.mem_filterMap] at hz
          obtain ⟨i, -, held⟩ := hz
          obtain ⟨b, hb, rfl⟩ := Option.map_eq_some_iff.mp held
          exact List.mem_of_getElem? hb

theorem Catalog.stored_of_mem_stars {c : Catalog} {g : Held Galaxy} {branch : StarBranch}
    (h : branch ∈ (c.report g).stars) : .star branch.star ∈ c.bodies := by
  obtain ⟨s, hs, rfl⟩ := List.mem_map.mp h
  obtain ⟨b, hb, seen⟩ := Catalog.stored_of_mem_childrenOfKind hs
  cases b with
  | star s' =>
      obtain rfl := Option.some.inj seen
      exact hb
  | _ => cases seen

theorem isSome_mapM {α β : Type} {f : α → Option β} {xs : List α} (h : ∀ x ∈ xs, (f x).isSome) :
    (xs.mapM f).isSome := by
  induction xs with
  | nil => rfl
  | cons x xs ih =>
      obtain ⟨y, hy⟩ := Option.isSome_iff_exists.mp (h x List.mem_cons_self)
      obtain ⟨ys, hys⟩ := Option.isSome_iff_exists.mp
        (ih fun z hz => h z (List.mem_cons_of_mem _ hz))
      simp [List.mapM_cons, hy, hys]

/-- A report can be written when the temperatures of its stars can. -/
theorem GalaxyReport.lines?_isSome {r : GalaxyReport}
    (short : ∀ branch ∈ r.stars,
      (Numeral.decimal branch.star.temperature).length ≤ Numeral.lengthLimit) :
    r.lines?.isSome := by
  unfold lines?
  rw [Option.isSome_map]
  refine isSome_mapM ?_
  intro branch hb
  rw [StarBranch.lines?, Star.classText?, Option.isSome_map, Option.isSome_map,
    Numeral.numeral?_isSome_iff]
  exact short branch hb

/-! ## §3  Lines -/

namespace Session

/-- A line is answered: what it adds passes the check of its kind, and is refused for its name at
most, with a warning; its command has a handler, which executes it, and what this has to say has a
writer, which writes it with every temperature in it. -/
structure Answered (c : Catalog) (line : Option String) : Prop where
  valid : ∀ b parent, Command.parse c line = .add b parent → b.draft.check = .ok b
  known : ∀ b parent, Command.parse c line = .add b parent →
    ∀ k n, c.add b parent ≠ .error (.unknownParent k n)
  handled : ∃ handler, Command.handlers.lookup (Command.parse c line).tag = some handler ∧
    handler c (Command.parse c line) = some ((Command.parse c line).execute c)
  executed : ∃ effect, (Command.parse c line).execute c = .ok effect ∧
    (∀ b parent k n, Command.parse c line = .add b parent →
      c.add b parent = .error (.duplicate k n) →
      effect.payload = some (.notice (AddFault.duplicate k n).message .warning)) ∧
    ∀ payload, effect.payload = some payload →
      (∀ r, payload = .report r → ∀ branch ∈ r.stars,
        (Numeral.decimal branch.star.temperature).length ≤ Numeral.lengthLimit) ∧
      ∃ write written, Payload.writers.lookup payload.tag = some write ∧
        write payload = some written ∧ payload.lines? = some written

/-- What a command has to say about a catalog can be written when the temperatures of all stored
stars can. -/
theorem writable {c : Catalog} {cmd : Command} {effect : Effect} {payload : Payload}
    (short : ∀ s, .star s ∈ c.bodies →
      (Numeral.decimal s.temperature).length ≤ Numeral.lengthLimit)
    (executed : cmd.execute c = .ok effect) (said : effect.payload = some payload) :
    (∀ r, payload = .report r → ∀ branch ∈ r.stars,
      (Numeral.decimal branch.star.temperature).length ≤ Numeral.lengthLimit) ∧
    ∃ written, payload.lines? = some written := by
  have reports : ∀ r, payload = .report r → ∃ g, r = c.report g := by
    rintro r rfl
    cases cmd with
    | print g =>
        obtain rfl := Except.ok.inj executed
        exact ⟨g, (Payload.report.inj (Option.some.inj said)).symm⟩
    | add b parent =>
        rcases Command.execute_add_cases executed with ⟨p, -, -, rfl⟩ | rfl <;> cases said
    | _ =>
        obtain rfl := Except.ok.inj executed
        cases said
  have temperatures : ∀ r, payload = .report r → ∀ branch ∈ r.stars,
      (Numeral.decimal branch.star.temperature).length ≤ Numeral.lengthLimit := by
    intro r hr branch hb
    obtain ⟨g, rfl⟩ := reports r hr
    exact short _ (Catalog.stored_of_mem_stars hb)
  refine ⟨temperatures, ?_⟩
  cases payload with
  | notice => exact ⟨_, rfl⟩
  | listing => exact ⟨_, rfl⟩
  | stats => exact ⟨_, rfl⟩
  | report r => exact Option.isSome_iff_exists.mp (GalaxyReport.lines?_isSome (temperatures r rfl))

theorem Grown.short {lines : List (Option String)} {c : Catalog} {l : Ledger}
    (h : Grown lines c l) : ∀ s, .star s ∈ c.bodies →
      (Numeral.decimal s.temperature).length ≤ Numeral.lengthLimit :=
  fun _ hs => (h.described hs).decimal_length

/-- **After any lines, any other line is answered.** -/
theorem Grown.answered {lines : List (Option String)} {c : Catalog} {l : Ledger}
    (h : Grown lines c l) (line : Option String) : Answered c line where
  valid b parent parsed := (Command.described_of_parse parsed).valid
  known b parent parsed k n refused := by
    obtain ⟨effect, l', executed, -⟩ := h.step line
    rw [parsed] at executed
    obtain ⟨k', n', other, -⟩ :=
      Command.warned_of_refused executed (Catalog.add_eq_error_iff.mp refused)
    cases other
  handled := Command.exists_handler c _
  executed := by
    obtain ⟨effect, l', executed, -⟩ := h.step line
    refine ⟨effect, executed, ?_, ?_⟩
    · intro b parent k n parsed refused
      rw [parsed] at executed
      obtain ⟨k', n', same, warned⟩ :=
        Command.warned_of_refused executed (Catalog.add_eq_error_iff.mp refused)
      cases same
      exact warned
    · intro payload said
      obtain ⟨short, written, hw⟩ := writable h.short executed said
      obtain ⟨write, known, writes⟩ := Option.bind_eq_some_iff.mp hw
      exact ⟨short, write, written, known, writes, hw⟩

end Session

/-! ## §4  Conversations -/

namespace Console

open Session

variable {lines : List (Option String)} {c : Catalog} {l : Ledger}

/-- A round is made with every line, and its catalog has grown by this line. -/
theorem round_ok (d : Display) (m : Manner) (h : Grown lines c l) (line : Option String) :
    ∃ step written l', d.round m c line = .ok (step, written) ∧
      Grown (lines ++ [line]) step.effect.catalog l' := by
  obtain ⟨effect, l', executed, after⟩ := h.step line
  have answered : ∃ written, answer? (d.writeLine m) effect.payload = some written := by
    cases said : effect.payload with
    | none => exact ⟨_, rfl⟩
    | some payload =>
        obtain ⟨-, lines, hl⟩ := writable h.short executed said
        exact ⟨_, by rw [answer?, hl, Option.map_some]⟩
  obtain ⟨written, hw⟩ := answered
  refine ⟨⟨Command.parse c line, effect, (Reading.of c line).events line ++ effect.events⟩, written,
    l', ?_, after⟩
  unfold Display.round
  simp only [step_eq_ok executed, hw]

/-- A conversation over any lines goes on to its end. -/
theorem converse_ok (d : Display) (m : Manner) (h : Grown lines c l) (input : List (List Char)) :
    ∃ t, d.converse m c input = .ok t := by
  -- the catalog changes from line to line; what the rounds need of it is that it has grown
  induction input generalizing lines c l with
  | nil =>
      obtain ⟨step, written, l', round, -⟩ := round_ok d m h none
      exact ⟨_, Except.bind_eq_ok_iff.mpr ⟨_, round, rfl⟩⟩
  | cons line input ih =>
      obtain ⟨step, written, l', round, after⟩ := round_ok d m h (some (content line))
      obtain ⟨t, rest⟩ := ih after
      cases goesOn : step.effect.keepRunning with
      | true => exact ⟨_, Except.bind_eq_ok_iff.mpr ⟨_, round, by simp [goesOn, rest]; rfl⟩⟩
      | false => exact ⟨_, Except.bind_eq_ok_iff.mpr ⟨_, round, by simp [goesOn]; rfl⟩⟩

theorem run_ok (d : Display) (m : Manner) (input : List Char) :
    ∃ t, d.run m .empty input = .ok t := by
  obtain ⟨t, conversed⟩ := converse_ok d m grown_empty (rawLines input)
  exact ⟨_, Except.bind_eq_ok_iff.mpr ⟨t, conversed, rfl⟩⟩

/-- A conversation is a success of the program. -/
theorem Libraries.exitCode_converse (lib : Libraries) (s : Settings) (time : String)
    (input : List Char) : (lib.converse s time input).exitCode = 0 := by
  obtain ⟨t, finished⟩ := run_ok (lib.display s.color) ⟨s.prompt, s.color⟩
    (normalizeLineEnds input)
  rw [converse, finished]

end Console

/-! ## §5  The theorem -/

/-- **Input never breaks the program off.** After any lines, or ends of input, every stored body
passes the check of its kind and every stored temperature can be written; and any further line is
answered. A word that is taken off a line always has a last letter. So the program ends with exit
code 0 on every input that is text, whatever it is shown on, whenever its arguments are understood
and its settings can be made. -/
theorem input_never_fails :
    (∀ lines : List (Option String), ∃ c, Session.run .empty lines = .ok c ∧
      (∀ b ∈ c.bodies, b.draft.check = .ok b) ∧
      (∀ s, .star s ∈ c.bodies →
        (Numeral.decimal s.temperature).length ≤ Numeral.lengthLimit) ∧
      ∀ line, Session.Answered c line) ∧
    (∀ s : List Char, ∀ t ∈ Token.word? s, t.1.getLast?.isSome) ∧
    ∀ (lib : Console.Libraries) (args : List String) (env : Console.Environment)
      (time input : String) (request : Console.Request) (settings : Console.Settings),
      lib.understand args = .ok request → lib.construct env {} = .ok settings →
      (lib.program args env time input).exitCode = 0 := by
  refine ⟨?_, ?_, ?_⟩
  · intro lines
    obtain ⟨c, l, h⟩ := Session.grown lines
    exact ⟨c, h.reached, fun b hb => (h.described hb).valid, h.short, h.answered⟩
  · rintro s ⟨w, rest⟩ taken
    have word := (Token.word?_eq_some_iff.mp taken).1
    exact List.getLast?_isSome.mpr word.1
  · intro lib args env time input request settings understood valid
    unfold Console.Libraries.program Console.Libraries.plan
    rw [understood]
    cases request with
    | help => rfl
    | run options =>
        simp only [valid]
        exact lib.exitCode_converse (options.override settings) time input.toList

/-- A star under a galaxy without a numerical age, and a second one of the same name. -/
theorem input_never_fails_after_nan :
    let lib := Console.Libraries.own true true
    let args := ["--log-level=Debug"]
    let env := [("GalaxyDB_Color", "off")]
    let input := "add galaxy [A] spiral nanB\nadd star [A] [B] 1 2 5500 1\n" ++
      "add star [A] [B] 1 2 5500 1\nprint [A]"
    lib.understand args = .ok (.run ⟨none, some "DEBUG"⟩) ∧
      lib.construct env {} = .ok { color := false } ∧
      (lib.program args env "" input).exitCode = 0 := by
  intro lib args env input
  have understood : lib.understand args = .ok (.run ⟨none, some "DEBUG"⟩) := by decide +kernel
  have valid : lib.construct env {} = .ok { color := false } := by decide +kernel
  exact ⟨understood, valid, input_never_fails.2.2 lib args env "" input _ _ understood valid⟩

end SkyCatalog
