import SkyCatalog.Console.Screen
import SkyCatalog.Proofs.Session.Totality
import SkyCatalog.Proofs.Text.Parts

/-!
# Conversations — a session, prompted and shown

The console reads until a line asks for the end, which any line does that is `exit` but for white
space, or until there is nothing left to read. What it has read is a session: the catalog after it
and the answers are those of its steps, and each answer stands after a prompt. Which line is the
last one can be seen from the text alone, since no catalog makes an `exit` mean anything else.

All of this holds on every display. On one that keeps its laws, prompts and lines that it has no
reason to change are written as they are.
-/

namespace SkyCatalog

open Grammar
open SkyCatalog.Text (allBlank)

/-! ## §1  Lines that ask for the end -/

theorem Grammar.spaced_singleton_iff {w s : List Char} :
    Spaced [w] s ↔ ∃ u r, s = u ++ w ++ r ∧ allBlank u = true ∧ allBlank r = true := by
  constructor
  · rintro ⟨⟩
    rename_i u r blank parted tail
    cases tail with
    | nil left => exact ⟨u, r, rfl, blank, left⟩
  · rintro ⟨u, r, rfl, before, after⟩
    refine .cons before ?_ (.nil after)
    cases r with
    | nil => rfl
    | cons c r => exact (Bool.and_eq_true_iff.mp after).1

/-- **A line asks for the end when it is `exit` but for white space**, in every catalog. -/
theorem Command.parse_eq_exit_iff {c : Catalog} {text : String} :
    Command.parse c (some text) = .exit ↔ Text.trim text.toList = "exit".toList := by
  rw [Text.trim_eq_iff (by decide), ← spaced_singleton_iff]
  constructor
  · intro h
    have accepted := Reading.accepted_of_command h nofun nofun
    obtain ⟨ph, ts, said, spaced, asks⟩ := Reading.ofLine_eq_accepted_iff.mp accepted
    cases asks with
    | exit => cases said with | exit => exact spaced
  · intro spaced
    have accepted : Reading.ofLine c text.toList = .accepted .exit :=
      Reading.ofLine_eq_accepted_iff.mpr ⟨.exit, _, .exit, spaced, .exit⟩
    exact congrArg Reading.command accepted

/-- Only an `exit` stops a conversation. -/
theorem Command.keepRunning_eq_false_iff {c : Catalog} {cmd : Command} {effect : Effect}
    (executed : cmd.execute c = .ok effect) : effect.keepRunning = false ↔ cmd = .exit := by
  cases cmd with
  | add b parent =>
      rcases execute_add_cases executed with ⟨p, -, -, rfl⟩ | rfl <;> simp
  | _ =>
      obtain rfl := Except.ok.inj executed
      simp

/-! ## §2  Lines read and lines left -/

namespace Console

/-- A line of input that asks for the end of the conversation. -/
def asksEnd (line : List Char) : Bool := Text.trim (content line).toList == "exit".toList

/-- The lines that a conversation reads: those before the first that asks for the end, and this
one. -/
def heard (lines : List (List Char)) : List (List Char) :=
  lines.takeWhile (!asksEnd ·) ++ (lines.dropWhile (!asksEnd ·)).take 1

/-- The lines that a conversation leaves unread. -/
def unheard (lines : List (List Char)) : List (List Char) :=
  (lines.dropWhile (!asksEnd ·)).drop 1

/-- The session that a conversation over some lines is. -/
def session (lines : List (List Char)) : List (Option String) :=
  (heard lines).map fun line => some (content line)

section Heard

variable {line : List Char}

theorem heard_of_asksEnd (h : asksEnd line = true) (rest : List (List Char)) :
    heard (line :: rest) = [line] ∧ unheard (line :: rest) = rest := by
  simp [heard, unheard, h]

theorem heard_of_goesOn (h : asksEnd line = false) (rest : List (List Char)) :
    heard (line :: rest) = line :: heard rest ∧ unheard (line :: rest) = unheard rest := by
  simp [heard, unheard, h]

theorem session_of_asksEnd (h : asksEnd line = true) (rest : List (List Char)) :
    session (line :: rest) = [some (content line)] := by
  simp [session, (heard_of_asksEnd h rest).1]

theorem session_of_goesOn (h : asksEnd line = false) (rest : List (List Char)) :
    session (line :: rest) = some (content line) :: session rest := by
  simp [session, (heard_of_goesOn h rest).1]

theorem heard_append_unheard (lines : List (List Char)) : heard lines ++ unheard lines = lines := by
  rw [heard, unheard, List.append_assoc, List.take_append_drop, List.takeWhile_append_dropWhile]

end Heard

end Console

/-! ## §3  Notices -/

theorem SyntaxFault.message_ne_empty (fault : SyntaxFault) : fault.message ≠ "" := by
  unfold message
  split <;> simp [toString]

theorem AddFault.message_ne_empty (fault : AddFault) : fault.message ≠ "" := by
  unfold message
  split <;> simp [toString]

/-- A complaint says something. -/
theorem Command.complaint_ne_empty {c : Catalog} {line : Option String} {message : String}
    (h : Command.parse c line = .complain message) : message ≠ "" := by
  cases line with
  | none => cases h
  | some text =>
      change (Reading.ofLine c text.toList).command = _ at h
      generalize reading : Reading.ofLine c text.toList = r at h
      cases r with
      | accepted cmd =>
          obtain ⟨ph, ts, -, -, asks⟩ := Reading.ofLine_eq_accepted_iff.mp reading
          exact absurd (congrArg Command.tag h) asks.tag_ne.2
      | refused fault =>
          obtain rfl := Command.complain.inj h
          exact fault.message_ne_empty
      | unknownCommand word =>
          obtain rfl := Command.complain.inj h
          simp [toString]
      | extraInput rest =>
          obtain rfl := Command.complain.inj h
          simp [toString]
      | _ => cases h

/-- **No notice is empty.** -/
theorem Session.notice_ne_empty {c : Catalog} {line : Option String} {s : Step}
    (stepped : step c line = .ok s) {message : String} {severity : Severity}
    (said : s.effect.payload = some (.notice message severity)) : message ≠ "" := by
  obtain ⟨-, executed⟩ := executed_of_step stepped
  generalize s.effect = effect at executed said
  generalize parsed : Command.parse c line = cmd at executed
  cases cmd with
  | complain message' =>
      obtain rfl := Except.ok.inj executed
      cases said
      exact Command.complaint_ne_empty parsed
  | add b parent =>
      rcases Command.execute_add_cases executed with ⟨p, -, -, rfl⟩ | rfl
      · cases said
      · cases said
        exact AddFault.message_ne_empty _
  | _ =>
      obtain rfl := Except.ok.inj executed
      cases said

/-- A step of a session is a step from some catalog. -/
theorem Session.exists_of_mem_steps {c : Catalog} {lines : List (Option String)}
    {steps : List Step} (h : Session.steps c lines = .ok steps) {s : Step} (hs : s ∈ steps) :
    ∃ c' line, Session.step c' line = .ok s := by
  induction lines generalizing c steps with
  | nil =>
      obtain rfl := Except.ok.inj h
      cases hs
  | cons line lines ih =>
      obtain ⟨first, later, stepped, made, rfl⟩ := Session.steps_cons_iff.mp h
      rcases List.mem_cons.mp hs with rfl | hs
      · exact ⟨c, line, stepped⟩
      · exact ih made hs

namespace Console

/-! ## §4  Conversations -/

/-- A transcript follows the session that a conversation is: it has the catalog after this
session, it leaves the lines after it unread, and it holds the answers of its steps, each one
after a prompt, and one more prompt when the input has come to its end. -/
structure Follows (prompt : String) (write : Payload → String → String) (c : Catalog)
    (lines : List (List Char)) (t : Transcript) : Prop where
  catalog : Session.run c (session lines) = .ok t.catalog
  unread : t.unread = (unheard lines).flatten
  output : ∃ (steps : List Step) (answers : List String),
    Session.steps c (session lines) = .ok steps ∧
    steps.map (fun s => answer? write s.effect.payload) = answers.map some ∧
    t.output = String.join (answers.map (prompt ++ ·)) ++ if lines.any asksEnd then "" else prompt

namespace Follows

variable {prompt answer : String} {write : Payload → String → String} {c : Catalog}
  {line : List Char} {lines : List (List Char)} {s : Step} {t : Transcript} {events : List Event}

theorem ended : Follows prompt write c [] ⟨prompt, c, [], events⟩ where
  catalog := rfl
  unread := rfl
  output := ⟨[], [], rfl, rfl, (String.empty_append).symm⟩

/-- The line that asks for the end is answered, and the others are left. -/
theorem last (stops : asksEnd line = true) (stepped : Session.step c (some (content line)) = .ok s)
    (said : answer? write s.effect.payload = some answer) :
    Follows prompt write c (line :: lines)
      ⟨prompt ++ answer, s.effect.catalog, lines.flatten, events⟩ where
  catalog := by
    rw [session_of_asksEnd stops, Session.run_cons stepped, Session.run_nil]
  unread := by rw [(heard_of_asksEnd stops lines).2]
  output := by
    refine ⟨[s], [answer], ?_, ?_, ?_⟩
    · rw [session_of_asksEnd stops]
      exact Session.steps_cons_iff.mpr ⟨s, [], stepped, rfl, rfl⟩
    · rw [List.map_singleton, said, List.map_singleton]
    · simp [String.join, stops]

/-- A line that goes on is answered before the conversation over the others. -/
theorem step (goesOn : asksEnd line = false)
    (stepped : Session.step c (some (content line)) = .ok s)
    (said : answer? write s.effect.payload = some answer)
    (later : Follows prompt write s.effect.catalog lines t) :
    Follows prompt write c (line :: lines)
      ⟨prompt ++ answer ++ t.output, t.catalog, t.unread, events⟩ where
  catalog := by
    rw [session_of_goesOn goesOn, Session.run_cons stepped, later.catalog]
  unread := by rw [(heard_of_goesOn goesOn lines).2, later.unread]
  output := by
    obtain ⟨steps, answers, made, spoken, output⟩ := later.output
    refine ⟨s :: steps, answer :: answers, ?_, ?_, ?_⟩
    · rw [session_of_goesOn goesOn]
      exact Session.steps_cons_iff.mpr ⟨s, steps, stepped, made, rfl⟩
    · rw [List.map_cons, List.map_cons, said, spoken]
    · simp only [output, List.map_cons, String.join_cons, List.any_cons, goesOn, Bool.false_or,
        String.append_assoc]

end Follows

/-- A line as it is, in the color of its notice if colors are shown, with a line feed after it. -/
def asIs (colors : Bool) (m : Manner) (p : Payload) (line : String) : String :=
  tinted colors (m.color? p) line ++ "\n"

/-- The lines that some steps have to show. -/
def linesSaid (steps : List Step) : List String :=
  steps.flatMap fun s => (s.effect.payload.bind Payload.lines?).getD []

/-- A display has no reason to change any line that a session has to show. -/
def KeepsLines (d : Display) (c : Catalog) (lines : List (Option String)) : Prop :=
  ∀ steps, Session.steps c lines = .ok steps → ∀ l ∈ linesSaid steps, d.KeepsLine l

section Plainly

variable {d : Display} {m : Manner} {c : Catalog}

theorem writePrompt_of_keeps (laws : d.Laws) (kept : d.KeepsPrompt m.prompt) :
    d.writePrompt m = m.prompt := by
  unfold Display.writePrompt
  split
  · next empty => exact empty.symm
  · exact laws.prompt kept

/-- The lines of a payload are written as they are. -/
theorem answer?_of_keeps (laws : d.Laws) {said : Option Payload}
    (full : ∀ message severity, said = some (.notice message severity) → message ≠ "")
    (kept : ∀ l ∈ (said.bind Payload.lines?).getD [], d.KeepsLine l) :
    answer? (d.writeLine m) said = answer? (asIs d.colors m) said := by
  cases said with
  | none => rfl
  | some p =>
      simp only [answer?]
      cases written : p.lines? with
      | none => rfl
      | some ls =>
          refine congrArg (some ∘ String.join) (List.map_congr_left ?_)
          intro l hl
          refine laws.line (kept l (by simp [written, hl])) ?_
          -- an empty line would lose its color, but only a notice has one, and is its own line
          intro colored
          cases p with
          | notice message severity =>
              obtain rfl := Option.some.inj written
              obtain rfl := List.mem_singleton.mp hl
              exact full l severity rfl
          | _ => cases colored

/-- What follows a session as a display writes it, follows it word for word when the display has no
reason to change anything. -/
theorem Follows.plainly {lines : List (List Char)} {t : Transcript}
    (h : Follows (d.writePrompt m) (d.writeLine m) c lines t) (laws : d.Laws)
    (prompt : d.KeepsPrompt m.prompt) (kept : KeepsLines d c (session lines)) :
    Follows m.prompt (asIs d.colors m) c lines t where
  catalog := h.catalog
  unread := h.unread
  output := by
    obtain ⟨steps, answers, made, spoken, output⟩ := h.output
    refine ⟨steps, answers, made, ?_, ?_⟩
    · rw [← spoken]
      refine List.map_congr_left ?_
      intro s hs
      obtain ⟨c', line, stepped⟩ := Session.exists_of_mem_steps made hs
      refine (answer?_of_keeps laws ?_ ?_).symm
      · intro message severity said
        exact Session.notice_ne_empty stepped said
      · intro l hl
        exact kept steps made l (List.mem_flatMap.mpr ⟨s, hs, hl⟩)
    · rw [output, writePrompt_of_keeps laws prompt]

end Plainly

/-- A round is a step, and what is written for it is its answer. -/
theorem round_eq_ok_iff {d : Display} {m : Manner} {c : Catalog} {line : Option String} {s : Step}
    {written : String} : d.round m c line = .ok (s, written) ↔
      Session.step c line = .ok s ∧ answer? (d.writeLine m) s.effect.payload = some written := by
  unfold Display.round
  cases Session.step c line with
  | error fault => simp
  | ok s' =>
      cases said : answer? (d.writeLine m) s'.effect.payload with
      | none =>
          simp only [said, reduceCtorEq, false_iff, not_and, Except.ok.injEq]
          rintro rfl
          simp [said]
      | some written' =>
          simp only [said, Except.ok.injEq, Prod.mk.injEq]
          constructor
          · rintro ⟨rfl, rfl⟩
            exact ⟨rfl, said⟩
          · rintro ⟨rfl, said'⟩
            exact ⟨rfl, Option.some.inj (said.symm.trans said')⟩

/-- A round with a line goes on unless the line asks for the end. -/
theorem keepRunning_of_step {c : Catalog} {line : List Char} {s : Step}
    (stepped : Session.step c (some (content line)) = .ok s) :
    s.effect.keepRunning = !asksEnd line := by
  obtain ⟨-, executed⟩ := Session.executed_of_step stepped
  have ends := (Command.keepRunning_eq_false_iff executed).trans Command.parse_eq_exit_iff
  cases stops : asksEnd line with
  | true => exact ends.mpr (beq_iff_eq.mp stops)
  | false =>
      rw [Bool.not_false, ← Bool.not_eq_false, ends]
      exact beq_eq_false_iff_ne.mp stops

/-- At the end of the input there is nothing to say. -/
theorem round_none (d : Display) (m : Manner) (c : Catalog) :
    ∃ s, d.round m c none = .ok (s, "") ∧ s.effect.catalog = c := ⟨_, rfl, rfl⟩

/-- **A conversation follows its session**, from every catalog that lines have filled. -/
theorem converse_follows (d : Display) (m : Manner) {before : List (Option String)} {c : Catalog}
    {l : Ledger} (h : Session.Grown before c l) (lines : List (List Char)) :
    ∃ t, d.converse m c lines = .ok t ∧ Follows (d.writePrompt m) (d.writeLine m) c lines t := by
  -- each round hands over a catalog that has grown by its line, and the rest goes on from there
  induction lines generalizing before c l with
  | nil =>
      obtain ⟨s, made, same⟩ := round_none d m c
      refine ⟨⟨d.writePrompt m, c, [], s.events⟩, ?_, .ended⟩
      refine Except.bind_eq_ok_iff.mpr ⟨_, made, ?_⟩
      show Except.ok (Transcript.mk (d.writePrompt m ++ "") s.effect.catalog [] s.events) = _
      rw [String.append_empty, same]
  | cons line lines ih =>
      obtain ⟨s, written, l', made, after⟩ := round_ok d m h (some (content line))
      obtain ⟨stepped, said⟩ := round_eq_ok_iff.mp made
      have running := keepRunning_of_step stepped
      cases stops : asksEnd line with
      | true =>
          refine ⟨⟨d.writePrompt m ++ written, s.effect.catalog, lines.flatten, s.events⟩, ?_,
            .last stops stepped said⟩
          refine Except.bind_eq_ok_iff.mpr ⟨_, made, ?_⟩
          simp only [running, stops]
          rfl
      | false =>
          obtain ⟨t, conversed, follows⟩ := ih after
          refine ⟨⟨d.writePrompt m ++ written ++ t.output, t.catalog, t.unread,
            s.events ++ t.events⟩, ?_, .step stops stepped said follows⟩
          refine Except.bind_eq_ok_iff.mpr ⟨_, made, ?_⟩
          simp only [running, stops, conversed]
          rfl

/-! ## §5  The theorem -/

/-- **A conversation is its session, prompted and shown.** On every display, from every catalog that
lines have filled, with every prompt and on every text, the console comes to an end. The text is cut
into lines at line feeds only; those are read up to the first that is `exit` but for white space,
with this one, and the rest is left. The catalog in the end is that of the session over the lines
read, and what is written are the answers of its steps, each after a prompt, and a last prompt if
the input has come to its end. Where a display that keeps its laws has no reason to change the
prompt or a line, all of it is written word for word, and notices in their color. -/
theorem conversation_follows_session {before : List (Option String)} {c : Catalog}
    (start : Session.run .empty before = .ok c) (d : Display) (m : Manner) (input : List Char) :
    ((rawLines input).flatten = input ∧
      (∀ line ∈ rawLines input, line ≠ [] ∧ '\n' ∉ line.dropLast) ∧
      ∀ line ∈ (rawLines input).dropLast, line.getLast? = some '\n') ∧
    heard (rawLines input) ++ unheard (rawLines input) = rawLines input ∧
    ∃ t, d.run m c input = .ok t ∧
      Follows (d.writePrompt m) (d.writeLine m) c (rawLines input) t ∧
      (d.Laws → d.KeepsPrompt m.prompt → KeepsLines d c (session (rawLines input)) →
        Follows m.prompt (asIs d.colors m) c (rawLines input) t) := by
  refine ⟨⟨flatten_rawLines input, Text.of_mem_cutAfter, Text.of_mem_dropLast_cutAfter⟩,
    heard_append_unheard _, ?_⟩
  obtain ⟨c', l, h⟩ := Session.grown before
  obtain rfl := Except.ok.inj (start.symm.trans h.reached)
  obtain ⟨t, conversed, follows⟩ := converse_follows d m h (rawLines input)
  refine ⟨_, Except.bind_eq_ok_iff.mpr ⟨t, conversed, rfl⟩, ?_⟩
  -- only the log knows that the conversation began and ended
  have shown : Follows (d.writePrompt m) (d.writeLine m) c (rawLines input)
      { t with events := [.started] ++ t.events ++ [.stopped t.catalog.size] } :=
    ⟨follows.catalog, follows.unread, follows.output⟩
  exact ⟨shown, shown.plainly⟩

/-- A conversation on a screen that adds a star to a galaxy of an earlier session, complains of
another line, and ends before the last one. -/
theorem conversation_follows_session_to_exit :
    let d := Screen.display true
    let m : Manner := ⟨"> ", true⟩
    let input := "add star [A] [b] 1 2 5500 1\r\n\nprint [B]\n\t exit \nstats".toList
    ∃ c t, Session.run .empty [some "add galaxy [A] spiral nanB"] = .ok c ∧ d.Laws ∧
      d.KeepsPrompt m.prompt ∧ KeepsLines d c (session (rawLines input)) ∧
      d.run m c input = .ok t ∧ Follows "> " (asIs true m) c (rawLines input) t ∧
      t.unread = "stats".toList ∧
      t.output = "> > > \x1b[31mUnknown galaxy: B\x1b[0m\n> " := by
  intro d m input
  let c := Catalog.empty.insert (.galaxy ⟨"A", .spiral, .nan, .billion⟩) none
  have start : Session.run .empty [some "add galaxy [A] spiral nanB"] = .ok c := by decide +kernel
  obtain ⟨-, -, t, ran, -, plainly⟩ := conversation_follows_session start d m input
  have laws : d.Laws := Screen.laws true
  have prompt : d.KeepsPrompt m.prompt :=
    ⟨by decide, codeless_of_no_colon (by decide), .inl (by decide)⟩
  have kept : KeepsLines d c (session (rawLines input)) := by
    intro steps made
    have lines : (Session.steps c (session (rawLines input))).map linesSaid =
        .ok ["Unknown galaxy: B"] := by decide +kernel
    rw [made] at lines
    rw [Except.ok.inj lines]
    rintro l hl
    obtain rfl := List.mem_singleton.mp hl
    exact ⟨by decide, by decide, .inl (by decide)⟩
  have shown : (d.run m c input).map (fun t => (t.unread, t.output)) =
      .ok ("stats".toList, "> > > \x1b[31mUnknown galaxy: B\x1b[0m\n> ") := by decide +kernel
  rw [ran] at shown
  obtain ⟨unread, output⟩ := Prod.mk.inj (Except.ok.inj shown)
  exact ⟨c, t, start, laws, prompt, kept, ran, plainly laws prompt kept, unread, output⟩

/-- A line with a tab is not shown word for word. -/
theorem conversation_changes_tabs :
    let d := Screen.display false
    let m : Manner := ⟨"", false⟩
    let input := "stats a\tb\n".toList
    ∃ t, d.run m .empty input = .ok t ∧ t.output = "Extra input after command: a    b\n" ∧
      ¬Follows m.prompt (asIs d.colors m) .empty (rawLines input) t := by
  intro d m input
  obtain ⟨t, ran⟩ := run_ok d m input
  have shown : (d.run m .empty input).map (·.output) =
      .ok "Extra input after command: a    b\n" := by decide +kernel
  rw [ran] at shown
  have output : t.output = "Extra input after command: a    b\n" := Except.ok.inj shown
  refine ⟨t, ran, output, ?_⟩
  rintro ⟨-, -, steps, answers, made, spoken, verbatim⟩
  have said : (Session.steps .empty (session (rawLines input))).map
      (List.map fun s => answer? (asIs d.colors m) s.effect.payload) =
      .ok (["Extra input after command: a\tb\n"].map some) := by decide +kernel
  rw [made] at said
  have alone := spoken.symm.trans (Except.ok.inj said)
  have answered := List.map_injective_iff.mpr (Option.some_injective String) alone
  rw [answered, output] at verbatim
  revert verbatim
  decide +kernel

end Console

end SkyCatalog
