import Mathlib.Data.List.Induction
import SkyCatalog.Proofs.Catalog.Refinement
import SkyCatalog.Proofs.Command.Acceptance
import SkyCatalog.Session

/-!
# Steps — what one line can do to a catalog

A line changes the catalog only by adding a body, and then its tokens say so: they describe the
body and name its parent, and the parent is stored under this name with the kind that belongs
above the body. The catalog does not ask for this kind; that it is right follows from what the
phrases look up. A parent that was looked up is always recognised, so no step ever breaks off.
-/

namespace SkyCatalog

open Grammar

variable {c : Catalog} {l : Ledger}

/-! ## §1  Commands that add -/

/-- What a phrase looks up before it adds: nothing for a galaxy, and for any other body the parent
that it names, among the bodies of the kind above. -/
theorem Grammar.Asks.parent_cases {ph : Phrase} {b : Body} {parent : Option (Held Body)}
    (h : Asks c ph (.add b parent)) :
    (b.kind.parent? = none ∧ ph.parentName? = none ∧ parent = none) ∨
    ∃ k n x, b.kind.parent? = some k ∧ ph.parentName? = some n ∧ parent = some x ∧
      c.fetch? k n = some x := by
  cases h with
  | addGalaxy => exact .inl ⟨rfl, rfl, rfl⟩
  | addStar stored _ => exact .inr ⟨_, _, _, rfl, rfl, rfl, stored⟩
  | addPlanet stored => exact .inr ⟨_, _, _, rfl, rfl, rfl, stored⟩
  | addMoon stored => exact .inr ⟨_, _, _, rfl, rfl, rfl, stored⟩

/-- The entry of a parent that was found has the kind and the name that it was looked up by. -/
theorem Catalog.Mirrors.parentHandle_of_asks (h : c.Mirrors l) {ph : Phrase} {b : Body}
    {parent : Option (Held Body)} (asks : Asks c ph (.add b parent)) :
    ∃ p, c.parentHandle parent = .ok p ∧
      (l.parentOf? ⟨b, p⟩).map (·.body.kind) = b.kind.parent? ∧
      (l.parentOf? ⟨b, p⟩).map (·.body.name) = ph.parentName? := by
  rcases asks.parent_cases with ⟨root, unnamed, rfl⟩ | ⟨k, n, x, above, named, rfl, found⟩
  · exact ⟨none, rfl, root.symm, unnamed.symm⟩
  · obtain ⟨i, origin, stored, rfl, rfl⟩ := h.fetch?_eq_some_iff.mp found
    refine ⟨some i, by simp [Catalog.parentHandle, h.handleOf?_of_held origin stored], ?_, ?_⟩
    · have kinds := congrArg (Option.map Body.kind) ((h.getElem?_bodies i).symm.trans stored)
      rw [above]
      simpa [Ledger.parentOf?] using kinds
    · have names := congrArg (Option.map Body.name) ((h.getElem?_bodies i).symm.trans stored)
      rw [named]
      simpa [Ledger.parentOf?] using names

/-- A parent that was found is the body at its handle, just as it is taken out. -/
theorem Catalog.Mirrors.held_of_asks (h : c.Mirrors l) {ph : Phrase} {b : Body}
    {parent : Option (Held Body)} {p : Option Nat} (asks : Asks c ph (.add b parent))
    (under : c.parentHandle parent = .ok p) : parent = p.bind c.held? := by
  rcases asks.parent_cases with ⟨-, -, rfl⟩ | ⟨k, n, x, -, -, rfl, found⟩
  · obtain rfl := Except.ok.inj under
    rfl
  · obtain ⟨i, origin, stored, -, -⟩ := h.fetch?_eq_some_iff.mp found
    simp only [Catalog.parentHandle, h.handleOf?_of_held origin stored] at under
    obtain rfl := Except.ok.inj under
    obtain ⟨value, _⟩ := x
    obtain rfl := origin
    rw [Option.bind_some, Catalog.held?, stored, Option.map_some]

/-- A command to add that a line comes to is asked for by a phrase that the tokens of the line
say. -/
theorem Command.said_of_parse {line : Option String} {b : Body} {parent : Option (Held Body)}
    (h : Command.parse c line = .add b parent) :
    ∃ text ph ts, line = some text ∧ Says ph ts ∧ Spaced ts text.toList ∧
      Asks c ph (.add b parent) := by
  cases line with
  | none => cases h
  | some text =>
      have accepted := Reading.accepted_of_command h nofun nofun
      obtain ⟨ph, ts, said, spaced, asks⟩ := Reading.ofLine_eq_accepted_iff.mp accepted
      exact ⟨text, ph, ts, rfl, said, spaced, asks⟩

/-- A body whose name is free is added when its parent is recognised. -/
theorem Command.execute_add_of_fresh {b : Body} {parent : Option (Held Body)} {p : Option Nat}
    (fresh : c.lookup? b.kind b.name = none) (under : c.parentHandle parent = .ok p) :
    (Command.add b parent).execute c = .ok
      { catalog := c.insert b p
        events := [.added (Catalog.mention b c.size) (c.parentMention parent)] } := by
  rw [Command.execute_add, Command.executeAdd, Catalog.put_of_fresh fresh under]

/-- A body whose name is taken makes a warning. -/
theorem Command.execute_add_of_taken {b : Body} {i : Nat}
    (taken : c.lookup? b.kind b.name = some i) (parent : Option (Held Body)) :
    (Command.add b parent).execute c = .ok
      { catalog := c
        payload := some (.notice (AddFault.duplicate b.kind b.name).message .warning)
        events := [.duplicate b.kind b.name] } := by
  rw [Command.execute_add, Command.executeAdd, Catalog.put_of_taken taken]

/-- An addition that is executed has come to one of these two ends. -/
theorem Command.execute_add_cases {b : Body} {parent : Option (Held Body)} {effect : Effect}
    (executed : (Command.add b parent).execute c = .ok effect) :
    (∃ p, c.lookup? b.kind b.name = none ∧ c.parentHandle parent = .ok p ∧ effect =
      { catalog := c.insert b p
        events := [.added (Catalog.mention b c.size) (c.parentMention parent)] }) ∨
    effect =
      { catalog := c
        payload := some (.notice (AddFault.duplicate b.kind b.name).message .warning)
        events := [.duplicate b.kind b.name] } := by
  rcases c.put_cases b parent with ⟨i, taken, -⟩ | ⟨-, x, -, -, e⟩ | ⟨fresh, p, under, -⟩
  · rw [execute_add_of_taken taken] at executed
    exact .inr (Except.ok.inj executed).symm
  · rw [execute_add, executeAdd, e] at executed
    cases executed
  · rw [execute_add_of_fresh fresh under] at executed
    exact .inl ⟨p, fresh, under, (Except.ok.inj executed).symm⟩

/-! ## §2  Steps -/

namespace Session

/-- A line adds a body under a position: its tokens say a phrase that describes the body, the
name is free, and the parent stands where the phrase names it and is of the kind above. -/
structure Adds (c : Catalog) (l : Ledger) (line : Option String) (ph : Phrase) (b : Body)
    (p : Option Nat) : Prop where
  said : ∃ text ts, line = some text ∧ Says ph ts ∧ Spaced ts text.toList
  asks : ∃ parent, Asks c ph (.add b parent)
  fresh : c.lookup? b.kind b.name = none
  stored : ∀ i, p = some i → i < c.size
  parentKind : (l.parentOf? ⟨b, p⟩).map (·.body.kind) = b.kind.parent?
  parentName : (l.parentOf? ⟨b, p⟩).map (·.body.name) = ph.parentName?

theorem Adds.mirrors {line : Option String} {ph : Phrase} {b : Body} {p : Option Nat}
    (adds : Adds c l line ph b p) (h : c.Mirrors l) : (c.insert b p).Mirrors (l.append b p) :=
  h.insert adds.fresh adds.stored

/-- A line whose command is executed makes a step with the same effect. -/
theorem step_eq_ok {line : Option String} {effect : Effect}
    (h : (Command.parse c line).execute c = .ok effect) :
    step c line = .ok ⟨Command.parse c line, effect,
      (Reading.of c line).events line ++ effect.events⟩ := by
  show ((Command.parse c line).execute c).map _ = _
  rw [h]
  rfl

/-- A step executes the command that its line comes to. -/
theorem executed_of_step {line : Option String} {s : Step} (h : step c line = .ok s) :
    s.command = Command.parse c line ∧ (Command.parse c line).execute c = .ok s.effect := by
  change ((Command.parse c line).execute c).map _ = _ at h
  cases executed : (Command.parse c line).execute c with
  | error fault =>
      rw [executed] at h
      cases h
  | ok effect =>
      rw [executed] at h
      obtain rfl := Except.ok.inj h
      exact ⟨rfl, rfl⟩

/-- A step logs what reading its line logs, and then what its command logs. -/
theorem events_of_step {line : Option String} {s : Step} (h : step c line = .ok s) :
    s.events = (Reading.of c line).events line ++ s.effect.events := by
  rw [step_eq_ok (executed_of_step h).2] at h
  rw [← Except.ok.inj h]

theorem next_eq_ok {line : Option String} {effect : Effect}
    (h : (Command.parse c line).execute c = .ok effect) : next c line = .ok effect.catalog := by
  rw [next, step_eq_ok h]
  rfl

/-- **What a command from a line does.** It is executed, and leaves the catalog as it is or adds
a body to it. -/
theorem execute_cases (h : c.Mirrors l) (line : Option String) :
    ∃ effect, (Command.parse c line).execute c = .ok effect ∧
      (effect.catalog = c ∨ ∃ ph b p, Adds c l line ph b p ∧ effect.catalog = c.insert b p) := by
  cases parsed : Command.parse c line with
  | add b parent =>
      obtain ⟨text, ph, ts, rfl, said, spaced, asks⟩ := Command.said_of_parse parsed
      obtain ⟨p, recognised, kinds, names⟩ := h.parentHandle_of_asks asks
      cases named : c.lookup? b.kind b.name with
      | some i => exact ⟨_, Command.execute_add_of_taken named parent, .inl rfl⟩
      | none =>
          refine ⟨_, Command.execute_add_of_fresh named recognised, .inr ⟨ph, b, p, ?_, rfl⟩⟩
          exact ⟨⟨text, ts, rfl, said, spaced⟩, ⟨parent, asks⟩, named,
            h.parentHandle_lt recognised, kinds, names⟩
  | _ => exact ⟨_, rfl, .inl rfl⟩

theorem next_of_step {line : Option String} {s : Step} (stepped : step c line = .ok s) :
    next c line = .ok s.effect.catalog := by
  rw [next, stepped]
  rfl

theorem run_cons {line : Option String} {s : Step} (stepped : step c line = .ok s)
    (lines : List (Option String)) : run c (line :: lines) = run s.effect.catalog lines := by
  show next c line >>= _ = _
  rw [next_of_step stepped]
  rfl

/-- The steps of a session are the step of its first line and those of the session from there. -/
theorem steps_cons_iff {line : Option String} {lines : List (Option String)} {made : List Step} :
    steps c (line :: lines) = .ok made ↔
      ∃ s later, step c line = .ok s ∧ steps s.effect.catalog lines = .ok later ∧
        made = s :: later := by
  constructor
  · intro h
    obtain ⟨s, stepped, rest⟩ := Except.bind_eq_ok_iff.mp h
    obtain ⟨later, made, same⟩ := Except.bind_eq_ok_iff.mp rest
    exact ⟨s, later, stepped, made, (Except.ok.inj same).symm⟩
  · rintro ⟨s, later, stepped, made, rfl⟩
    apply Except.bind_eq_ok_iff.mpr
    exact ⟨s, stepped, Except.bind_eq_ok_iff.mpr ⟨later, made, rfl⟩⟩

theorem run_snoc {d e : Catalog} {lines : List (Option String)} {line : Option String}
    (before : run c lines = .ok d) (after : next d line = .ok e) :
    run c (lines ++ [line]) = .ok e := by
  rw [run_append, before]
  show run d [line] = .ok e
  simp [run, after]

/-- A line is accepted as the addition of a body under a parent, and this is the step. -/
structure Accepts (c : Catalog) (line : Option String) (b : Body) (parent : Option (Held Body))
    (s : Step) : Prop where
  stepped : step c line = .ok s
  command : s.command = .add b parent
  adds : s.adds = true

variable {line : Option String} {b : Body} {parent : Option (Held Body)}

theorem Accepts.parsed {s : Step} (h : Accepts c line b parent s) :
    Command.parse c line = .add b parent :=
  (executed_of_step h.stepped).1.symm.trans h.command

/-- A body is added when its name is free and its parent is recognised. -/
theorem accepts_of_fresh {p : Option Nat} (parsed : Command.parse c line = .add b parent)
    (fresh : c.lookup? b.kind b.name = none) (under : c.parentHandle parent = .ok p) :
    ∃ s, Accepts c line b parent s ∧ s.effect.catalog = c.insert b p ∧
      s.effect.keepRunning = true ∧ s.effect.payload = none := by
  have executed := Command.execute_add_of_fresh fresh under
  rw [← parsed] at executed
  refine ⟨_, ⟨step_eq_ok executed, parsed, ?_⟩, rfl, rfl, rfl⟩
  simp [Step.adds, parsed, Command.tag]

/-- What an accepted line has done: the name of its body was free, its parent, if it has one, was
taken out of the catalog, and the body was put in under the handle of the parent. -/
structure Inserts (c : Catalog) (line : Option String) (b : Body) (parent : Option (Held Body))
    (p : Option Nat) (s : Step) : Prop extends Accepts c line b parent s where
  fresh : c.lookup? b.kind b.name = none
  held : parent = p.bind c.held?
  under : c.parentHandle parent = .ok p
  catalog : s.effect.catalog = c.insert b p

/-- **A line that is accepted puts its body in.** -/
theorem Accepts.inserts {s : Step} (m : c.Mirrors l) (h : Accepts c line b parent s) :
    ∃ p, Inserts c line b parent p s := by
  obtain ⟨text, ph, ts, -, -, -, asks⟩ := Command.said_of_parse h.parsed
  have executed := (executed_of_step h.stepped).2
  rw [h.parsed] at executed
  have silent : s.effect.payload = none := by simpa [Step.adds, h.command, Command.tag] using h.adds
  rcases Command.execute_add_cases executed with ⟨p, fresh, under, added⟩ | warned
  · exact ⟨p, h, fresh, m.held_of_asks asks under, under, by rw [added]⟩
  · -- a duplicate has a warning to say
    rw [warned] at silent
    cases silent

/-- A body whose name is taken makes a warning, and nothing else. -/
theorem step_of_taken {i : Nat} (parsed : Command.parse c line = .add b parent)
    (taken : c.lookup? b.kind b.name = some i) :
    ∃ s, step c line = .ok s ∧ s.effect.catalog = c ∧ s.effect.keepRunning = true ∧
      s.effect.payload = some (.notice (AddFault.duplicate b.kind b.name).message .warning) := by
  have executed := Command.execute_add_of_taken taken parent
  rw [← parsed] at executed
  exact ⟨_, step_eq_ok executed, rfl, rfl, rfl⟩

end Session

/-! ## §3  Catalogs that come about -/

/-- A catalog that has come about stands beside a ledger, however it was made. -/
theorem Catalog.Reachable.mirrors {c : Catalog} (h : c.Reachable) : ∃ l, c.Mirrors l := by
  induction h with
  | empty => exact ⟨.empty, Catalog.mirrors_empty⟩
  | put _ body parent ih =>
      obtain ⟨l, m⟩ := ih
      exact ⟨_, (m.step ⟨body, parent⟩).2⟩
  | @line c c' line _ stepped ih =>
      obtain ⟨l, m⟩ := ih
      obtain ⟨effect, executed, same | ⟨ph, b, p, adds, added⟩⟩ := Session.execute_cases m line
      · obtain rfl := Except.ok.inj (stepped.symm.trans (Session.next_eq_ok executed))
        exact ⟨l, same ▸ m⟩
      · obtain rfl := Except.ok.inj (stepped.symm.trans (Session.next_eq_ok executed))
        exact ⟨_, added ▸ adds.mirrors m⟩

end SkyCatalog
