import SkyCatalog.Proofs.Catalog.Frame
import SkyCatalog.Proofs.Session.Steps

/-!
# Erasure — what failed might as well not have been said

A line either adds one body or leaves the catalog exactly as it was. So the lines of a session
that add nothing can be struck out: the others meet the same catalogs as before, are accepted
again, and lead to the same catalog in the end, with the same handles.
-/

namespace SkyCatalog

variable {c : Catalog} {l : Ledger}

/-! ## §1  Steps -/

/-- A command that does not add leaves the catalog alone; it has something to say, unless it is
nothing or an `exit`. -/
theorem Command.execute_of_tag_ne_add {cmd : Command} (other : cmd.tag ≠ .add) :
    ∃ effect, cmd.execute c = .ok effect ∧ effect.catalog = c ∧
      (effect.payload.isSome ∨ cmd = .nothing ∨ cmd = .exit) := by
  cases cmd with
  | nothing => exact ⟨_, rfl, rfl, .inr (.inl rfl)⟩
  | exit => exact ⟨_, rfl, rfl, .inr (.inr rfl)⟩
  | add => exact absurd rfl other
  | _ => exact ⟨_, rfl, rfl, .inl rfl⟩

/-- A command that adds a body under a recognised parent has something to say, a warning, and
changes nothing, or it says nothing and the catalog gains the body. -/
theorem Catalog.Mirrors.executeAdd_cases (h : c.Mirrors l) {b : Body} {parent : Option (Held Body)}
    {p : Option Nat} (recognised : c.parentHandle parent = .ok p) :
    ∃ effect, (Command.add b parent).execute c = .ok effect ∧
      ((effect.payload.isSome ∧ effect.catalog = c) ∨
        (effect.payload = none ∧ c.Gains b p effect.catalog)) := by
  cases named : c.lookup? b.kind b.name with
  | some i => exact ⟨_, Command.execute_add_of_taken named parent, .inl ⟨rfl, rfl⟩⟩
  | none =>
      refine ⟨_, Command.execute_add_of_fresh named recognised, .inr ⟨rfl, ?_⟩⟩
      exact h.gains named (h.parentHandle_lt recognised)

namespace Session

/-- A line of white space only. -/
def IsBlank (line : Option String) : Prop :=
  ∃ text, line = some text ∧ Text.allBlank text.toList = true

theorem parse_eq_nothing_iff {line : Option String} :
    Command.parse c line = .nothing ↔ IsBlank line := by
  cases line with
  | none =>
      constructor
      · intro h
        cases h
      · rintro ⟨text, h, -⟩
        cases h
  | some text =>
      constructor
      · intro h
        exact ⟨text, rfl, Reading.command_ofLine_eq_nothing_iff.mp h⟩
      · rintro ⟨text, ⟨⟩, blank⟩
        exact Reading.command_ofLine_eq_nothing_iff.mpr blank

/-- A step is idle: it has something to say, or there was nothing on the line, or the line asked
for the end. -/
def Idle (line : Option String) (s : Step) : Prop :=
  s.effect.payload.isSome ∨ IsBlank line ∨ s.command = .exit

/-- **The two ends of a step.** It is idle and leaves the catalog alone, or it adds the body of its
command, under the parent of its command. -/
theorem step_cases (h : c.Mirrors l) (line : Option String) :
    ∃ s, step c line = .ok s ∧
      ((s.adds = false ∧ Idle line s ∧ s.effect.catalog = c) ∨
        (s.adds = true ∧ ¬Idle line s ∧ ∃ b parent p, s.command = .add b parent ∧
          c.parentHandle parent = .ok p ∧ c.Gains b p s.effect.catalog)) := by
  by_cases add : (Command.parse c line).tag = .add
  · obtain ⟨b, parent, parsed⟩ : ∃ b parent, Command.parse c line = .add b parent := by
      cases parsed : Command.parse c line with
      | add b parent => exact ⟨b, parent, rfl⟩
      | _ => simp [parsed, Command.tag] at add
    obtain ⟨text, ph, ts, rfl, said, spaced, asks⟩ := Command.said_of_parse parsed
    -- a parent that was looked up is recognised, so only the name can be in the way
    obtain ⟨p, recognised, -, -⟩ := h.parentHandle_of_asks asks
    obtain ⟨effect, executed, ⟨warned, same⟩ | ⟨silent, gains⟩⟩ :=
      h.executeAdd_cases recognised
    all_goals
      rw [← parsed] at executed
      refine ⟨_, step_eq_ok executed, ?_⟩
    · exact .inl ⟨by simp [Step.adds, warned], .inl warned, same⟩
    · refine .inr ⟨by simp [Step.adds, add, silent], ?_, b, parent, p, parsed, recognised, gains⟩
      rintro (warned | blank | exits)
      · rw [silent] at warned
        cases warned
      · cases parsed.symm.trans (parse_eq_nothing_iff.mpr blank)
      · cases parsed.symm.trans exits
  · obtain ⟨effect, executed, same, idle⟩ := Command.execute_of_tag_ne_add (c := c) add
    refine ⟨_, step_eq_ok executed, .inl ⟨by simp [Step.adds, add], ?_, same⟩⟩
    exact idle.imp_right (Or.imp_left parse_eq_nothing_iff.mp)

/-! ## §2  Sessions -/

/-- From a catalog that can come about, every session can be made. -/
theorem exists_steps (h : c.Reachable) (lines : List (Option String)) :
    ∃ made, steps c lines = .ok made := by
  induction lines generalizing c with
  | nil => exact ⟨[], rfl⟩
  | cons line lines ih =>
      obtain ⟨l, m⟩ := h.mirrors
      obtain ⟨s, stepped, -⟩ := step_cases m line
      obtain ⟨later, rest⟩ := ih (h.line (next_of_step stepped))
      exact ⟨s :: later, steps_cons_iff.mpr ⟨s, later, stepped, rest, rfl⟩⟩

theorem accepted_cons_of_adds {line : Option String} {s : Step} (stepped : step c line = .ok s)
    (adds : s.adds = true) (lines : List (Option String)) :
    accepted c (line :: lines) = line :: accepted s.effect.catalog lines := by
  simp only [accepted, stepped, adds, if_true]

theorem accepted_cons_of_idle {line : Option String} {s : Step} (stepped : step c line = .ok s)
    (idle : s.adds = false) (lines : List (Option String)) :
    accepted c (line :: lines) = accepted s.effect.catalog lines := by
  simp [accepted, stepped, idle]

theorem accepted_sublist (lines : List (Option String)) : (accepted c lines).Sublist lines := by
  induction lines generalizing c with
  | nil => exact .slnil
  | cons line lines ih =>
      unfold accepted
      split
      · split
        · exact ih.cons_cons line
        · exact ih.cons line
      · exact ih.cons line

/-- **Erasure.** A session and what is left of it without its idle lines lead to one catalog, and
of the lines that are left none is idle. -/
theorem run_accepted (h : c.Reachable) (lines : List (Option String)) :
    ∃ c', run c lines = .ok c' ∧ run c (accepted c lines) = .ok c' ∧
      accepted c (accepted c lines) = accepted c lines ∧
      c'.size = c.size + (accepted c lines).length := by
  -- an idle line is struck out where it stands; any other line moves both sessions on alike
  induction lines generalizing c with
  | nil => exact ⟨c, rfl, rfl, rfl, rfl⟩
  | cons line lines ih =>
      obtain ⟨l, m⟩ := h.mirrors
      obtain ⟨s, stepped, ⟨idle, -, same⟩ | ⟨adds, -, b, parent, p, -, -, gains⟩⟩ :=
        step_cases m line
      · rw [run_cons stepped, accepted_cons_of_idle stepped idle, same]
        exact ih h
      · obtain ⟨c', whole, kept, again, size⟩ := ih (h.line (next_of_step stepped))
        refine ⟨c', ?_, ?_, ?_, ?_⟩
        · rw [run_cons stepped, whole]
        · rw [accepted_cons_of_adds stepped adds, run_cons stepped, kept]
        · rw [accepted_cons_of_adds stepped adds, accepted_cons_of_adds stepped adds, again]
        · have grown : s.effect.catalog.size = c.size + 1 := by
            simp [Catalog.size, gains.bodies]
          rw [accepted_cons_of_adds stepped adds, size, grown, List.length_cons]
          omega

end Session

/-! ## §3  The theorem -/

/-- **Failures leave no trace.** In every catalog that can come about, storing a body ends in a
fault with the catalog as it was, or the catalog gains this body under the handle of its parent
and nothing else is changed. A line adds a body exactly when it is not idle; an idle line leaves
the catalog as it was, and any other one makes it gain the body of its command. So every session
leads to the same catalog when the lines that add nothing are struck out. -/
theorem failures_leave_no_trace {c : Catalog} (h : c.Reachable) :
    (∀ body parent,
      (∃ fault, (Catalog.store body parent).run.run c = (.error fault, c)) ∨
      ∃ p c', c.parentHandle parent = .ok p ∧
        (Catalog.store body parent).run.run c = (.ok c.size, c') ∧ c.Gains body p c') ∧
    (∀ line, ∃ s, Session.step c line = .ok s ∧
      (s.adds = false ↔ Session.Idle line s) ∧
      (s.adds = false → s.effect.catalog = c) ∧
      (s.adds = true → ∃ b parent p, s.command = .add b parent ∧
        c.parentHandle parent = .ok p ∧ c.Gains b p s.effect.catalog)) ∧
    ∀ lines, ∃ c', Session.run c lines = .ok c' ∧
      Session.run c (Session.accepted c lines) = .ok c' ∧
      Session.accepted c (Session.accepted c lines) = Session.accepted c lines ∧
      (Session.accepted c lines).Sublist lines ∧
      c'.size = c.size + (Session.accepted c lines).length := by
  obtain ⟨l, m⟩ := h.mirrors
  refine ⟨m.store_frame, ?_, ?_⟩
  · intro line
    obtain ⟨s, stepped, ⟨nothing, idle, same⟩ | ⟨adds, busy, added⟩⟩ := Session.step_cases m line
    · refine ⟨s, stepped, by simp [nothing, idle], fun _ => same, ?_⟩
      intro adds
      rw [nothing] at adds
      cases adds
    · refine ⟨s, stepped, by simp [adds, busy], ?_, fun _ => added⟩
      intro nothing
      rw [adds] at nothing
      cases nothing
  · intro lines
    obtain ⟨c', whole, kept, again, size⟩ := Session.run_accepted h lines
    exact ⟨c', whole, kept, again, Session.accepted_sublist lines, size⟩

/-- A session with a galaxy of no known type, a blank line, a parent that is not there, a listing
and the end of the input between the two lines that add. -/
theorem failures_leave_no_trace_between_additions :
    let first := some "add galaxy [A] spiral 1B"
    let last := some "add star [A] [b] 1 2 5500 1"
    ∃ c, Session.run .empty [first, some "add galaxy [A] ring 2M", some " ",
        some "add moon [A] [m]", some "list galaxies", none, last, some "print [A]"] = .ok c ∧
      Session.run .empty [first, last] = .ok c ∧ c.size = 2 := by
  intro first last
  obtain ⟨c, whole, kept, -, -, size⟩ := (failures_leave_no_trace .empty).2.2 [first,
    some "add galaxy [A] ring 2M", some " ", some "add moon [A] [m]", some "list galaxies", none,
    last, some "print [A]"]
  have left : Session.accepted .empty [first, some "add galaxy [A] ring 2M", some " ",
      some "add moon [A] [m]", some "list galaxies", none, last, some "print [A]"] =
      [first, last] := by decide +kernel
  rw [left] at kept size
  exact ⟨c, whole, kept, size⟩

end SkyCatalog
