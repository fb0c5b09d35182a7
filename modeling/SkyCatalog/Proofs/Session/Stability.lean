import SkyCatalog.Proofs.Catalog.Extension
import SkyCatalog.Proofs.Session.Erasure

/-!
# Stability — commands do not go stale

Of all the checks that a line meets, one looks at the catalog: whether the body that it names is
stored. A catalog keeps what it has, so a name that was found is found again, and it is the same
body at the same handle. Every other outcome of reading depends on the line alone. A command that
is kept and executed later therefore does what reading its line later would do; only a complaint
about a name that was not stored can become something else, and only by storing it.
-/

namespace SkyCatalog

variable {c c' : Catalog} {l : Ledger}

/-! ## §1  Later catalogs -/

namespace Catalog

theorem LeadsTo.reachable (later : c.LeadsTo c') (h : c.Reachable) : c'.Reachable := by
  induction later with
  | refl => exact h
  | put _ body parent ih => exact ih.put body parent
  | line _ stepped ih => exact ih.line stepped

/-- **A later catalog has everything that the earlier one has**, whichever way it came about. -/
theorem LeadsTo.extends (later : c.LeadsTo c') (h : c.Reachable) : c.Extends c' := by
  induction later with
  | refl => exact .refl c
  | put before body parent ih =>
      obtain ⟨l, m⟩ := (before.reachable h).mirrors
      exact ih.trans (m.extends_put body parent)
  | @line d e line before stepped ih =>
      obtain ⟨l, m⟩ := (before.reachable h).mirrors
      obtain ⟨s, made, ends⟩ := Session.step_cases m line
      obtain rfl := Except.ok.inj (stepped.symm.trans (Session.next_of_step made))
      rcases ends with ⟨-, -, same⟩ | ⟨-, -, b, parent, p, -, -, gains⟩
      · rw [same]
        exact ih
      · exact ih.trans gains.extends

end Catalog

/-- A session leads from its first catalog to its last. -/
theorem Session.leadsTo_of_run {lines : List (Option String)} (h : run c lines = .ok c') :
    c.LeadsTo c' := by
  induction lines using List.reverseRecOn generalizing c' with
  | nil =>
      obtain rfl := Except.ok.inj h
      exact .refl
  | append_singleton lines line ih =>
      rw [run_append] at h
      obtain ⟨d, before, last⟩ := Except.bind_eq_ok_iff.mp h
      obtain ⟨e, stepped, same⟩ := Except.bind_eq_ok_iff.mp last
      obtain rfl := Except.ok.inj same
      exact (ih before).line stepped

/-! ## §2  Names looked up -/

namespace Phrase

/-- The kind and the name of the stored body that a phrase refers to, if it refers to one. -/
def reference? : Phrase → Option (Kind × String)
  | addStar parent .. => some (.galaxy, parent)
  | addPlanet parent _ => some (.star, parent)
  | addMoon parent _ => some (.planet, parent)
  | print name => some (.galaxy, name)
  | _ => none

/-- **The reference of a phrase is all that is looked up for it.** -/
theorem resolve_congr {ph : Phrase}
    (same : ∀ k n, ph.reference? = some (k, n) → c'.fetch? k n = c.fetch? k n) :
    ph.resolve c' = ph.resolve c := by
  cases ph with
  | addStar parent => simp only [resolve, refer, same .galaxy parent rfl]
  | addPlanet parent => simp only [resolve, refer, same .star parent rfl]
  | addMoon parent => simp only [resolve, refer, same .planet parent rfl]
  | print name => simp only [resolve, refer, same .galaxy name rfl]
  | _ => rfl

/-- A phrase whose reference is not stored is refused for it. -/
theorem resolve_of_not_fetched {ph : Phrase} {k : Kind} {n : String}
    (refers : ph.reference? = some (k, n)) (unknown : c.fetch? k n = none) :
    ph.resolve c = .error (.unknownReference k n) := by
  cases ph with
  | addStar | addPlanet | addMoon | print =>
      obtain ⟨rfl, rfl⟩ := Prod.mk.inj (Option.some.inj refers)
      simp only [resolve, refer, unknown]
      rfl
  | _ => cases refers

end Phrase

/-! ## §3  Lines read later -/

/-- **Reading is stable.** A line is read as before, unless it was refused for a name that has been
stored since. -/
theorem Reading.of_extends (h : c.Extends c') {line : Option String}
    (settled : ∀ k n, Reading.of c line = .refused (.unknownReference k n) →
      c'.find? k n = none) : Reading.of c' line = Reading.of c line := by
  cases line with
  | none => rfl
  | some text =>
      simp only [Reading.of, Reading.ofLine] at settled ⊢
      cases taken : Token.word? text.toList with
      | none => rfl
      | some first =>
          obtain ⟨w, rest⟩ := first
          simp only [taken] at settled ⊢
          cases verb : Form.ofVerb? (String.ofList w) with
          | none => rfl
          | some form =>
              simp only [verb, Reading.ofForm] at settled ⊢
              cases found : form.read rest with
              | error fault => rfl
              | ok read =>
                  obtain ⟨ph, r⟩ := read
                  simp only [found] at settled ⊢
                  have same : ph.resolve c' = ph.resolve c := by
                    apply Phrase.resolve_congr
                    intro k n refers
                    cases known : c.fetch? k n with
                    | some x => exact h.found k n x known
                    | none =>
                        -- the line was refused for this name, and the name is free still
                        have refused := Phrase.resolve_of_not_fetched refers known
                        simp only [refused] at settled
                        exact Catalog.find?_eq_none_iff.mp (settled k n rfl)
                  rw [same]

/-- The outcome of a line that was not refused for an unknown name is the same later. -/
theorem Reading.of_extends_of_ne (h : c.Extends c') {line : Option String}
    (known : ∀ k n, Reading.of c line ≠ .refused (.unknownReference k n)) :
    Reading.of c' line = Reading.of c line :=
  Reading.of_extends h fun k n refused => absurd refused (known k n)

/-- A command other than a complaint was not refused for anything. -/
theorem Reading.ne_refused_of_tag {r : Reading} (content : r.command.tag ≠ .complain)
    (fault : SyntaxFault) : r ≠ .refused fault := by
  rintro rfl
  exact content rfl

theorem Command.parse_of_extends (h : c.Extends c') {line : Option String}
    (content : (Command.parse c line).tag ≠ .complain) :
    Command.parse c' line = Command.parse c line := by
  apply congrArg Reading.command
  exact Reading.of_extends_of_ne h fun k n => Reading.ne_refused_of_tag content _

/-! ## §4  Commands executed later -/

/-- What reading made of a line can be executed at any later catalog. -/
theorem Command.execute_later (h : c.Extends c') (m : c'.Mirrors l) (line : Option String) :
    ∃ effect, (Command.parse c line).execute c' = .ok effect := by
  by_cases complains : (Command.parse c line).tag = .complain
  · have other : (Command.parse c line).tag ≠ .add := by simp [complains]
    obtain ⟨effect, executed, -⟩ := Command.execute_of_tag_ne_add (c := c') other
    exact ⟨effect, executed⟩
  · obtain ⟨effect, executed, -⟩ := Session.execute_cases m line
    rw [Command.parse_of_extends h complains] at executed
    exact ⟨effect, executed⟩

/-- The catalog gains what a line has put in. -/
theorem Session.Inserts.gains (m : c.Mirrors l) {line : Option String} {b : Body}
    {parent : Option (Held Body)} {p : Option Nat} {s : Step}
    (h : Session.Inserts c line b parent p s) : c.Gains b p s.effect.catalog := by
  rw [h.catalog]
  exact m.gains h.fresh (m.parentHandle_lt h.under)

/-- An addition that was accepted is still what its line comes to. -/
theorem Session.Accepts.parsed_later (h : c.Extends c') {line : Option String} {b : Body}
    {parent : Option (Held Body)} {s : Step} (accepts : Session.Accepts c line b parent s) :
    Command.parse c' line = .add b parent := by
  rw [← accepts.parsed]
  apply Command.parse_of_extends h
  rw [accepts.parsed]
  exact nofun

/-- A line that is accepted could be said later, as long as the name of its body is free. -/
theorem Session.Inserts.later (h : c.Extends c') {line : Option String} {b : Body}
    {parent : Option (Held Body)} {p : Option Nat} {s : Step}
    (inserts : Session.Inserts c line b parent p s) (free : c'.lookup? b.kind b.name = none) :
    ∃ s', Session.Accepts c' line b parent s' ∧ s'.effect.catalog = c'.insert b p := by
  have parsed := inserts.parsed_later h
  obtain ⟨s', accepts, catalog, -⟩ :=
    Session.accepts_of_fresh parsed free (h.parentHandle inserts.under)
  exact ⟨s', accepts, catalog⟩

/-! ## §5  The theorem -/

/-- **Commands never go stale.** Whatever a catalog has become since a line was read, through lines
or directly: a command other than a complaint is what the line still comes to, held bodies and
handles included; so is a complaint, unless it was made of a name that has been stored since. The
command can be executed at the later catalog, and unless it complains of an unknown name, its
effect there is that of the line itself. -/
theorem commands_never_stale {c c' : Catalog} (h : c.Reachable) (later : c.LeadsTo c')
    (line : Option String) :
    (∀ cmd, Command.parse c line = cmd → cmd.tag ≠ .complain → Command.parse c' line = cmd) ∧
    (∀ message, Command.parse c line = .complain message →
      (∀ k n, Reading.of c line ≠ .refused (.unknownReference k n)) →
      Command.parse c' line = .complain message) ∧
    (∀ k n, Reading.of c line = .refused (.unknownReference k n) → c'.find? k n = none →
      Command.parse c' line = Command.parse c line) ∧
    ∃ effect, (Command.parse c line).execute c' = .ok effect ∧
      ((∀ k n, Reading.of c line ≠ .refused (.unknownReference k n)) →
        ∃ s, Session.step c' line = .ok s ∧ s.command = Command.parse c line ∧
          s.effect = effect) := by
  have kept := later.extends h
  obtain ⟨l, m⟩ := (later.reachable h).mirrors
  refine ⟨?_, ?_, ?_, ?_⟩
  · rintro cmd rfl content
    exact Command.parse_of_extends kept content
  · intro message complains known
    rw [← complains]
    exact congrArg Reading.command (Reading.of_extends_of_ne kept known)
  · intro k n refused unknown
    apply congrArg Reading.command
    apply Reading.of_extends kept
    intro k' n' refused'
    obtain ⟨rfl, rfl⟩ := SyntaxFault.unknownReference.inj
      (Reading.refused.inj (refused.symm.trans refused'))
    exact unknown
  · obtain ⟨effect, executed⟩ := Command.execute_later kept m line
    refine ⟨effect, executed, ?_⟩
    intro known
    have same : Command.parse c' line = Command.parse c line :=
      congrArg Reading.command (Reading.of_extends_of_ne kept known)
    rw [← same] at executed
    exact ⟨_, Session.step_eq_ok executed, same, rfl⟩

/-- A galaxy without a numerical age is still the one to print, and the one to add a star under,
after a star of the same name was added under it directly; its own name is not that of a galaxy. -/
theorem commands_never_stale_after_addition :
    let galaxy : Galaxy := ⟨"A", .spiral, .nan, .billion⟩
    let star : Body := .star ⟨"B", 1.0, 2.0, 5500, 1.0, .g⟩
    let c := Catalog.empty.insert (.galaxy galaxy) none
    let c' := c.insert star (some 0)
    c.Reachable ∧ c.LeadsTo c' ∧
      Command.parse c' (some "print [A]") = .print ⟨galaxy, some 0⟩ ∧
      Command.parse c' (some "print [B]") = .complain "Unknown galaxy: B" ∧
      ∃ effect s, (Command.parse c (some "add star [A] [B] 1 2 5500 1")).execute c' = .ok effect ∧
        Session.step c' (some "add star [A] [B] 1 2 5500 1") = .ok s ∧ s.effect = effect := by
  intro galaxy star c c'
  have second : (c.put star (some ⟨.galaxy galaxy, some 0⟩)).1 = c' := by decide +kernel
  have reachable : c.Reachable := .put .empty (.galaxy galaxy) none
  have later : c.LeadsTo c' := second ▸ .put .refl star (some ⟨.galaxy galaxy, some 0⟩)
  have stale := commands_never_stale reachable later
  refine ⟨reachable, later, ?_, ?_, ?_⟩
  · exact (stale (some "print [A]")).1 _ (by decide +kernel) nofun
  · have unknown : Reading.of c (some "print [B]") = .refused (.unknownReference .galaxy "B") := by
      decide +kernel
    rw [(stale (some "print [B]")).2.2.1 .galaxy "B" unknown (by decide +kernel)]
    decide +kernel
  · obtain ⟨effect, executed, again⟩ := (stale (some "add star [A] [B] 1 2 5500 1")).2.2.2
    have read : Reading.of c (some "add star [A] [B] 1 2 5500 1") =
        .accepted (.add star (some ⟨.galaxy galaxy, some 0⟩)) := by decide +kernel
    obtain ⟨s, stepped, -, same⟩ := again (by rw [read]; exact nofun)
    exact ⟨effect, s, executed, stepped, same⟩

end SkyCatalog
