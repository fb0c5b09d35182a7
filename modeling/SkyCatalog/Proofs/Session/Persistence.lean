import SkyCatalog.Proofs.Session.Coverage
import SkyCatalog.Proofs.Session.Stability

/-!
# Persistence — what was added stays, and can be spoken of

A body that a line has added is in the catalog for good: under its name, among the names of its
kind, and at its handle. Since its name came from between brackets it can be put between brackets
again, so a later line can print the body or add another one below it; and the line that added it
is refused from then on, because the name is taken.
-/

namespace SkyCatalog

open Grammar

variable {c c' : Catalog} {l : Ledger} {b d : Body}

/-! ## §1  Complete lines -/

/-- The tokens of the fields of a body that belongs below another one, when they pass every check:
what stands after its name. -/
inductive Grammar.Fields : Body → List (List Char) → Prop where
  | star {name : String} {mass diameter luminosity : Binary64} {temperature : Int}
      {spectralClass : SpectralClass} {m d t l : List Char}
      (words : IsWord m ∧ IsWord d ∧ IsWord t ∧ IsWord l)
      (readMass : Numeral.real? m = some mass) (readDiameter : Numeral.real? d = some diameter)
      (readTemperature : Numeral.integer? t = some temperature)
      (readLuminosity : Numeral.real? l = some luminosity)
      (positive : diameter.isNegative = false) (warm : 0 ≤ temperature)
      (possible :
        Spectral.classify mass diameter temperature.toNat luminosity = some spectralClass) :
      Fields (.star ⟨name, mass, diameter, temperature.toNat, luminosity, spectralClass⟩)
        [m, d, t, l]
  | planet {name : String} {type : PlanetType} {life : Bool} :
      Fields (.planet ⟨name, type, life⟩) (labelWords type ++ [(answerWord life).toList])
  | moon {name : String} : Fields (.moon ⟨name⟩) []

/-- A line that adds a body below a named one, all its tokens in place. -/
structure Grammar.Completes (line : String) (parent : String) (d : Body) : Prop where
  named : IsName d.name
  fields : ∃ ts, Fields d ts ∧
    Spaced (["add".toList, d.kind.word.toList, bracketed parent, bracketed d.name] ++ ts)
      line.toList

/-- A complete line is read as what it says, when the parent that it names is stored. -/
theorem Grammar.Completes.parse {line parent : String} {k : Kind} {x : Held Body}
    (h : Completes line parent d) (parentNamed : IsName parent)
    (below : d.kind.parent? = some k) (stored : c.fetch? k parent = some x) :
    Command.parse c (some line) = .add d (some x) := by
  obtain ⟨named, ts, fields, spaced⟩ := h
  have said : ∃ ph, Says ph (["add".toList, d.kind.word.toList, bracketed parent,
      bracketed d.name] ++ ts) ∧ Asks c ph (.add d (some x)) := by
    cases fields with
    | star words readMass readDiameter readTemperature readLuminosity positive warm possible =>
        obtain rfl := Option.some.inj below
        exact ⟨_, .addStar parentNamed named words readMass readDiameter readTemperature
          readLuminosity positive warm, .addStar stored possible⟩
    | planet =>
        obtain rfl := Option.some.inj below
        exact ⟨_, .addPlanet parentNamed named, .addPlanet stored⟩
    | moon =>
        obtain rfl := Option.some.inj below
        exact ⟨_, .addMoon parentNamed named, .addMoon stored⟩
  obtain ⟨ph, said, asks⟩ := said
  exact congrArg Reading.command (Reading.ofLine_eq_accepted_iff.mpr ⟨ph, _, said, spaced, asks⟩)

/-! ## §2  What can be asked of a name -/

/-- Whoever is found is listed once. -/
theorem Catalog.Mirrors.count_listNames (h : c.Mirrors l) {k : Kind} {n : String} {x : Held Body}
    (found : c.fetch? k n = some x) : (c.listNames k).count n = 1 := by
  obtain ⟨i, -, stored, rfl, rfl⟩ := h.fetch?_eq_some_iff.mp found
  rw [h.getElem?_bodies] at stored
  obtain ⟨e, he, same⟩ := Option.map_eq_some_iff.mp stored
  rw [h.names]
  apply List.count_eq_one_of_mem
  · exact (h.orderly.listNames_strict _).imp ne_of_lt
  · rw [Ledger.mem_listNames]
    exact ⟨e, List.mem_of_getElem? he, by rw [same], by rw [same]⟩

/-! ## §3  What stays -/

/-- A catalog holds a body that a line has added: it is found as itself and listed once; it is
printed if it is a galaxy; a complete line that names it adds a body below it, as its last child;
and the line that added it makes a warning. -/
structure Session.Keeps (c : Catalog) (line : Option String) (b : Body) (handle : Nat) : Prop where
  found : c.find? b.kind b.name = some b
  held : c.fetch? b.kind b.name = some ⟨b, some handle⟩
  listed : (c.listNames b.kind).count b.name = 1
  printed : ∀ g, b = .galaxy g →
    Command.parse c (some s!"print [{g.name}]") = .print ⟨g, some handle⟩
  bears : ∀ line d, d.kind.parent? = some b.kind → Completes line b.name d →
    c.find? d.kind d.name = none →
    ∃ s, Accepts c (some line) d (some ⟨b, some handle⟩) s ∧
      s.effect.catalog.children? ⟨b, some handle⟩ =
        some ((c.children? ⟨b, some handle⟩).getD [] ++ [⟨d, some c.size⟩])
  refused : ∃ s, Session.step c line = .ok s ∧ s.effect.catalog = c ∧
    s.effect.keepRunning = true ∧
    s.effect.payload = some (.notice s!"{b.kind.displayName} {b.name} already exists." .warning)

namespace Session

variable {line : Option String} {handle : Nat} {parent : Option (Held Body)}

/-- A complete line below a stored body adds its last child. -/
theorem bears_of_held (m : c.Mirrors l) (named : IsName b.name)
    (held : c.fetch? b.kind b.name = some ⟨b, some handle⟩) {line : String}
    (below : d.kind.parent? = some b.kind) (complete : Completes line b.name d)
    (free : c.find? d.kind d.name = none) :
    ∃ s, Accepts c (some line) d (some ⟨b, some handle⟩) s ∧
      s.effect.catalog.children? ⟨b, some handle⟩ =
        some ((c.children? ⟨b, some handle⟩).getD [] ++ [⟨d, some c.size⟩]) := by
  obtain ⟨i, origin, stored, -, -⟩ := m.fetch?_eq_some_iff.mp held
  obtain rfl := Option.some.inj origin
  have known : c.handleOf? ⟨b, some handle⟩ = some handle := m.handleOf?_of_held rfl stored
  have under : c.parentHandle (some ⟨b, some handle⟩) = .ok (some handle) := by
    simp [Catalog.parentHandle, known]
  have fresh := m.lookup?_eq_none free
  obtain ⟨s, accepts, added, -, -⟩ :=
    accepts_of_fresh (complete.parse named below held) fresh under
  refine ⟨s, accepts, ?_⟩
  rw [added]
  exact m.children?_insert_parent (m.insert fresh (m.parentHandle_lt under)) rfl known

/-- **What a line has added is kept** by every later catalog. -/
theorem Accepts.keeps {s : Step} (h : c.Reachable) (accepts : Accepts c line b parent s)
    (later : s.effect.catalog.LeadsTo c') : Keeps c' line b c.size := by
  obtain ⟨l, m⟩ := h.mirrors
  -- the catalog right after the line has the body, and any later one has what this one has
  have reachable : s.effect.catalog.Reachable := h.line (next_of_step accepts.stepped)
  obtain ⟨l', m'⟩ := (later.reachable reachable).mirrors
  have kept := later.extends reachable
  obtain ⟨p, inserts⟩ := accepts.inserts m
  have gains := inserts.gains m
  have held := kept.found _ _ _ gains.fetch?_self
  have named : IsName b.name := (Command.described_of_parse accepts.parsed).named
  refine ⟨?_, held, m'.count_listNames held, ?_, ?_, ?_⟩
  · rw [Catalog.find?_eq_map_fetch?, held, Option.map_some]
  · rintro g rfl
    exact parse_print named held
  · intro line d below complete free
    exact bears_of_held m' named held below complete free
  · obtain ⟨i, looked, -⟩ := Option.bind_eq_some_iff.mp held
    have parsed := accepts.parsed_later (gains.extends.trans kept)
    exact step_of_taken parsed looked

end Session

/-! ## §4  The theorem -/

/-- **Additions last.** Every session runs to its end. When a line of it has added a body, then
whatever lines come after it, the catalog has the body under its name and at its handle, lists it
once, prints it by its name if it is a galaxy, and lets any complete line that names it add a body
with a free name as its last child; and the line itself makes the warning that the body already
exists, and changes nothing. -/
theorem additions_last (before after : List (Option String)) (line : Option String) :
    ∃ c₀ s c, Session.run .empty before = .ok c₀ ∧ Session.step c₀ line = .ok s ∧
      Session.run s.effect.catalog after = .ok c ∧
      ∀ b parent, s.command = .add b parent → s.adds = true →
        Session.Keeps c line b c₀.size := by
  obtain ⟨c₀, l₀, h₀⟩ := Session.grown before
  have reachable : c₀.Reachable := (Session.leadsTo_of_run h₀.reached).reachable .empty
  obtain ⟨s, stepped, -⟩ := Session.step_cases h₀.mirrors line
  obtain ⟨c, ran, -⟩ := Session.run_accepted (reachable.line (Session.next_of_step stepped)) after
  refine ⟨c₀, s, c, h₀.reached, stepped, ran, ?_⟩
  intro b parent command adds
  have accepts : Session.Accepts c₀ line b parent s := ⟨stepped, command, adds⟩
  exact accepts.keeps reachable (Session.leadsTo_of_run ran)

/-- A galaxy without a numerical age, whose name begins with a bracket and holds a space, is kept
beyond the star that is added below it, a blank line, a report and the end of the input. -/
theorem additions_last_beyond_children :
    let line := some "add galaxy [[ A] spiral nanM"
    let galaxy : Galaxy := ⟨"[ A", .spiral, .nan, .million⟩
    ∃ c, Session.run .empty [line, some "add star [[ A] [S] 1 2 5500 1", some " ",
        some "print [[ A]", none] = .ok c ∧ Session.Keeps c line (.galaxy galaxy) 0 ∧
      Command.parse c (some "print [[ A]") = .print ⟨galaxy, some 0⟩ := by
  intro line galaxy
  obtain ⟨c₀, s, c, reached, stepped, ran, kept⟩ := additions_last []
    [some "add star [[ A] [S] 1 2 5500 1", some " ", some "print [[ A]", none] line
  obtain rfl := Except.ok.inj reached
  have made : (Session.step .empty line).map (fun s => (s.command, s.adds)) =
      .ok (.add (.galaxy galaxy) none, true) := by decide +kernel
  rw [stepped] at made
  obtain ⟨command, adds⟩ := Prod.mk.inj (Except.ok.inj made)
  have keeps := kept (.galaxy galaxy) none command adds
  refine ⟨c, ?_, keeps, keeps.printed galaxy rfl⟩
  rw [Session.run_cons stepped]
  exact ran

end SkyCatalog
