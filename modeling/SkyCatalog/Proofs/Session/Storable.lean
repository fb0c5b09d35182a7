import SkyCatalog.Proofs.Command.Spelling

/-!
# Storable records — what sessions store, and all of it

Records may hold more than lines can say: the check of a record lets an age of zero pass, a
negative diameter, and a spectral class that belongs to another star. Lines let none of them into
the catalog, since a phrase with such a field is refused before it comes to a command. Here the
conditions on a stored body are collected, and they are all there are: a body that meets them is
stored by its canonical line, below parents that earlier lines have brought.
-/

namespace SkyCatalog

open Grammar

/-! ## §1  Conditions -/

/-- A body whose fields a session can store. -/
structure Body.Storable (b : Body) : Prop where
  named : IsName b.name
  aged : ∀ g, b = .galaxy g → g.age.isZero = false
  positive : ∀ s, b = .star s → s.diameter.isNegative = false
  hot : ∀ s, b = .star s → 2400 ≤ s.temperature
  written : ∀ s, b = .star s → (Numeral.decimal s.temperature).length ≤ 4300
  heavy : ∀ s, b = .star s → s.mass.lt 0.08 = false
  classified : ∀ s, b = .star s →
    Spectral.classify s.mass s.diameter s.temperature s.luminosity = some s.spectralClass

/-- Whatever has a spectral class is neither too cool nor too light for a star. -/
theorem Spectral.limits_of_classify {mass diameter luminosity : Binary64} {temperature : Int}
    {cls : SpectralClass} (h : classify mass diameter temperature luminosity = some cls) :
    2400 ≤ temperature ∧ mass.lt 0.08 = false := by
  unfold classify at h
  split at h
  · cases h
  · next fits =>
      rw [Bool.or_eq_true, decide_eq_true_eq, not_or, Bool.not_eq_true] at fits
      exact ⟨Int.not_lt.mp fits.1, fits.2⟩

/-- The conditions come down to a name that brackets can hold and fields that can be said; the
lower limits of temperature and mass are the classifier's. -/
theorem Body.storable_iff {b : Body} : b.Storable ↔ IsName b.name ∧ b.Sayable := by
  constructor
  · intro h
    refine ⟨h.named, ?_⟩
    cases b with
    | galaxy g => exact h.aged g rfl
    | star s => exact ⟨h.positive s rfl, h.written s rfl, h.classified s rfl⟩
    | planet => trivial
    | moon => trivial
  · rintro ⟨named, sayable⟩
    refine ⟨named, ?_, ?_, ?_, ?_, ?_, ?_⟩
    all_goals
      rintro x rfl
    · exact sayable
    · exact sayable.1
    · exact Int.ofNat_le.mp (Spectral.limits_of_classify sayable.2.2).1
    · exact sayable.2.1
    · exact (Spectral.limits_of_classify sayable.2.2).2
    · exact sayable.2.2

/-! ## §2  Only such bodies -/

/-- Whatever a session has stored meets the conditions. -/
theorem Session.Grown.storable {lines : List (Option String)} {c : Catalog} {l : Ledger}
    (h : Session.Grown lines c l) {b : Body} (stored : b ∈ c.bodies) : b.Storable := by
  have described := h.described stored
  exact Body.storable_iff.mpr ⟨described.named, described.sayable⟩

/-! ## §3  All such bodies -/

variable {c : Catalog} {l : Ledger} {b : Body} {parent : Option (Held Body)}

theorem Catalog.Mirrors.parentHandle_of_offers (h : c.Mirrors l) (offers : c.Offers b parent) :
    ∃ p, c.parentHandle parent = .ok p := by
  cases parent with
  | none => exact ⟨none, rfl⟩
  | some x =>
      obtain ⟨i, held⟩ := offers.stored x rfl
      obtain ⟨body, stored, rfl⟩ := Option.map_eq_some_iff.mp held
      have known : c.handleOf? ⟨body, some i⟩ = some i := h.handleOf?_of_held rfl stored
      exact ⟨some i, by simp [parentHandle, known]⟩

/-- The canonical line of a body whose name is free stores it. -/
theorem Catalog.Mirrors.next_spell (h : c.Mirrors l) (storable : b.Storable)
    (offers : c.Offers b parent) (parentNamed : ∀ x ∈ parent, IsName x.value.name)
    (fresh : c.lookup? b.kind b.name = none) :
    ∃ c', Session.next c (some (b.spell (parent.map (·.value.name)))) = .ok c' ∧
      b ∈ c'.bodies := by
  obtain ⟨named, sayable⟩ := Body.storable_iff.mp storable
  have parsed := h.parse_spell named sayable offers parentNamed
  obtain ⟨p, recognised⟩ := h.parentHandle_of_offers offers
  obtain ⟨s, accepts, stored, -⟩ := Session.accepts_of_fresh parsed fresh recognised
  refine ⟨c.insert b p, ?_, List.mem_append_right _ (List.mem_singleton_self b)⟩
  rw [← stored]
  exact Session.next_of_step accepts.stepped

namespace Session

/-- Lines that bring about a parent for a body of a kind, and no body of this kind. -/
def stem : Kind → List (Option String)
  | .galaxy => []
  | .star => [some "add galaxy [A] spiral 1B"]
  | .planet => [some "add galaxy [A] spiral 1B", some "add star [A] [A] 1 2 5500 1"]
  | .moon =>
    [some "add galaxy [A] spiral 1B", some "add star [A] [A] 1 2 5500 1",
      some "add planet [A] [A] mesoplanet no"]

/-- What a stem leaves: a stored parent of the kind above, and no name of the kind taken. -/
theorem run_stem (k : Kind) : ∃ (c : Catalog) (parent : Option (Held Body)),
    run .empty (stem k) = .ok c ∧
    parent.map (·.value.kind) = k.parent? ∧ (∀ x ∈ parent, ∃ i, c.held? i = some x) ∧
    (∀ x ∈ parent, IsName x.value.name) ∧ ∀ n, c.lookup? k n = none := by
  let galaxy : Body := .galaxy ⟨"A", .spiral, 1.0, .billion⟩
  let star : Body := .star ⟨"A", 1.0, 2.0, 5500, 1.0, .g⟩
  let planet : Body := .planet ⟨"A", .mesoplanet, false⟩
  let rooted := Catalog.empty.insert galaxy none
  let lit := rooted.insert star (some 0)
  let inhabited := lit.insert planet (some 1)
  cases k with
  | galaxy => exact ⟨.empty, none, rfl, rfl, nofun, nofun, fun _ => rfl⟩
  | star =>
      refine ⟨rooted, some ⟨galaxy, some 0⟩, by decide +kernel, rfl, ?_, ?_, fun _ => rfl⟩
      · rintro _ ⟨⟩
        exact ⟨0, rfl⟩
      · rintro _ ⟨⟩
        decide
  | planet =>
      refine ⟨lit, some ⟨star, some 1⟩, by decide +kernel, rfl, ?_, ?_, fun _ => rfl⟩
      · rintro _ ⟨⟩
        exact ⟨1, rfl⟩
      · rintro _ ⟨⟩
        decide
  | moon =>
      refine ⟨inhabited, some ⟨planet, some 2⟩, by decide +kernel, rfl, ?_, ?_, fun _ => rfl⟩
      · rintro _ ⟨⟩
        exact ⟨2, rfl⟩
      · rintro _ ⟨⟩
        decide

/-- A body that meets the conditions is stored by its canonical line, after its stem. -/
theorem exists_run_of_storable (storable : b.Storable) :
    ∃ lines c, run .empty lines = .ok c ∧ b ∈ c.bodies := by
  -- the stem has no body of this kind, so the name cannot be taken, whatever it is
  obtain ⟨c, parent, reached, above, held, parentNamed, free⟩ := run_stem b.kind
  obtain ⟨c₀, l, h⟩ := grown (stem b.kind)
  obtain rfl := Except.ok.inj (reached.symm.trans h.reached)
  obtain ⟨c', after, stored⟩ :=
    h.mirrors.next_spell storable ⟨above, held⟩ parentNamed (free b.name)
  exact ⟨_, c', run_snoc reached after, stored⟩

end Session

/-! ## §4  The theorem -/

/-- **Only valid records are stored.** Every session runs to its end, and every body that it has
stored has a name that brackets can hold; an age other than zero, if it is a galaxy; and, if it is
a star, a diameter that is not negative, a temperature from 2400 on of at most 4300 digits, a mass
that is not below 0.08, and the spectral class that its own fields have. Nothing else is asked of a
stored body: each body of this sort is stored by some session. -/
theorem only_valid_records_stored :
    (∀ lines, ∃ c, Session.run .empty lines = .ok c ∧ ∀ b ∈ c.bodies, b.Storable) ∧
    ∀ b : Body, b.Storable → ∃ lines c, Session.run .empty lines = .ok c ∧ b ∈ c.bodies := by
  refine ⟨?_, fun b => Session.exists_run_of_storable⟩
  intro lines
  obtain ⟨c, l, h⟩ := Session.grown lines
  exact ⟨c, h.reached, fun b => h.storable⟩

/-- A star with no numbers but its temperature, from the line that stores it and from the
conditions that it meets. -/
theorem only_valid_records_stored_of_nan :
    let star : Body := .star ⟨"B", .nan, .nan, 2400, .nan, .m⟩
    star.Storable ∧ ∃ lines c, Session.run .empty lines = .ok c ∧ star ∈ c.bodies := by
  intro star
  obtain ⟨c, reached, valid⟩ := only_valid_records_stored.1
    [some "add galaxy [A] spiral nanM", some "add star [A] [B] nan nan 2400 nan"]
  have storable : star.Storable := by
    refine valid star ?_
    obtain rfl : c = (Catalog.empty.insert (.galaxy ⟨"A", .spiral, .nan, .million⟩) none).insert
        star (some 0) := by
      refine Except.ok.inj (reached.symm.trans ?_)
      decide +kernel
    exact List.mem_append_right _ (List.mem_singleton_self star)
  exact ⟨storable, only_valid_records_stored.2 star storable⟩

end SkyCatalog
