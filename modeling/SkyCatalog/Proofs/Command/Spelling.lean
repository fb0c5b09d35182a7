import SkyCatalog.Command.Spelling
import SkyCatalog.Proofs.Numeral.Written
import SkyCatalog.Proofs.Session.Growth

/-!
# Spelling read back — the canonical line of a body adds this body

The canonical line of a body holds the tokens of a phrase, each after one space, and the numbers
in it are read back as what they were. So the line comes to the command that adds the body under
its parent. Whatever line came to such a command, its body is one that a line can say, and the
canonical line comes to the same command.
-/

namespace SkyCatalog

open Grammar

/-! ## §1  Canonical tokens -/

namespace Body

/-- The tokens after the name of a body on its canonical line. -/
def fieldTokens : Body → List (List Char)
  | galaxy g => [g.type.word.toList, (formatNumber g.age).toList ++ [g.units.suffix]]
  | star s =>
    [(formatNumber s.mass).toList, (formatNumber s.diameter).toList,
      Numeral.decimal s.temperature, (formatNumber s.luminosity).toList]
  | planet p => labelWords p.type ++ [p.lifeText.toList]
  | moon _ => []

/-- The tokens of the canonical line of a body. -/
def tokens (b : Body) (parent : Option String) : List (List Char) :=
  "add".toList :: b.kind.word.toList ::
    (parent.toList.map bracketed ++ bracketed b.name :: b.fieldTokens)

end Body

/-- Tokens with one space before each. -/
def spaceEach (ts : List (List Char)) : List Char := ts.flatMap (' ' :: ·)

theorem atBreak_spaceEach (ts : List (List Char)) : Token.atBreak (spaceEach ts) = true := by
  cases ts <;> rfl

theorem spaced_spaceEach (ts : List (List Char)) : Spaced ts (spaceEach ts) := by
  -- a space stands before each token, and also parts it from the one before
  induction ts with
  | nil => exact .nil rfl
  | cons t ts ih => exact .cons (u := [' ']) rfl (atBreak_spaceEach ts) ih

theorem spaceEach_labelWords (t : PlanetType) :
    spaceEach (labelWords t) = ' ' :: t.label.toList := by cases t <;> decide

theorem toList_spellFields (b : Body) : b.spellFields.toList = spaceEach b.fieldTokens := by
  cases b with
  | galaxy g =>
      show (" " ++ g.type.word ++ " " ++ (formatNumber g.age).push g.units.suffix).toList = _
      simp [spaceEach, Body.fieldTokens]
  | star s =>
      show (" " ++ formatNumber s.mass ++ " " ++ formatNumber s.diameter ++ " " ++
        String.ofList (Numeral.decimal s.temperature) ++ " " ++
        formatNumber s.luminosity).toList = _
      simp [spaceEach, Body.fieldTokens]
  | planet p =>
      show (" " ++ p.type.label ++ " " ++ p.lifeText).toList = _
      have label := spaceEach_labelWords p.type
      simp only [spaceEach] at label
      simp [spaceEach, Body.fieldTokens, label]
  | moon m => rfl

/-- The canonical line holds the canonical tokens. -/
theorem spaced_spell (b : Body) (parent : Option String) :
    Spaced (b.tokens parent) (b.spell parent).toList := by
  have text : (b.spell parent).toList = [] ++ "add".toList ++ spaceEach (b.kind.word.toList ::
      (parent.toList.map bracketed ++ bracketed b.name :: b.fieldTokens)) := by
    have fields := toList_spellFields b
    simp only [spaceEach] at fields ⊢
    cases parent with
    | none =>
        show ("add " ++ b.kind.word ++ " " ++ "" ++ "[" ++ b.name ++ "]" ++
          b.spellFields).toList = _
        simp [bracketed, fields]
    | some p =>
        show ("add " ++ b.kind.word ++ " " ++ ("[" ++ p ++ "] ") ++ "[" ++ b.name ++ "]" ++
          b.spellFields).toList = _
        simp [bracketed, fields]
  rw [text]
  exact .cons rfl (atBreak_spaceEach _) (spaced_spaceEach _)

/-! ## §2  What the tokens say -/

theorem toList_formatNumber (x : Binary64) : (formatNumber x).toList = x.write .brief :=
  String.toList_ofList

theorem real?_formatNumber (x : Binary64) : Numeral.real? (formatNumber x).toList = some x := by
  rw [toList_formatNumber, Numeral.real?_write]

theorem isWord_of_inNumerals {w : List Char} (ne : w ≠ []) (h : Numeral.InNumerals w) : IsWord w :=
  ⟨ne, fun c hc => Numeral.isBlank_of_isNumeralChar (h c hc)⟩

theorem isWord_formatNumber (x : Binary64) : IsWord (formatNumber x).toList := by
  rw [toList_formatNumber]
  refine isWord_of_inNumerals ?_ (Numeral.inNumerals_write x)
  intro empty
  have unread : Numeral.real? [] = none := by decide
  have read := Numeral.real?_write x
  rw [empty, unread] at read
  cases read

theorem isWord_ageText (g : Galaxy) : IsWord ((formatNumber g.age).toList ++ [g.units.suffix]) := by
  refine ⟨List.append_ne_nil_of_left_ne_nil (isWord_formatNumber g.age).1 _, ?_⟩
  refine List.forall_mem_append.mpr ⟨(isWord_formatNumber g.age).2, ?_⟩
  refine List.forall_mem_singleton.mpr ?_
  cases g.units <;> decide

theorem isWord_decimal (n : Nat) : IsWord (Numeral.decimal n) :=
  isWord_of_inNumerals (Numeral.decimal_ne_nil n) (Numeral.plain_decimal n).inNumerals

variable {c : Catalog} {l : Ledger} {b : Body} {parent : Option (Held Body)}

theorem Catalog.Mirrors.fetch?_of_held (h : c.Mirrors l) {x : Held Body} {i : Nat}
    (held : c.held? i = some x) : c.fetch? x.value.kind x.value.name = some x := by
  obtain ⟨body, stored, rfl⟩ := Option.map_eq_some_iff.mp held
  exact h.fetch?_eq_some_iff.mpr ⟨i, rfl, stored, rfl, rfl⟩

/-- The tokens of a canonical line say a phrase that asks for the body under its parent. -/
theorem Catalog.Mirrors.says_tokens (h : c.Mirrors l) (named : IsName b.name)
    (sayable : b.Sayable) (offers : c.Offers b parent)
    (parentNamed : ∀ x ∈ parent, IsName x.value.name) :
    ∃ ph, Says ph (b.tokens (parent.map (·.value.name))) ∧ Asks c ph (.add b parent) := by
  cases b with
  | galaxy g =>
      obtain rfl : parent = none := Option.map_eq_none_iff.mp offers.kind
      exact ⟨.addGalaxy g, .addGalaxy named (isWord_ageText g) (real?_formatNumber g.age) sayable,
        .addGalaxy⟩
  | star s =>
      obtain ⟨x, rfl, kind⟩ := Option.map_eq_some_iff.mp offers.kind
      obtain ⟨i, held⟩ := offers.stored x rfl
      obtain ⟨positive, short, classified⟩ := sayable
      -- a temperature is written as a natural number and read as an integer
      refine ⟨.addStar x.value.name s.name s.mass s.diameter (s.temperature : Int).toNat
        s.luminosity, ?_, .addStar (kind ▸ h.fetch?_of_held held) classified⟩
      exact .addStar (parentNamed x rfl) named
        ⟨isWord_formatNumber s.mass, isWord_formatNumber s.diameter, isWord_decimal s.temperature,
          isWord_formatNumber s.luminosity⟩
        (real?_formatNumber s.mass) (real?_formatNumber s.diameter) (Numeral.integer?_decimal short)
        (real?_formatNumber s.luminosity) positive (Int.natCast_nonneg s.temperature)
  | planet p =>
      obtain ⟨x, rfl, kind⟩ := Option.map_eq_some_iff.mp offers.kind
      obtain ⟨i, held⟩ := offers.stored x rfl
      exact ⟨.addPlanet x.value.name p, .addPlanet (parentNamed x rfl) named,
        .addPlanet (kind ▸ h.fetch?_of_held held)⟩
  | moon m =>
      obtain ⟨x, rfl, kind⟩ := Option.map_eq_some_iff.mp offers.kind
      obtain ⟨i, held⟩ := offers.stored x rfl
      exact ⟨.addMoon x.value.name m, .addMoon (parentNamed x rfl) named,
        .addMoon (kind ▸ h.fetch?_of_held held)⟩

/-- The canonical line of a body comes to the command that adds it. -/
theorem Catalog.Mirrors.parse_spell (h : c.Mirrors l) (named : IsName b.name)
    (sayable : b.Sayable) (offers : c.Offers b parent)
    (parentNamed : ∀ x ∈ parent, IsName x.value.name) :
    Command.parse c (some (b.spell (parent.map (·.value.name)))) = .add b parent := by
  obtain ⟨ph, said, asks⟩ := h.says_tokens named sayable offers parentNamed
  exact congrArg Reading.command
    (Reading.ofLine_eq_accepted_iff.mpr ⟨ph, _, said, spaced_spell b _, asks⟩)

/-! ## §3  What lines can say -/

/-- The fields of a body that a line describes are such that a line can say them. -/
theorem Grammar.Described.sayable (h : Described b) : b.Sayable := by
  obtain ⟨c, ph, ts, parent, said, asks⟩ := id h
  cases asks with
  | addGalaxy => cases said with | addGalaxy _ _ _ nonzero => exact nonzero
  | addStar _ possible =>
      cases said with
      | addStar _ _ _ _ _ _ _ positive => exact ⟨positive, h.decimal_length, possible⟩
  | addPlanet => trivial
  | addMoon => trivial

theorem Grammar.Says.parentNamed {ph : Phrase} {ts : List (List Char)} (said : Says ph ts)
    {n : String} (h : ph.parentName? = some n) : IsName n := by
  cases said with
  | addStar parentNamed => exact Option.some.inj h ▸ parentNamed
  | addPlanet parentNamed => exact Option.some.inj h ▸ parentNamed
  | addMoon parentNamed => exact Option.some.inj h ▸ parentNamed
  | _ => cases h

/-- The parent of a body on a line is one that the catalog offers, and its name stands on the
line. -/
theorem Catalog.Mirrors.offers_of_asks (h : c.Mirrors l) {ph : Phrase} {ts : List (List Char)}
    (said : Says ph ts) (asks : Asks c ph (.add b parent)) :
    c.Offers b parent ∧ ∀ x ∈ parent, IsName x.value.name := by
  rcases asks.parent_cases with ⟨root, -, rfl⟩ | ⟨k, n, x, above, named, rfl, found⟩
  · exact ⟨⟨root.symm, nofun⟩, nofun⟩
  · obtain ⟨i, origin, stored, rfl, rfl⟩ := h.fetch?_eq_some_iff.mp found
    refine ⟨⟨above.symm, ?_⟩, ?_⟩
    · rintro y ⟨⟩
      exact ⟨i, by rw [Catalog.held?, stored, Option.map_some, ← origin]⟩
    · rintro y ⟨⟩
      exact said.parentNamed named

/-- **A line that adds a body tells all about it**: its name and the name of its parent are ones
that brackets can hold, its fields can be said, and the catalog offers the parent. -/
theorem Catalog.Mirrors.of_parse_eq_add (h : c.Mirrors l) {line : Option String}
    (parsed : Command.parse c line = .add b parent) :
    IsName b.name ∧ b.Sayable ∧ c.Offers b parent ∧ ∀ x ∈ parent, IsName x.value.name := by
  obtain ⟨text, ph, ts, rfl, said, -, asks⟩ := Command.said_of_parse parsed
  have described := Command.described_of_parse parsed
  exact ⟨described.named, described.sayable, h.offers_of_asks said asks⟩

/-! ## §4  The theorem -/

/-- **Reading undoes spelling.** In every catalog that can come about, the canonical line of a
body that can be said, under a parent that the catalog offers, comes to the command that adds this
very body under this very parent. And whatever line comes to a command that adds a body, the
canonical line of the body and its parent comes to the same command. -/
theorem parse_undoes_spelling {c : Catalog} (h : c.Reachable) :
    (∀ b parent, IsName b.name → b.Sayable → c.Offers b parent →
      (∀ x ∈ parent, IsName x.value.name) →
      Command.parse c (some (b.spell (parent.map (·.value.name)))) = .add b parent) ∧
    ∀ line b parent, Command.parse c line = .add b parent →
      Command.parse c (some (b.spell (parent.map (·.value.name)))) = .add b parent := by
  obtain ⟨l, m⟩ := h.mirrors
  refine ⟨fun b parent => m.parse_spell, ?_⟩
  intro line b parent parsed
  obtain ⟨named, sayable, offers, parentNamed⟩ := m.of_parse_eq_add parsed
  exact m.parse_spell named sayable offers parentNamed

/-- A star with a negative zero and the smallest of all numbers, under a galaxy whose age is no
number; and a galaxy of an infinite age from a line that spells it in another way. -/
theorem parse_undoes_spelling_at_extremes :
    let milkyWay : Galaxy := ⟨"Milky Way", .spiral, .nan, .billion⟩
    let parent : Held Body := ⟨.galaxy milkyWay, some 0⟩
    let star : Body := .star ⟨"[ b", 0.1, .zero true, 2400, 5e-324, .m⟩
    let andromeda : Body := .galaxy ⟨"Andromeda", .spiral, .infinity true, .million⟩
    let c := Catalog.empty.insert (.galaxy milkyWay) none
    c.Reachable ∧ IsName star.name ∧ star.Sayable ∧ c.Offers star (some parent) ∧
      (∀ x ∈ some parent, IsName x.value.name) ∧
      Command.parse c (some "add star [Milky Way] [[ b] 0.1 -0 2400 5e-324") =
        .add star (some parent) ∧
      Command.parse c (some "\tadd galaxy [Andromeda]  spiral -INFINITYM ") =
        .add andromeda none ∧
      Command.parse c (some "add galaxy [Andromeda] spiral -infM") = .add andromeda none := by
  intro milkyWay parent star andromeda c
  have reachable : c.Reachable := .put .empty (.galaxy milkyWay) none
  have named : IsName star.name := by decide
  have sayable : star.Sayable := ⟨by decide, by decide, by decide +kernel⟩
  have offers : c.Offers star (some parent) := ⟨rfl, by rintro _ ⟨⟩; exact ⟨0, rfl⟩⟩
  have parentNamed : ∀ x ∈ some parent, IsName x.value.name := by
    rintro _ ⟨⟩
    decide
  have spelled : star.spell (some "Milky Way") =
      "add star [Milky Way] [[ b] 0.1 -0 2400 5e-324" := by decide +kernel
  have spelled' : andromeda.spell none = "add galaxy [Andromeda] spiral -infM" := by decide +kernel
  have parsed : Command.parse c (some "\tadd galaxy [Andromeda]  spiral -INFINITYM ") =
      .add andromeda none := by decide +kernel
  obtain ⟨read, canonical⟩ := parse_undoes_spelling reachable
  refine ⟨reachable, named, sayable, offers, parentNamed, ?_, parsed, ?_⟩
  · rw [← spelled]
    exact read star (some parent) named sayable offers parentNamed
  · rw [← spelled']
    exact canonical _ andromeda none parsed

end SkyCatalog
