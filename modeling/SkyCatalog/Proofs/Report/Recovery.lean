import SkyCatalog.Proofs.Report.Numbers

/-!
# Reports recovered from their lines — nothing that is shown is lost

The lines of a report are blocks within blocks. A block opens with a line that begins in the
column of its level, and every other line of it begins further to the right, so a block ends where
a line begins further to the left or in its own column again. Names cannot blur this, since they
never stand at the beginning of a line. So equal lines come from reports with the same tree, and
each line tells what stands on it.
-/

namespace SkyCatalog

/-! ## §1  Reports that look alike -/

/-- Stars with all in common that a report shows of them. -/
structure Star.LooksLike (s t : Star) : Prop where
  name : s.name = t.name
  spectralClass : s.spectralClass = t.spectralClass
  mass : s.mass = t.mass
  radius : s.radius = t.radius
  temperature : s.temperature = t.temperature
  luminosity : s.luminosity = t.luminosity

/-- Stars that look alike, with the same planets and moons in the same order. -/
structure StarBranch.LooksLike (b d : StarBranch) : Prop where
  star : b.star.LooksLike d.star
  planets : b.planets = d.planets

/-- The same galaxy with stars that look alike, in the same order. -/
structure GalaxyReport.LooksLike (r q : GalaxyReport) : Prop where
  galaxy : r.galaxy = q.galaxy
  stars : List.Forall₂ StarBranch.LooksLike r.stars q.stars

/-! ## §2  Blocks of lines -/

/-- The column in which a line begins. -/
def margin (line : String) : Nat := (line.toList.takeWhile (· == ' ')).length

/-- Lines of which the first, if there is one, begins left of a column. -/
def LeftOf (n : Nat) (lines : List String) : Prop := ∀ line ∈ lines.head?, margin line < n

theorem LeftOf.mono {n k : Nat} {lines : List String} (h : LeftOf n lines) (le : n ≤ k) :
    LeftOf k lines := fun line hl => Nat.lt_of_lt_of_le (h line hl) le

theorem leftOf_nil (n : Nat) : LeftOf n [] := nofun

theorem leftOf_cons {n : Nat} {line : String} {lines : List String} :
    LeftOf n (line :: lines) ↔ margin line < n := by simp [LeftOf]

section Blocks

variable {α : Type} {Block : α → List String → Prop} {Same : α → α → Prop} {n : Nat}

/-- After a block comes another one, or a line further to the left. -/
theorem leftOf_blocks (opens : ∀ {a ls}, Block a ls → ∃ l rest, ls = l :: rest ∧ margin l = n)
    {xs : List α} {us : List (List String)} (written : List.Forall₂ Block xs us)
    {rest : List String} (after : LeftOf n rest) : LeftOf (n + 1) (us.flatten ++ rest) := by
  cases written with
  | nil => exact after.mono (Nat.le_succ n)
  | cons first _ =>
      obtain ⟨line, lines, rfl, column⟩ := opens first
      exact leftOf_cons.mpr (column ▸ Nat.lt_succ_self _)

/-- **Blocks can be told apart.** Let every block open in the same column, and let lines that begin
with a block and go on no further to the right tell the block and what follows it. Then lines that
begin with several blocks and go on further to the left tell all of them and what follows. -/
theorem blocks_inj (opens : ∀ {a ls}, Block a ls → ∃ l rest, ls = l :: rest ∧ margin l = n)
    (cut : ∀ {a b ks ls rest rest'}, Block a ks → Block b ls → LeftOf (n + 1) rest →
      LeftOf (n + 1) rest' → ks ++ rest = ls ++ rest' → Same a b ∧ rest = rest')
    {xs ys : List α} {us vs : List (List String)} (hu : List.Forall₂ Block xs us)
    (hv : List.Forall₂ Block ys vs) {rest rest' : List String} (after : LeftOf n rest)
    (after' : LeftOf n rest') (h : us.flatten ++ rest = vs.flatten ++ rest') :
    List.Forall₂ Same xs ys ∧ rest = rest' := by
  -- a block never opens where the lines go on further to the left
  have clash {a : α} {ls more lines : List String} (opened : Block a ls) (left : LeftOf n lines)
      (same : ls ++ more = lines) : False := by
    obtain ⟨line, rest, rfl, column⟩ := opens opened
    subst same
    have := leftOf_cons.mp left
    omega
  induction hu generalizing ys vs with
  | nil =>
      cases hv with
      | nil => exact ⟨.nil, h⟩
      | cons first _ =>
          rw [List.flatten_cons, List.append_assoc] at h
          exact (clash first after h.symm).elim
  | cons first others ih =>
      cases hv with
      | nil =>
          rw [List.flatten_cons, List.append_assoc] at h
          exact (clash first after' h).elim
      | cons first' others' =>
          rw [List.flatten_cons, List.flatten_cons, List.append_assoc, List.append_assoc] at h
          obtain ⟨same, later⟩ := cut first first' (leftOf_blocks opens others after)
            (leftOf_blocks opens others' after') h
          obtain ⟨all, tail⟩ := ih others' later
          exact ⟨.cons same all, tail⟩

end Blocks

/-! ## §3  What stands on a line -/

theorem GalaxyType.word_inj {s t : GalaxyType} (h : s.word = t.word) : s = t :=
  injective_of_read ofWord? ofWord?_word h

theorem AgeUnit.suffix_inj {u v : AgeUnit} (h : u.suffix = v.suffix) : u = v :=
  injective_of_read ofSuffix? ofSuffix?_suffix h

theorem SpectralClass.word_inj {c d : SpectralClass} (h : c.word = d.word) : c = d :=
  injective_of_read ofWord? ofWord?_word h

theorem PlanetType.label_inj {s t : PlanetType} (h : s.label = t.label) : s = t :=
  injective_of_read ofLabel? ofLabel?_label h

theorem Planet.supportsLife_eq {p q : Planet} (h : p.lifeText = q.lifeText) :
    p.supportsLife = q.supportsLife := by
  unfold Planet.lifeText at h
  cases hp : p.supportsLife <;> cases hq : q.supportsLife <;> simp [hp, hq] at h ⊢

theorem Numeral.decimal_inj {m n : Nat} (h : decimal m = decimal n) : m = n := by
  have spelled := spelled_decimal m
  rw [h, spelled_decimal n] at spelled
  exact spelled.symm

/-- An age is told from its unit by the last letter. -/
theorem Galaxy.ageText_inj {g k : Galaxy} (h : g.ageText = k.ageText) :
    g.age = k.age ∧ g.units = k.units := by
  have letters : (formatNumber g.age).toList ++ [g.units.suffix] =
      (formatNumber k.age).toList ++ [k.units.suffix] := by
    rw [← String.toList_push, ← String.toList_push]
    exact congrArg String.toList h
  obtain ⟨age, unit⟩ := List.append_inj' letters rfl
  exact ⟨formatNumber_injective (String.toList_inj.mp age),
    AgeUnit.suffix_inj (List.cons.inj unit).1⟩

/-- A comma after a text of no commas shows where the text ends. -/
theorem append_comma_inj {s t rest rest' : List Char} (hs : ',' ∉ s) (ht : ',' ∉ t)
    (h : s ++ ',' :: rest = t ++ ',' :: rest') : s = t ∧ rest = rest' := by
  have cut {w r : List Char} (hw : ',' ∉ w) := Token.takeWhile_append_of_stop (p := (· != ','))
    (w := w) (r := ',' :: r) (fun c hc => by simpa using ne_of_mem_of_not_mem hc hw)
    (by rintro c ⟨⟩; rfl)
  obtain ⟨front, back⟩ := cut (r := rest) hs
  obtain ⟨front', back'⟩ := cut (r := rest') ht
  rw [h, front'] at front
  rw [h, back'] at back
  exact ⟨front.symm, (List.cons.inj back).2.symm⟩

theorem comma_not_mem_formatNumber (x : Binary64) : ',' ∉ (formatNumber x).toList := by
  rw [toList_formatNumber]
  intro hc
  have := Numeral.inNumerals_write x ',' hc
  revert this
  decide

theorem comma_not_mem_decimal (n : Nat) : ',' ∉ Numeral.decimal n := fun hc => by
  cases Numeral.plain_decimal n ',' hc

theorem Star.classText?_eq {s : Star} {text : String} (h : s.classText? = some text) :
    text.toList = s.spectralClass.word.toList ++ (" (".toList ++ ((formatNumber s.mass).toList ++
      ',' :: ' ' :: ((formatNumber s.radius).toList ++ ',' :: ' ' ::
        (Numeral.decimal s.temperature ++ ',' :: ' ' ::
          ((formatNumber s.luminosity).toList ++ [')']))))) := by
  obtain ⟨temperature, written, rfl⟩ := Option.map_eq_some_iff.mp h
  have digits : temperature.toList = Numeral.decimal s.temperature := by
    unfold Numeral.numeral? at written
    dsimp only at written
    split at written
    · obtain rfl := Option.some.inj written
      exact String.toList_ofList
    · cases written
  show (s.spectralClass.word ++ " (" ++ formatNumber s.mass ++ ", " ++ formatNumber s.radius ++
    ", " ++ temperature ++ ", " ++ formatNumber s.luminosity ++ ")").toList = _
  simp [digits]

theorem SpectralClass.length_word (c : SpectralClass) : c.word.toList.length = 1 := by
  cases c <;> rfl

/-- **The class line tells what a class was derived from.** -/
theorem Star.classText?_inj {s t : Star} {text : String} (hs : s.classText? = some text)
    (ht : t.classText? = some text) : s.spectralClass = t.spectralClass ∧ s.mass = t.mass ∧
      s.radius = t.radius ∧ s.temperature = t.temperature ∧ s.luminosity = t.luminosity := by
  have same := (classText?_eq hs).symm.trans (classText?_eq ht)
  obtain ⟨cls, same⟩ := List.append_inj same
    (s.spectralClass.length_word.trans t.spectralClass.length_word.symm)
  have same := List.append_cancel_left same
  obtain ⟨mass, same⟩ := append_comma_inj (comma_not_mem_formatNumber _)
    (comma_not_mem_formatNumber _) same
  obtain ⟨radius, same⟩ := append_comma_inj (comma_not_mem_formatNumber _)
    (comma_not_mem_formatNumber _) (List.cons.inj same).2
  obtain ⟨temperature, same⟩ := append_comma_inj (comma_not_mem_decimal _)
    (comma_not_mem_decimal _) (List.cons.inj same).2
  have luminosity := (List.append_inj' (List.cons.inj same).2 rfl).1
  exact ⟨SpectralClass.word_inj (String.toList_inj.mp cls),
    formatNumber_injective (String.toList_inj.mp mass),
    formatNumber_injective (String.toList_inj.mp radius), Numeral.decimal_inj temperature,
    formatNumber_injective (String.toList_inj.mp luminosity)⟩

/-! ## §4  The three levels -/

theorem margin_moon (name : String) : margin ("    - " ++ name) = 4 := by
  simp [margin]

theorem margin_planet (name : String) : margin ("  - Name: " ++ name) = 2 := by
  simp [margin]

theorem margin_star (name : String) : margin ("- Name: " ++ name) = 0 := by
  simp [margin]

theorem forall₂_map_eq {α β : Type} (f : α → β) (xs : List α) :
    List.Forall₂ (fun a b => f a = b) xs (xs.map f) := by
  rw [List.forall₂_map_right_iff, List.forall₂_same]
  exact fun _ _ => rfl

/-- The line of a moon, as a block. -/
def Moon.lines (m : Moon) : List String := ["    - " ++ m.name]

theorem PlanetBranch.lines_eq (b : PlanetBranch) : b.lines = ["  - Name: " ++ b.planet.name,
    "    Type: " ++ b.planet.type.label, "    Supports life: " ++ b.planet.lifeText,
    "    Moons:"] ++ (b.moons.map Moon.lines).flatten := by
  rw [← List.flatMap_def]
  exact congrArg _ (List.map_eq_flatMap ..)

theorem moons_inj {ms ns : List Moon} {rest rest' : List String} (after : LeftOf 4 rest)
    (after' : LeftOf 4 rest')
    (h : (ms.map Moon.lines).flatten ++ rest = (ns.map Moon.lines).flatten ++ rest') :
    ms = ns ∧ rest = rest' := by
  have inj : List.Forall₂ (· = ·) ms ns ∧ rest = rest' := by
    refine blocks_inj ?_ ?_ (forall₂_map_eq _ ms) (forall₂_map_eq _ ns) after after' h
    · rintro m _ rfl
      exact ⟨_, [], rfl, margin_moon m.name⟩
    · rintro ⟨m⟩ ⟨k⟩ _ _ rest rest' rfl rfl - - h
      obtain ⟨line, tail⟩ := List.cons.inj h
      exact ⟨congrArg Moon.mk ((String.append_right_inj _).mp line), tail⟩
  rwa [List.forall₂_eq_eq_eq] at inj

theorem planets_inj {bs ds : List PlanetBranch} {rest rest' : List String} (after : LeftOf 2 rest)
    (after' : LeftOf 2 rest')
    (h : bs.flatMap PlanetBranch.lines ++ rest = ds.flatMap PlanetBranch.lines ++ rest') :
    bs = ds ∧ rest = rest' := by
  rw [List.flatMap_def, List.flatMap_def] at h
  have inj : List.Forall₂ (· = ·) bs ds ∧ rest = rest' := by
    refine blocks_inj ?_ ?_ (forall₂_map_eq _ bs) (forall₂_map_eq _ ds) after after' h
    · rintro b _ rfl
      exact ⟨_, _, b.lines_eq, margin_planet b.planet.name⟩
    · rintro ⟨⟨name, type, life⟩, moons⟩ ⟨⟨name', type', life'⟩, moons'⟩ _ _ rest rest' rfl rfl
        after after' h
      rw [PlanetBranch.lines_eq, PlanetBranch.lines_eq, List.append_assoc, List.append_assoc] at h
      obtain ⟨nameLine, h⟩ := List.cons.inj h
      obtain ⟨typeLine, h⟩ := List.cons.inj h
      obtain ⟨lifeLine, h⟩ := List.cons.inj h
      obtain ⟨rfl, tail⟩ := moons_inj (after.mono (by decide)) (after'.mono (by decide))
        (List.cons.inj h).2
      obtain rfl := (String.append_right_inj _).mp nameLine
      obtain rfl := PlanetType.label_inj ((String.append_right_inj _).mp typeLine)
      obtain rfl := Planet.supportsLife_eq ((String.append_right_inj _).mp lifeLine)
      exact ⟨rfl, tail⟩
  rwa [List.forall₂_eq_eq_eq] at inj

theorem StarBranch.lines?_eq_some_iff {b : StarBranch} {ls : List String} :
    b.lines? = some ls ↔ ∃ text, b.star.classText? = some text ∧
      ls = ["- Name: " ++ b.star.name, "  Class: " ++ text, "  Planets:"] ++
        b.planets.flatMap PlanetBranch.lines := by
  unfold StarBranch.lines?
  rw [Option.map_eq_some_iff]
  constructor
  · rintro ⟨text, written, rfl⟩
    exact ⟨text, written, rfl⟩
  · rintro ⟨text, written, rfl⟩
    exact ⟨text, written, rfl⟩

theorem stars_inj {bs ds : List StarBranch} {us vs : List (List String)}
    (hu : List.Forall₂ (fun b ls => StarBranch.lines? b = some ls) bs us)
    (hv : List.Forall₂ (fun b ls => StarBranch.lines? b = some ls) ds vs)
    (h : us.flatten = vs.flatten) : List.Forall₂ StarBranch.LooksLike bs ds := by
  refine (blocks_inj (n := 0) ?_ ?_ hu hv (leftOf_nil 0) (leftOf_nil 0)
    (congrArg (· ++ []) h)).1
  · intro b ls written
    obtain ⟨text, -, rfl⟩ := StarBranch.lines?_eq_some_iff.mp written
    exact ⟨_, _, rfl, margin_star b.star.name⟩
  · intro b d ks ls rest rest' hk hl after after' h
    obtain ⟨text, written, rfl⟩ := StarBranch.lines?_eq_some_iff.mp hk
    obtain ⟨text', written', rfl⟩ := StarBranch.lines?_eq_some_iff.mp hl
    rw [List.append_assoc, List.append_assoc] at h
    obtain ⟨nameLine, h⟩ := List.cons.inj h
    obtain ⟨classLine, h⟩ := List.cons.inj h
    obtain ⟨planets, tail⟩ := planets_inj (after.mono (by decide)) (after'.mono (by decide))
      (List.cons.inj h).2
    obtain rfl := (String.append_right_inj _).mp classLine
    obtain ⟨spectralClass, mass, radius, temperature, luminosity⟩ :=
      Star.classText?_inj written written'
    exact ⟨⟨⟨(String.append_right_inj _).mp nameLine, spectralClass, mass, radius, temperature,
      luminosity⟩, planets⟩, tail⟩

/-! ## §5  The theorem -/

/-- Branches that look alike are written alike. -/
theorem StarBranch.LooksLike.lines?_eq {b d : StarBranch} (h : b.LooksLike d) :
    b.lines? = d.lines? := by
  obtain ⟨⟨name, spectralClass, mass, radius, temperature, luminosity⟩, planets⟩ := h
  simp only [StarBranch.lines?, Star.classText?, name, spectralClass, mass, radius, temperature,
    luminosity, planets]

theorem mapM_eq_some_iff {α β : Type} {f : α → Option β} {xs : List α} {ys : List β} :
    xs.mapM f = some ys ↔ List.Forall₂ (fun x y => f x = some y) xs ys := by
  induction xs generalizing ys with
  | nil => simp [eq_comm]
  | cons x xs ih =>
      simp only [List.mapM_cons, List.forall₂_cons_left_iff, ← ih]
      constructor
      · intro h
        obtain ⟨y, hy, h⟩ := Option.bind_eq_some_iff.mp h
        obtain ⟨zs, hz, h⟩ := Option.bind_eq_some_iff.mp h
        exact ⟨y, zs, hy, hz, (Option.some.inj h).symm⟩
      · rintro ⟨y, zs, hy, hz, rfl⟩
        rw [hy, hz]
        rfl

theorem GalaxyReport.lines?_eq_some_iff {r : GalaxyReport} {ls : List String} :
    r.lines? = some ls ↔ ∃ us,
      List.Forall₂ (fun b ls => StarBranch.lines? b = some ls) r.stars us ∧
      ls = ["--- Data for " ++ r.galaxy.name ++ " galaxy ---", "Type: " ++ r.galaxy.type.word,
        "Age: " ++ r.galaxy.ageText, "Stars:"] ++ us.flatten ++
        ["--- End of data for " ++ r.galaxy.name ++ " galaxy ---"] := by
  unfold GalaxyReport.lines?
  simp only [Option.map_eq_some_iff, mapM_eq_some_iff]
  constructor
  · rintro ⟨us, written, rfl⟩
    exact ⟨us, written, rfl⟩
  · rintro ⟨us, written, rfl⟩
    exact ⟨us, written, rfl⟩

theorem StarBranch.mapM_lines?_eq {bs ds : List StarBranch}
    (like : List.Forall₂ StarBranch.LooksLike bs ds) :
    bs.mapM StarBranch.lines? = ds.mapM StarBranch.lines? := by
  induction like with
  | nil => rfl
  | cons first _ ih => rw [List.mapM_cons, List.mapM_cons, first.lines?_eq, ih]

theorem GalaxyReport.LooksLike.lines?_eq {r q : GalaxyReport} (h : r.LooksLike q) :
    r.lines? = q.lines? := by
  rw [GalaxyReport.lines?, GalaxyReport.lines?, h.galaxy, StarBranch.mapM_lines?_eq h.stars]

theorem Galaxy.eq_of_lines {g k : Galaxy}
    (name : "--- Data for " ++ g.name ++ " galaxy ---" = "--- Data for " ++ k.name ++ " galaxy ---")
    (type : "Type: " ++ g.type.word = "Type: " ++ k.type.word)
    (age : "Age: " ++ g.ageText = "Age: " ++ k.ageText) : g = k := by
  obtain ⟨n, t, a, u⟩ := g
  obtain ⟨n', t', a', u'⟩ := k
  obtain rfl : n = n' := (String.append_right_inj _).mp ((String.append_left_inj _).mp name)
  obtain rfl : t = t' := GalaxyType.word_inj ((String.append_right_inj _).mp type)
  obtain ⟨rfl, rfl⟩ : a = a' ∧ u = u' := ageText_inj ((String.append_right_inj _).mp age)
  rfl

/-- **The lines of a report tell all that it shows.** When one report is written as certain lines,
another one is written as the same lines exactly if it shows the same galaxy with the same stars,
planets and moons in the same places, whatever names they have. Of the diameters of stars it is
their halves that are shown. -/
theorem report_recovered {r q : GalaxyReport} {ls : List String} (h : r.lines? = some ls) :
    q.lines? = some ls ↔ r.LooksLike q := by
  constructor
  · intro h'
    obtain ⟨us, hu, rfl⟩ := GalaxyReport.lines?_eq_some_iff.mp h
    obtain ⟨vs, hv, same⟩ := GalaxyReport.lines?_eq_some_iff.mp h'
    obtain ⟨body, -⟩ := List.append_inj' same rfl
    obtain ⟨first, body⟩ := List.cons.inj body
    obtain ⟨second, body⟩ := List.cons.inj body
    obtain ⟨third, body⟩ := List.cons.inj body
    exact ⟨Galaxy.eq_of_lines first second third, stars_inj hu hv (List.cons.inj body).2⟩
  · intro like
    rw [← like.lines?_eq, h]

/-- Names that read like other lines of a report, and two diameters with the same half. -/
theorem report_recovered_from_imitations :
    let galaxy : Galaxy := ⟨"x galaxy ---", .spiral, 13.6, .billion⟩
    let planets : List PlanetBranch :=
      [⟨⟨"Stars:", .iceGiant, true⟩, [⟨"- Name: Mars"⟩, ⟨"y\n- Name: Sun"⟩]⟩,
        ⟨⟨"  -", .planetar, false⟩, []⟩]
    let r : GalaxyReport := ⟨galaxy, [⟨⟨"(1, 2", 1.0, .zero false, 5500, 1.0, .g⟩, planets⟩]⟩
    let q : GalaxyReport := ⟨galaxy, [⟨⟨"(1, 2", 1.0, 5e-324, 5500, 1.0, .g⟩, planets⟩]⟩
    let ls := ["--- Data for x galaxy --- galaxy ---", "Type: spiral", "Age: 13.6B", "Stars:",
      "- Name: (1, 2", "  Class: G (1, 0, 5500, 1)", "  Planets:",
      "  - Name: Stars:", "    Type: ice giant", "    Supports life: yes", "    Moons:",
      "    - - Name: Mars", "    - y\n- Name: Sun",
      "  - Name:   -", "    Type: planetar", "    Supports life: no", "    Moons:",
      "--- End of data for x galaxy --- galaxy ---"]
    r.lines? = some ls ∧ q.lines? = some ls ∧ r.LooksLike q ∧ r ≠ q := by
  intro galaxy planets r q ls
  have written : r.lines? = some ls := by decide +kernel
  have written' : q.lines? = some ls := by decide +kernel
  exact ⟨written, written', (report_recovered written).mp written', by decide +kernel⟩

end SkyCatalog
