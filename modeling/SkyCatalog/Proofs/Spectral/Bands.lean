import Mathlib.Data.List.Pairwise
import SkyCatalog.Proofs.Binary64.Order
import SkyCatalog.Spectral.Table

/-!
# Bands — the class of a star is that of its row

The search for a band stops at the first one that a temperature is below. The rows of the table
lie end to end from 2400 on and the last one has no end, so the search always stops, and above
2400 it stops at the one row that contains the temperature. All columns of the table ascend
together: what a hotter row forbids, every cooler one forbids as well. A star may therefore become
hotter, lighter, smaller or dimmer without losing a class, as long as its mass stays that of a
star.
-/

namespace SkyCatalog.Spectral

variable {r s : Row} {rows : List Row} {t u : Int} {least : Nat}

/-! ## §1  Rows end to end -/

/-- Rows that lie end to end from a temperature on: each begins where the one before it ends, and
only the last one has no end. -/
inductive Stacked : Nat → List Row → Prop where
  | last {least : Nat} {row : Row} (begins : row.least = least) (endless : row.below = none) :
      Stacked least [row]
  | cons {least bound : Nat} {row : Row} {rows : List Row} (begins : row.least = least)
      (ends : row.below = some bound) (upward : least ≤ bound) (rest : Stacked bound rows) :
      Stacked least (row :: rows)

/-- A row is over before another one begins. -/
def Row.EndsBefore (r s : Row) : Prop := ∃ bound ∈ r.below, bound ≤ s.least

theorem Row.EndsBefore.lt (h : r.EndsBefore s) (ht : r.Contains t) (hu : s.Contains u) :
    t < u := by
  obtain ⟨bound, ends, begins⟩ := h
  have below := ht.2 bound ends
  have above := hu.1
  omega

theorem Stacked.least_le (h : Stacked least rows) (hr : r ∈ rows) : least ≤ r.least := by
  induction h with
  | last begins => rw [List.mem_singleton.mp hr, begins]
  | cons begins ends upward rest ih =>
      rcases List.mem_cons.mp hr with rfl | hr
      · rw [begins]
      · exact Nat.le_trans upward (ih hr)

theorem Stacked.pairwise (h : Stacked least rows) : rows.Pairwise Row.EndsBefore := by
  induction h with
  | last => exact List.pairwise_singleton _ _
  | cons begins ends upward rest ih =>
      refine List.pairwise_cons.mpr ⟨?_, ih⟩
      intro s hs
      exact ⟨_, ends, rest.least_le hs⟩

/-- Stacked rows leave no gap, and no end. -/
theorem Stacked.exists_contains (h : Stacked least rows) (warm : (least : Int) ≤ t) :
    ∃ r ∈ rows, r.Contains t := by
  induction h with
  | @last least row begins endless =>
      refine ⟨row, List.mem_singleton_self row, begins ▸ warm, ?_⟩
      rw [endless]
      exact nofun
  | @cons least bound row rows begins ends upward rest ih =>
      rcases Int.lt_or_le t bound with below | above
      · refine ⟨row, List.mem_cons_self, begins ▸ warm, ?_⟩
        intro b hb
        obtain rfl := Option.some.inj (ends.symm.trans hb)
        exact below
      · obtain ⟨s, hs, contains⟩ := ih above
        exact ⟨s, List.mem_cons_of_mem row hs, contains⟩

/-- Of two different rows, one is over before the other one begins. -/
theorem endsBefore_or (h : rows.Pairwise Row.EndsBefore) (hr : r ∈ rows) (hs : s ∈ rows)
    (different : r ≠ s) : r.EndsBefore s ∨ s.EndsBefore r := by
  have apart := (h.imp Or.inl : rows.Pairwise fun a b => a.EndsBefore b ∨ b.EndsBefore a)
  have : Std.Symm fun a b : Row => a.EndsBefore b ∨ b.EndsBefore a := ⟨fun _ _ => Or.symm⟩
  exact apart.forall hr hs different

/-- No two rows share a temperature. -/
theorem eq_of_contains (h : rows.Pairwise Row.EndsBefore) (hr : r ∈ rows) (hs : s ∈ rows)
    (ht : r.Contains t) (hu : s.Contains t) : r = s := by
  by_contra different
  rcases endsBefore_or h hr hs different with before | before
  · exact Int.lt_irrefl t (before.lt ht hu)
  · exact Int.lt_irrefl t (before.lt hu ht)

/-- The row of a hotter temperature begins no earlier. -/
theorem least_le_of_contains (h : rows.Pairwise Row.EndsBefore) (hr : r ∈ rows) (hs : s ∈ rows)
    (ht : r.Contains t) (hu : s.Contains u) (hotter : t ≤ u) : r.least ≤ s.least := by
  by_cases same : r = s
  · rw [same]
  · rcases endsBefore_or h hr hs same with ⟨bound, ends, begins⟩ | before
    · have low := ht.1
      have high := ht.2 bound ends
      omega
    · have cooler := before.lt hu ht
      omega

/-! ## §2  The search -/

theorem reaches_band_iff : r.band.reaches t = true ↔ ∀ bound ∈ r.below, t < bound := by
  unfold Band.reaches Row.band
  cases r.below <;> simp

theorem allows_band_iff {mass radius luminosity : Binary64} :
    r.band.allows mass radius luminosity = true ↔ ¬r.Exceeded mass radius luminosity := by
  unfold Band.allows Row.band Row.Exceeded
  cases r.limits <;> simp [Limits.allow, and_assoc]

/-- **The search stops at the row that contains the temperature**: all rows before it are over. -/
theorem find?_band (h : rows.Pairwise Row.EndsBefore) (hr : r ∈ rows) (ht : r.Contains t) :
    (rows.map Row.band).find? (·.reaches t) = some r.band := by
  obtain ⟨before, after, rfl⟩ := List.append_of_mem hr
  rw [List.map_append, List.map_cons, List.find?_eq_some_iff_append]
  refine ⟨reaches_band_iff.mpr ht.2, before.map Row.band, after.map Row.band, rfl, ?_⟩
  intro band hb
  obtain ⟨s, hs, rfl⟩ := List.mem_map.mp hb
  obtain ⟨bound, ends, begins⟩ := (List.pairwise_append.mp h).2.2 s hs r List.mem_cons_self
  have passed : ¬s.band.reaches t = true := by
    rw [reaches_band_iff]
    intro below
    have low := below bound ends
    have high := ht.1
    omega
  simpa using passed

theorem map_band_table : table.map Row.band = bands := by decide +kernel

theorem table_stacked : Stacked 2400 table := by
  unfold table
  iterate 6 refine .cons rfl rfl (by decide) ?_
  exact .last rfl rfl

/-- One row contains a temperature from 2400 on. -/
theorem existsUnique_row (warm : 2400 ≤ t) : ∃! r, r ∈ table ∧ r.Contains t := by
  obtain ⟨r, hr, ht⟩ := table_stacked.exists_contains warm
  refine ⟨r, ⟨hr, ht⟩, ?_⟩
  rintro s ⟨hs, hu⟩
  exact eq_of_contains table_stacked.pairwise hs hr hu ht

/-- The bands are never exhausted, not even by a temperature that no row contains. -/
theorem exists_find?_bands (t : Int) : ∃ band, bands.find? (·.reaches t) = some band := by
  rw [← Option.isSome_iff_exists, List.find?_isSome]
  exact ⟨⟨none, none, .o⟩, by decide +kernel, rfl⟩

/-! ## §3  Classes -/

variable {mass diameter luminosity mass' diameter' luminosity' : Binary64} {c c' : SpectralClass}

/-- **The class of a star is that of the row with its temperature**, unless its mass is below that
of all stars or a limit of the row is exceeded. -/
theorem classify_of_contains (hr : r ∈ table) (ht : r.Contains t) :
    classify mass diameter t luminosity =
      if mass.lt 0.08 = true ∨ r.Exceeded mass diameter.half luminosity then none
      else some r.spectralClass := by
  have warm : ¬t < leastTemperature := Int.not_lt.mpr
    (Int.le_trans (Int.ofNat_le.mpr (table_stacked.least_le hr)) ht.1)
  have found := find?_band table_stacked.pairwise hr ht
  rw [map_band_table] at found
  unfold classify
  rw [found, Option.bind_some]
  by_cases light : mass.lt 0.08 = true
  · have guarded : (decide (t < leastTemperature) || mass.lt leastMass) = true := by
      rw [Bool.or_eq_true]
      exact .inr light
    rw [if_pos guarded, if_pos (.inl light)]
  · have passed : ¬(decide (t < leastTemperature) || mass.lt leastMass) = true := by
      rw [Bool.or_eq_true, decide_eq_true_eq, not_or]
      exact ⟨warm, light⟩
    rw [if_neg passed]
    by_cases exceeded : r.Exceeded mass diameter.half luminosity
    · have refused : ¬r.band.allows mass diameter.half luminosity = true := fun allowed =>
        allows_band_iff.mp allowed exceeded
      rw [if_neg refused, if_pos (.inr exceeded)]
    · rw [if_neg (not_or.mpr ⟨light, exceeded⟩), if_pos (allows_band_iff.mpr exceeded)]
      rfl

theorem classify_of_cool (cool : t < 2400) : classify mass diameter t luminosity = none := by
  unfold classify
  rw [if_pos]
  rw [Bool.or_eq_true, decide_eq_true_eq]
  exact .inl cool

theorem classify_eq_some_iff : classify mass diameter t luminosity = some c ↔
    mass.lt 0.08 = false ∧ ∃ r ∈ table, r.Contains t ∧
      ¬r.Exceeded mass diameter.half luminosity ∧ r.spectralClass = c := by
  constructor
  · intro classified
    have warm : 2400 ≤ t := by
      by_contra cool
      rw [classify_of_cool (Int.not_le.mp cool)] at classified
      cases classified
    obtain ⟨r, ⟨hr, ht⟩, -⟩ := existsUnique_row warm
    rw [classify_of_contains hr ht] at classified
    split at classified
    · cases classified
    · next passed =>
        obtain ⟨heavy, within⟩ := not_or.mp passed
        exact ⟨Bool.eq_false_iff.mpr heavy, r, hr, ht, within, Option.some.inj classified⟩
  · rintro ⟨heavy, r, hr, ht, within, rfl⟩
    rw [classify_of_contains hr ht, if_neg]
    exact not_or.mpr ⟨Bool.eq_false_iff.mp heavy, within⟩

theorem classify_eq_none_iff : classify mass diameter t luminosity = none ↔
    t < 2400 ∨ mass.lt 0.08 = true ∨
      ∃ r ∈ table, r.Contains t ∧ r.Exceeded mass diameter.half luminosity := by
  rcases Int.lt_or_le t 2400 with cool | warm
  · simp only [classify_of_cool cool, cool, true_or]
  · obtain ⟨r, ⟨hr, ht⟩, -⟩ := existsUnique_row warm
    have rows : (∃ s ∈ table, s.Contains t ∧ s.Exceeded mass diameter.half luminosity) ↔
        r.Exceeded mass diameter.half luminosity := by
      constructor
      · rintro ⟨s, hs, hu, exceeded⟩
        rwa [eq_of_contains table_stacked.pairwise hr hs ht hu]
      · intro exceeded
        exact ⟨r, hr, ht, exceeded⟩
    rw [classify_of_contains hr ht, rows, or_iff_right (Int.not_lt.mpr warm)]
    simp only [ite_eq_left_iff, reduceCtorEq, imp_false, not_not]

/-! ## §4  Hotter rows -/

/-- Limits that are no higher than others. -/
def Limits.AtMost (l k : Limits) : Prop :=
  l.luminosity.le k.luminosity = true ∧ l.mass.le k.mass = true ∧ l.radius.le k.radius = true

/-- The rows ascend in all columns: a row that begins no earlier than another one has limits only
where that one has lower limits or the same, and its class is no cooler. -/
theorem table_ascends : ∀ r ∈ table, ∀ s ∈ table, r.least ≤ s.least →
    (∀ k ∈ s.limits, ∃ l ∈ r.limits, l.AtMost k) ∧
      r.spectralClass.heat ≤ s.spectralClass.heat := by
  unfold Limits.AtMost
  decide +kernel

/-- What exceeds a limit of the row of a hotter temperature exceeds one of a cooler row, and so do
measurements that it is at most. -/
theorem exceeded_of_hotter (hr : r ∈ table) (hs : s ∈ table) (later : r.least ≤ s.least)
    {radius radius' : Binary64} (masses : mass'.AtMost mass) (radii : radius'.AtMost radius)
    (luminosities : luminosity'.AtMost luminosity)
    (exceeded : s.Exceeded mass' radius' luminosity') : r.Exceeded mass radius luminosity := by
  obtain ⟨k, hk, above⟩ := exceeded
  obtain ⟨l, hl, brighter, heavier, larger⟩ := (table_ascends r hr s hs later).1 k hk
  refine ⟨l, hl, ?_⟩
  rcases above with bright | heavy | large
  · exact .inl (luminosities.lt_of_lt brighter bright)
  · exact .inr (.inl (masses.lt_of_lt heavier heavy))
  · exact .inr (.inr (radii.lt_of_lt larger large))

/-- **A star that becomes hotter keeps a class**, and none that is cooler, as long as its mass stays
that of a star and nothing else about it grows. -/
theorem classify_of_hotter (classified : classify mass diameter t luminosity = some c)
    (hotter : t ≤ u) (masses : mass'.AtMost mass) (diameters : diameter'.AtMost diameter)
    (luminosities : luminosity'.AtMost luminosity) (heavy : mass'.lt 0.08 = false) :
    ∃ c', classify mass' diameter' u luminosity' = some c' ∧ c.heat ≤ c'.heat := by
  obtain ⟨-, r, hr, ht, within, rfl⟩ := classify_eq_some_iff.mp classified
  have warm : 2400 ≤ u := Int.le_trans
    (Int.le_trans (Int.ofNat_le.mpr (table_stacked.least_le hr)) ht.1) hotter
  obtain ⟨s, ⟨hs, hu⟩, -⟩ := existsUnique_row warm
  have later := least_le_of_contains table_stacked.pairwise hr hs ht hu hotter
  refine ⟨s.spectralClass, classify_eq_some_iff.mpr ⟨heavy, s, hs, hu, ?_, rfl⟩, ?_⟩
  · exact mt (exceeded_of_hotter hr hs later masses diameters.half luminosities) within
  · exact (table_ascends r hr s hs later).2

/-- The temperature alone decides between the classes. -/
theorem class_eq_of_classify (classified : classify mass diameter t luminosity = some c)
    (classified' : classify mass' diameter' t luminosity' = some c') : c = c' := by
  obtain ⟨-, r, hr, ht, -, rfl⟩ := classify_eq_some_iff.mp classified
  obtain ⟨-, s, hs, hu, -, rfl⟩ := classify_eq_some_iff.mp classified'
  rw [eq_of_contains table_stacked.pairwise hr hs ht hu]

/-! ## §5  The theorem -/

/-- A classifier follows temperatures by the table: what rows and bands there are, what has no class
and what has which, and how classes change from star to star. -/
structure FollowsTemperatures
    (classify : Binary64 → Binary64 → Int → Binary64 → Option SpectralClass) : Prop where
  oneRow : ∀ t : Int, 2400 ≤ t → ∃! r, r ∈ table ∧ r.Contains t
  stops : ∀ t : Int, ∃ band, bands.find? (·.reaches t) = some band
  halves : ∀ rank < Binary64.infinityRank,
    Binary64.halfRank rank = Binary64.nearest (Binary64.units rank) 2
  noClass : ∀ (mass diameter : Binary64) (t : Int) (luminosity : Binary64),
    classify mass diameter t luminosity = none ↔ t < 2400 ∨ mass.lt 0.08 = true ∨
      ∃ r ∈ table, r.Contains t ∧ r.Exceeded mass diameter.half luminosity
  ofRow : ∀ (mass diameter : Binary64) (t : Int) (luminosity : Binary64) (c : SpectralClass),
    classify mass diameter t luminosity = some c ↔ mass.lt 0.08 = false ∧
      ∃ r ∈ table, r.Contains t ∧ ¬r.Exceeded mass diameter.half luminosity ∧ r.spectralClass = c
  hotter : ∀ (mass diameter : Binary64) (t : Int) (luminosity : Binary64) (c : SpectralClass)
    (mass' diameter' : Binary64) (t' : Int) (luminosity' : Binary64),
    classify mass diameter t luminosity = some c → t ≤ t' → mass'.AtMost mass →
      diameter'.AtMost diameter → luminosity'.AtMost luminosity → mass'.lt 0.08 = false →
      ∃ c', classify mass' diameter' t' luminosity' = some c' ∧ c.heat ≤ c'.heat
  sameClass : ∀ (mass diameter luminosity mass' diameter' luminosity' : Binary64) (t : Int)
    (c c' : SpectralClass), classify mass diameter t luminosity = some c →
      classify mass' diameter' t luminosity' = some c' → c = c'

/-- **Classes follow temperatures.** A temperature from 2400 on is in one row of the table, and the
search for a band comes to an end at any temperature. Whatever is measured, numbers or not, there
is no class exactly for a temperature below 2400, a mass below 0.08, or a measurement above a limit
of the row that contains the temperature; otherwise the class is that of this row. The radius in it
is the diameter halved, which for a finite magnitude is the number nearest to its half. A star that
has a class has one no cooler when it is hotter, its mass is still not below 0.08, and each other
measurement is no higher than before or no number. Stars of one temperature are of one class. -/
theorem classes_follow_temperatures : FollowsTemperatures classify where
  oneRow _ := existsUnique_row
  stops := exists_find?_bands
  halves _ := Binary64.halfRank_eq_nearest
  noClass _ _ _ _ := classify_eq_none_iff
  ofRow _ _ _ _ _ := classify_eq_some_iff
  hotter := by
    intro mass diameter t luminosity c mass' diameter' t' luminosity' classified warmer masses
      diameters luminosities heavy
    exact classify_of_hotter classified warmer masses diameters luminosities heavy
  sameClass := by
    intro mass diameter luminosity mass' diameter' luminosity' t c c' classified classified'
    exact class_eq_of_classify classified classified'

/-- A yellow star becomes hotter while its mass is lost, its diameter falls to the negative zero and
its luminosity below all numbers: it is at the very bound where class A begins. -/
theorem classes_follow_temperatures_of_fading_star :
    classify 1.0 2.0 5999 1.5 = some .g ∧ Binary64.nan.AtMost 1.0 ∧
      (Binary64.zero true).AtMost 2.0 ∧ (Binary64.infinity true).AtMost 1.5 ∧
      Binary64.nan.lt 0.08 = false ∧
      ∃ c', classify .nan (.zero true) 7500 (.infinity true) = some c' ∧
        SpectralClass.g.heat ≤ c'.heat := by
  have yellow : classify 1.0 2.0 5999 1.5 = some .g := by decide +kernel
  have smaller : (Binary64.zero true).AtMost 2.0 := .inr (by decide +kernel)
  have dimmer : (Binary64.infinity true).AtMost 1.5 := .inr (by decide +kernel)
  refine ⟨yellow, .inl rfl, smaller, dimmer, rfl, ?_⟩
  exact classes_follow_temperatures.hotter 1.0 2.0 5999 1.5 .g .nan (.zero true) 7500
    (.infinity true) yellow (by decide) (.inl rfl) smaller dimmer rfl

end SkyCatalog.Spectral
