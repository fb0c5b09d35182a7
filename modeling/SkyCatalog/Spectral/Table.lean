import SkyCatalog.Spectral

/-!
# The table of classes — what the search for a band stands for

The table gives each class the temperatures from one bound up to the next, and the limits that a
star at these temperatures keeps. It is what the classifier is measured against: a row says from
where on it holds, so the order of the rows carries no meaning, whereas a band is the right one
only when all bands before it have been passed over.
-/

namespace SkyCatalog

/-- The classes from the coolest to the hottest one. -/
def SpectralClass.heat : SpectralClass → Nat
  | m => 0
  | k => 1
  | g => 2
  | f => 3
  | a => 4
  | b => 5
  | o => 6

namespace Spectral

/-- A row of the table: the temperatures from a bound on, up to another one if there is one, with
the limits there and the class. -/
structure Row where
  least : Nat
  below : Option Nat
  limits : Option Limits
  spectralClass : SpectralClass
deriving DecidableEq, Repr

def table : List Row := [
  ⟨2400, some 3700, some ⟨0.08, 0.45, 0.7⟩, .m⟩,
  ⟨3700, some 5200, some ⟨0.6, 0.8, 0.96⟩, .k⟩,
  ⟨5200, some 6000, some ⟨1.5, 1.04, 1.15⟩, .g⟩,
  ⟨6000, some 7500, some ⟨5.0, 1.4, 1.4⟩, .f⟩,
  ⟨7500, some 10000, some ⟨25.0, 2.1, 1.8⟩, .a⟩,
  ⟨10000, some 30000, some ⟨30000.0, 16.0, 6.6⟩, .b⟩,
  ⟨30000, none, none, .o⟩]

/-- A temperature of a row. -/
def Row.Contains (r : Row) (temperature : Int) : Prop :=
  r.least ≤ temperature ∧ ∀ bound ∈ r.below, temperature < bound

instance (r : Row) (temperature : Int) : Decidable (r.Contains temperature) :=
  inferInstanceAs (Decidable (_ ∧ _))

/-- A measurement is above its limit, where there are limits. -/
def Row.Exceeded (r : Row) (mass radius luminosity : Binary64) : Prop :=
  ∃ limits ∈ r.limits, limits.luminosity.lt luminosity = true ∨ limits.mass.lt mass = true ∨
    limits.radius.lt radius = true

instance (r : Row) (mass radius luminosity : Binary64) :
    Decidable (r.Exceeded mass radius luminosity) :=
  inferInstanceAs (Decidable (∃ _ ∈ _, _))

/-- The band that a row is searched by. -/
def Row.band (r : Row) : Band := ⟨r.below, r.limits, r.spectralClass⟩

end Spectral

end SkyCatalog
