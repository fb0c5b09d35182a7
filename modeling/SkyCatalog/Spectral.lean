import SkyCatalog.Body.Basic

/-!
# Spectral classes — derived from what is measured

The temperature alone picks a band; mass, radius and luminosity may then forbid the class of
the band, never choose another. Only upper limits are enforced, and the band of the hottest
stars has none. A measurement that is no number is above no limit.
-/

namespace SkyCatalog.Spectral

/-- The upper limits of a band, each of them allowed itself. -/
structure Limits where
  luminosity : Binary64
  mass : Binary64
  radius : Binary64
deriving DecidableEq, Repr

/-- A band of temperatures, up to its bound and without it. -/
structure Band where
  below : Option Nat
  limits : Option Limits
  spectralClass : SpectralClass
deriving DecidableEq, Repr

def leastTemperature : Nat := 2400

def leastMass : Binary64 := 0.08

/-- All bands, the coolest first. -/
def bands : List Band := [
  ⟨some 3700, some ⟨0.08, 0.45, 0.7⟩, .m⟩,
  ⟨some 5200, some ⟨0.6, 0.8, 0.96⟩, .k⟩,
  ⟨some 6000, some ⟨1.5, 1.04, 1.15⟩, .g⟩,
  ⟨some 7500, some ⟨5.0, 1.4, 1.4⟩, .f⟩,
  ⟨some 10000, some ⟨25.0, 2.1, 1.8⟩, .a⟩,
  ⟨some 30000, some ⟨30000.0, 16.0, 6.6⟩, .b⟩,
  ⟨none, none, .o⟩]

/-- A temperature below the bound of a band. -/
def Band.reaches (b : Band) (temperature : Int) : Bool :=
  match b.below with
  | some bound => temperature < bound
  | none => true

/-- No measurement above its limit. -/
def Limits.allow (l : Limits) (mass radius luminosity : Binary64) : Bool :=
  !l.luminosity.lt luminosity && !l.mass.lt mass && !l.radius.lt radius

/-- The measurements of a star are within the limits of a band, if it has any. -/
def Band.allows (b : Band) (mass radius luminosity : Binary64) : Bool :=
  match b.limits with
  | some l => l.allow mass radius luminosity
  | none => true

/-- The spectral class of a star, unless its measurements belong to no star. -/
def classify (mass diameter : Binary64) (temperature : Int) (luminosity : Binary64) :
    Option SpectralClass :=
  if temperature < leastTemperature || mass.lt leastMass then none
  else
    (bands.find? (·.reaches temperature)).bind fun band =>
      if band.allows mass diameter.half luminosity then some band.spectralClass else none

example : classify 1.0 2.0 5500 1.0 = some .g := by decide +kernel
example : classify 20.0 1.0 35000 50000.0 = some .o := by decide +kernel
example : classify 0.05 1.0 3000 0.01 = none := by decide +kernel

end SkyCatalog.Spectral
