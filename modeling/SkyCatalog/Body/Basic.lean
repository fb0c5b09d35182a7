import SkyCatalog.Binary64.Rounding
import SkyCatalog.Body.Kind

/-!
# Bodies — what the catalog records

A body is a galaxy, a star, a planet or a moon, each with the fields of its kind. Records
never change once made.

Whether two records are the same is asked in two ways. As data, `=` compares every field to
the last bit. As records (`Body.agrees`), numbers are compared as numbers: the zeros agree,
and a `nan` agrees with nothing. A record with a `nan` field therefore does not even agree
with itself, and is recognised only by the caller still holding the stored one: `Held` keeps
where a value was taken from.
-/

namespace SkyCatalog

structure Galaxy where
  name : String
  type : GalaxyType
  age : Binary64
  units : AgeUnit
deriving DecidableEq, Repr

/-- A star, in solar units; the temperature in kelvin. -/
structure Star where
  name : String
  mass : Binary64
  diameter : Binary64
  temperature : Nat
  luminosity : Binary64
  spectralClass : SpectralClass
deriving DecidableEq, Repr

structure Planet where
  name : String
  type : PlanetType
  supportsLife : Bool
deriving DecidableEq, Repr

structure Moon where
  name : String
deriving DecidableEq, Repr

/-- Half the diameter. -/
def Star.radius (s : Star) : Binary64 := s.diameter.half

inductive Body where
  | galaxy (g : Galaxy)
  | star (s : Star)
  | planet (p : Planet)
  | moon (m : Moon)
deriving DecidableEq, Repr

namespace Body

def kind : Body → Kind
  | galaxy _ => .galaxy
  | star _ => .star
  | planet _ => .planet
  | moon _ => .moon

def name : Body → String
  | galaxy g => g.name
  | star s => s.name
  | planet p => p.name
  | moon m => m.name

def galaxy? : Body → Option Galaxy
  | galaxy g => some g
  | _ => none

def star? : Body → Option Star
  | star s => some s
  | _ => none

def planet? : Body → Option Planet
  | planet p => some p
  | _ => none

def moon? : Body → Option Moon
  | moon m => some m
  | _ => none

/-- The same record, numbers compared as numbers. -/
def agrees : Body → Body → Bool
  | galaxy x, galaxy y =>
    x.name == y.name && x.type == y.type && x.age.agrees y.age && x.units == y.units
  | star x, star y =>
    x.name == y.name && x.mass.agrees y.mass && x.diameter.agrees y.diameter &&
      x.temperature == y.temperature && x.luminosity.agrees y.luminosity &&
      x.spectralClass == y.spectralClass
  | planet x, planet y => x == y
  | moon x, moon y => x == y
  | _, _ => false

theorem kind_eq_of_agrees {x y : Body} (h : x.agrees y = true) : x.kind = y.kind := by
  cases x <;> cases y <;> first | rfl | simp [agrees] at h

theorem name_eq_of_agrees {x y : Body} (h : x.agrees y = true) : x.name = y.name := by
  cases x <;> cases y <;> simp_all [agrees, name]

end Body

/-- A value in a caller's hands: described afresh, or taken out of a catalog at a handle. -/
structure Held (α : Type) where
  value : α
  origin : Option Nat := none
deriving DecidableEq, Repr

namespace Held

/-- Another view of the same thing. -/
def map {α β : Type} (f : α → β) (x : Held α) : Held β := ⟨f x.value, x.origin⟩

/-- Another view of the same thing, where there is one. -/
def filterMap {α β : Type} (f : α → Option β) (x : Held α) : Option (Held β) :=
  (f x.value).map fun v => ⟨v, x.origin⟩

end Held

end SkyCatalog
