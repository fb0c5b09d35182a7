import SkyCatalog.Body.Basic

/-!
# Sameness — records that are told apart by nothing but the signs of zeros

Two records have the *same fields* when all of them are equal as data, except that a zero may have
either sign. This says nothing about numbers that are none: as data, a `nan` is like any other.
Whether a record has such a field is asked apart, of all its *numbers*.
-/

namespace SkyCatalog

/-- The same number, whichever sign a zero has. -/
def Binary64.Same (x y : Binary64) : Prop := x = y ∨ (x.isZero = true ∧ y.isZero = true)

instance (x y : Binary64) : Decidable (x.Same y) := inferInstanceAs (Decidable (_ ∨ _))

namespace Body

/-- The fields of a record that are measured or counted as real numbers. -/
def numbers : Body → List Binary64
  | galaxy g => [g.age]
  | star s => [s.mass, s.diameter, s.luminosity]
  | planet _ => []
  | moon _ => []

/-- Records of one kind and one name whose other fields are the same, too. -/
inductive SameFields : Body → Body → Prop where
  | galaxy {name : String} {type : GalaxyType} {age age' : Binary64} {units : AgeUnit}
      (ages : age.Same age') :
      SameFields (.galaxy ⟨name, type, age, units⟩) (.galaxy ⟨name, type, age', units⟩)
  | star {name : String} {mass mass' diameter diameter' luminosity luminosity' : Binary64}
      {temperature : Nat} {spectralClass : SpectralClass} (masses : mass.Same mass')
      (diameters : diameter.Same diameter') (luminosities : luminosity.Same luminosity') :
      SameFields (.star ⟨name, mass, diameter, temperature, luminosity, spectralClass⟩)
        (.star ⟨name, mass', diameter', temperature, luminosity', spectralClass⟩)
  | planet {p : Planet} : SameFields (.planet p) (.planet p)
  | moon {m : Moon} : SameFields (.moon m) (.moon m)

end Body

end SkyCatalog
