import SkyCatalog.Catalog.Basic
import SkyCatalog.Command.Basic
import SkyCatalog.Command.Phrase
import SkyCatalog.Spectral

/-!
# The meaning of phrases — which command a phrase asks for

Stated as a relation, without an order of judging and without faults. A phrase that names a
stored body asks for a command that holds the body; where the body is not stored, or where a
star has no spectral class, it asks for nothing.
-/

namespace SkyCatalog

/-- The name of the body that another one is to be added under. -/
def Phrase.parentName? : Phrase → Option String
  | addStar parent .. => some parent
  | addPlanet parent _ => some parent
  | addMoon parent _ => some parent
  | _ => none

namespace Grammar

/-- The command that a phrase asks of a catalog. -/
inductive Asks (c : Catalog) : Phrase → Command → Prop where
  | addGalaxy {g : Galaxy} : Asks c (.addGalaxy g) (.add (.galaxy g) none)
  | addStar {parent name : String} {mass diameter luminosity : Binary64} {temperature : Nat}
      {galaxy : Held Body} {spectralClass : SpectralClass}
      (stored : c.fetch? .galaxy parent = some galaxy)
      (possible : Spectral.classify mass diameter temperature luminosity = some spectralClass) :
      Asks c (.addStar parent name mass diameter temperature luminosity)
        (.add (.star ⟨name, mass, diameter, temperature, luminosity, spectralClass⟩) (some galaxy))
  | addPlanet {parent : String} {p : Planet} {star : Held Body}
      (stored : c.fetch? .star parent = some star) :
      Asks c (.addPlanet parent p) (.add (.planet p) (some star))
  | addMoon {parent : String} {m : Moon} {planet : Held Body}
      (stored : c.fetch? .planet parent = some planet) :
      Asks c (.addMoon parent m) (.add (.moon m) (some planet))
  | list {kind : Kind} : Asks c (.list kind) (.list kind kind.plural)
  | stats : Asks c .stats .stats
  | print {name : String} {galaxy : Galaxy} {origin : Option Nat}
      (stored : c.fetch? .galaxy name = some ⟨.galaxy galaxy, origin⟩) :
      Asks c (.print name) (.print ⟨galaxy, origin⟩)
  | exit : Asks c .exit .exit

end Grammar

end SkyCatalog
