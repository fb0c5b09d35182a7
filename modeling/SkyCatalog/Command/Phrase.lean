import SkyCatalog.Body.Basic
import SkyCatalog.Command.Token

/-!
# Phrases — what a line says before any catalog is asked

Reading has two halves. The first takes tokens off the line and needs no catalog: its result
is a *phrase*, in which bodies are still named (`Form.read`). The second (`Phrase.resolve`) looks
the names up. Nothing is taken off the line in the second half, so the phrase and the rest of the
line depend on the line alone.
-/

namespace SkyCatalog

/-- What a line says. -/
inductive Phrase where
  | addGalaxy (galaxy : Galaxy)
  | addStar (parent name : String) (mass diameter : Binary64) (temperature : Nat)
      (luminosity : Binary64)
  | addPlanet (parent : String) (planet : Planet)
  | addMoon (parent : String) (moon : Moon)
  | list (kind : Kind)
  | stats
  | print (name : String)
  | exit
deriving DecidableEq, Repr

namespace Phrase

/-- The words that begin a planet type of two words. -/
def firstHalves : List String := ["giant", "ice"]

/-- The answers to the question whether a planet supports life. -/
def ofAnswer? (w : String) : Option Bool :=
  if w = "yes" then some true else if w = "no" then some false else none

end Phrase

/-- The first half of a type of two words is no type by itself. -/
theorem PlanetType.label_not_firstHalf (t : PlanetType) : t.label ∉ Phrase.firstHalves := by
  cases t <;> decide

end SkyCatalog
