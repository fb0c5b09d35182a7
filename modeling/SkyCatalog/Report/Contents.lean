import SkyCatalog.Report.Basic

/-!
# Contents — the bodies that a report shows

A report is a tree, and its bodies are those at the nodes. A body other than the galaxy is shown
in the branch of the body right above it, which is spoken of by its name.
-/

namespace SkyCatalog

/-- The bodies of a branch, the planet first. -/
def PlanetBranch.bodies (b : PlanetBranch) : List Body := .planet b.planet :: b.moons.map .moon

/-- The bodies of a branch, the star first. -/
def StarBranch.bodies (b : StarBranch) : List Body :=
  .star b.star :: b.planets.flatMap PlanetBranch.bodies

/-- The bodies of a report, the galaxy first. -/
def GalaxyReport.bodies (r : GalaxyReport) : List Body :=
  .galaxy r.galaxy :: r.stars.flatMap StarBranch.bodies

/-- A report shows a body right under the one with a name. -/
inductive GalaxyReport.Shows (r : GalaxyReport) : String → Body → Prop where
  | star {s : StarBranch} (hs : s ∈ r.stars) : Shows r r.galaxy.name (.star s.star)
  | planet {s : StarBranch} {p : PlanetBranch} (hs : s ∈ r.stars) (hp : p ∈ s.planets) :
      Shows r s.star.name (.planet p.planet)
  | moon {s : StarBranch} {p : PlanetBranch} {m : Moon} (hs : s ∈ r.stars) (hp : p ∈ s.planets)
      (hm : m ∈ p.moons) : Shows r p.planet.name (.moon m)

end SkyCatalog
