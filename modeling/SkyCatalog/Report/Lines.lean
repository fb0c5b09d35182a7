import SkyCatalog.Binary64.Written
import SkyCatalog.Numeral.Integer
import SkyCatalog.Report.Basic

/-!
# Lines — payloads as text

Every payload has a fixed layout. The report on a galaxy indents each level by two more
columns, so that the tree can be read off the lines. Numbers are written in their shortest
exact form, and whole ones without a point.

A temperature may have more digits than a numeral can have; a report with such a star has no
lines at all.
-/

namespace SkyCatalog

/-- A number as reports write it. -/
def formatNumber (x : Binary64) : String := x.toText .brief

/-- A galaxy's age with the letter of its unit. -/
def Galaxy.ageText (g : Galaxy) : String := (formatNumber g.age).push g.units.suffix

/-- The class of a star and, in brackets, what it was derived from. -/
def Star.classText? (s : Star) : Option String :=
  (Numeral.numeral? s.temperature).map fun temperature =>
    let mass := formatNumber s.mass
    let radius := formatNumber s.radius
    let luminosity := formatNumber s.luminosity
    s!"{s.spectralClass.word} ({mass}, {radius}, {temperature}, {luminosity})"

/-- The answer to the question whether a planet supports life. -/
def Planet.lifeText (p : Planet) : String := if p.supportsLife then "yes" else "no"

/-- The lines of a planet, two columns in, and of its moons, four columns in. -/
def PlanetBranch.lines (b : PlanetBranch) : List String :=
  [s!"  - Name: {b.planet.name}",
    s!"    Type: {b.planet.type.label}",
    s!"    Supports life: {b.planet.lifeText}",
    "    Moons:"] ++ b.moons.map fun m => s!"    - {m.name}"

/-- The lines of a star and of its planets. -/
def StarBranch.lines? (b : StarBranch) : Option (List String) :=
  b.star.classText?.map fun text =>
    [s!"- Name: {b.star.name}", s!"  Class: {text}", "  Planets:"] ++
      b.planets.flatMap PlanetBranch.lines

def GalaxyReport.lines? (r : GalaxyReport) : Option (List String) :=
  (r.stars.mapM StarBranch.lines?).map fun stars =>
    [s!"--- Data for {r.galaxy.name} galaxy ---",
      s!"Type: {r.galaxy.type.word}",
      s!"Age: {r.galaxy.ageText}",
      "Stars:"] ++ stars.flatten ++ [s!"--- End of data for {r.galaxy.name} galaxy ---"]

/-- The lines of a list of names; an empty list has no line of names. -/
def listingLines (label : String) (names : List String) : List String :=
  [s!"--- List of all researched {label} ---"] ++
    (if names.isEmpty then [] else [", ".intercalate names]) ++ [s!"--- End of {label} list ---"]

def Counts.lines (n : Counts) : List String :=
  ["--- Stats ---",
    s!"Galaxies: {Numeral.written n.galaxies}",
    s!"Stars: {Numeral.written n.stars}",
    s!"Planets: {Numeral.written n.planets}",
    s!"Moons: {Numeral.written n.moons}",
    "--- End of stats ---"]

namespace Payload

/-- How the payloads of one kind are written. It does not know any others, and none that has a
number too long to be written. -/
abbrev Writer := Payload → Option (List String)

namespace Writer

def notice : Writer
  | .notice message _ => some [message]
  | _ => none

def listing : Writer
  | .listing label names => some (listingLines label names)
  | _ => none

def stats : Writer
  | .stats counts => some counts.lines
  | _ => none

def report : Writer
  | .report r => r.lines?
  | _ => none

end Writer

/-- The writers by the kinds of payloads that they are for. -/
def writers : List (Tag × Writer) := [
  (.notice, .notice), (.listing, .listing), (.stats, .stats), (.report, .report)]

/-- The lines of a payload, unless a number in it is too long to be written. -/
def lines? (p : Payload) : Option (List String) := (writers.lookup p.tag).bind fun write => write p

end Payload

end SkyCatalog
