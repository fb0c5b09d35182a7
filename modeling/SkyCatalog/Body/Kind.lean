/-!
# Kinds — the closed vocabulary of the catalog

Bodies are of four kinds, ordered from the root of the hierarchy to its leaves. Galaxies,
planets and stars carry a further choice from a closed list each. Every list has a word per
entry; a kind also has a display name and a plural, an age unit a suffix, and a planet type
the label by which the command language knows it.

Reading a word back searches the list, so it finds an entry exactly by its own word.
-/

namespace SkyCatalog

inductive Kind where
  | galaxy
  | star
  | planet
  | moon
deriving DecidableEq, Repr

namespace Kind

def all : List Kind := [galaxy, star, planet, moon]

def word : Kind → String
  | galaxy => "galaxy"
  | star => "star"
  | planet => "planet"
  | moon => "moon"

/-- The word with a capital, as messages begin with it. -/
def displayName : Kind → String
  | galaxy => "Galaxy"
  | star => "Star"
  | planet => "Planet"
  | moon => "Moon"

def plural : Kind → String
  | galaxy => "galaxies"
  | star => "stars"
  | planet => "planets"
  | moon => "moons"

/-- The kind that a body of this kind belongs under; galaxies are roots. -/
def parent? : Kind → Option Kind
  | galaxy => none
  | star => some galaxy
  | planet => some star
  | moon => some planet

def ofWord? (w : String) : Option Kind := all.find? (·.word == w)

def ofPlural? (w : String) : Option Kind := all.find? (·.plural == w)

theorem mem_all (k : Kind) : k ∈ all := by cases k <;> decide

theorem ofWord?_word (k : Kind) : ofWord? k.word = some k := by cases k <;> decide

theorem word_of_ofWord? {w : String} {k : Kind} (h : ofWord? w = some k) : k.word = w := by
  simpa using List.find?_some h

theorem ofPlural?_plural (k : Kind) : ofPlural? k.plural = some k := by cases k <;> decide

theorem plural_of_ofPlural? {w : String} {k : Kind} (h : ofPlural? w = some k) : k.plural = w := by
  simpa using List.find?_some h

end Kind

inductive GalaxyType where
  | elliptical
  | lenticular
  | spiral
  | irregular
deriving DecidableEq, Repr

namespace GalaxyType

def all : List GalaxyType := [elliptical, lenticular, spiral, irregular]

def word : GalaxyType → String
  | elliptical => "elliptical"
  | lenticular => "lenticular"
  | spiral => "spiral"
  | irregular => "irregular"

def ofWord? (w : String) : Option GalaxyType := all.find? (·.word == w)

theorem ofWord?_word (t : GalaxyType) : ofWord? t.word = some t := by cases t <;> decide

theorem word_of_ofWord? {w : String} {t : GalaxyType} (h : ofWord? w = some t) : t.word = w := by
  simpa using List.find?_some h

end GalaxyType

inductive AgeUnit where
  | million
  | billion
deriving DecidableEq, Repr

namespace AgeUnit

def all : List AgeUnit := [million, billion]

def word : AgeUnit → String
  | million => "million"
  | billion => "billion"

/-- The letter that follows an age. -/
def suffix : AgeUnit → Char
  | million => 'M'
  | billion => 'B'

def ofWord? (w : String) : Option AgeUnit := all.find? (·.word == w)

def ofSuffix? (c : Char) : Option AgeUnit := all.find? (·.suffix == c)

theorem ofWord?_word (u : AgeUnit) : ofWord? u.word = some u := by cases u <;> decide

theorem ofSuffix?_suffix (u : AgeUnit) : ofSuffix? u.suffix = some u := by cases u <;> decide

theorem suffix_of_ofSuffix? {c : Char} {u : AgeUnit} (h : ofSuffix? c = some u) :
    u.suffix = c := by
  simpa using List.find?_some h

end AgeUnit

inductive SpectralClass where
  | o
  | b
  | a
  | f
  | g
  | k
  | m
deriving DecidableEq, Repr

namespace SpectralClass

def all : List SpectralClass := [o, b, a, f, g, k, m]

def word : SpectralClass → String
  | o => "O"
  | b => "B"
  | a => "A"
  | f => "F"
  | g => "G"
  | k => "K"
  | m => "M"

def ofWord? (w : String) : Option SpectralClass := all.find? (·.word == w)

theorem ofWord?_word (c : SpectralClass) : ofWord? c.word = some c := by cases c <;> decide

end SpectralClass

inductive PlanetType where
  | terrestrial
  | giantPlanet
  | iceGiant
  | mesoplanet
  | miniNeptune
  | planetar
  | superEarth
  | superJupiter
  | subEarth
deriving DecidableEq, Repr

namespace PlanetType

def all : List PlanetType :=
  [terrestrial, giantPlanet, iceGiant, mesoplanet, miniNeptune, planetar, superEarth,
    superJupiter, subEarth]

/-- The word for a type in records. -/
def word : PlanetType → String
  | terrestrial => "terrestrial"
  | giantPlanet => "giant_planet"
  | iceGiant => "ice_giant"
  | mesoplanet => "mesoplanet"
  | miniNeptune => "mini_neptune"
  | planetar => "planetar"
  | superEarth => "super_earth"
  | superJupiter => "super_jupiter"
  | subEarth => "sub_earth"

/-- The spelling of a type in commands and reports. -/
def label : PlanetType → String
  | terrestrial => "terrestrial"
  | giantPlanet => "giant planet"
  | iceGiant => "ice giant"
  | mesoplanet => "mesoplanet"
  | miniNeptune => "mini-neptune"
  | planetar => "planetar"
  | superEarth => "super-earth"
  | superJupiter => "super-jupiter"
  | subEarth => "sub-earth"

def ofWord? (w : String) : Option PlanetType := all.find? (·.word == w)

def ofLabel? (w : String) : Option PlanetType := all.find? (·.label == w)

theorem ofWord?_word (t : PlanetType) : ofWord? t.word = some t := by cases t <;> decide

theorem ofLabel?_label (t : PlanetType) : ofLabel? t.label = some t := by cases t <;> decide

theorem label_of_ofLabel? {w : String} {t : PlanetType} (h : ofLabel? w = some t) :
    t.label = w := by
  simpa using List.find?_some h

end PlanetType

end SkyCatalog
