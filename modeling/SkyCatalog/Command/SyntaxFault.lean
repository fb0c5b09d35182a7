import SkyCatalog.Body.Kind

/-!
# Faults of a line — one cause, one message

A line whose first word is a command may fail for one of the causes below, and the first
that is met is the one reported. A cause carries the offending text where its message shows
it.
-/

namespace SkyCatalog

/-- Why a line is not a command. -/
inductive SyntaxFault where
  | noBodyWord
  | unknownBodyWord (word : String)
  | noPluralWord
  | noPrintedName
  | noGalaxyName
  | noGalaxyType
  | unknownGalaxyType (word : String)
  | noAge
  | noAgeUnit
  | ageNotReal
  | ageZero
  | noStarNames
  | noStarName
  | noMass
  | noDiameter
  | negativeDiameter
  | noTemperature
  | negativeTemperature
  | noLuminosity
  | noPlanetNames
  | noPlanetName
  | noPlanetType
  | unknownPlanetType (text : String)
  | noAnswer
  | noMoonNames
  | noMoonName
  | unknownReference (kind : Kind) (name : String)
  | noSuchStar
deriving DecidableEq, Repr

def SyntaxFault.message : SyntaxFault → String
  | noBodyWord => "Celestial body type expected after \"add\"."
  | unknownBodyWord word => s!"Unknown celestial body type: {word}"
  | noPluralWord => "Celestial body type (in plural) expected after \"list\"."
  | noPrintedName => "Galaxy name expected after \"print\"."
  | noGalaxyName => "Galaxy name (enclosed in square brackets) expected after \"add galaxy\"."
  | noGalaxyType => "Galaxy type expected after the galaxy name."
  | unknownGalaxyType word => s!"Invalid galaxy type: {word}"
  | noAge => "Galaxy age expected after galaxy type."
  | noAgeUnit => "Galaxy age must end in 'M' or 'B' to denote units."
  | ageNotReal => "Galaxy age must be a float number followed by 'M' or 'B'."
  | ageZero => "Galaxy age cannot be negative."
  | noStarNames =>
    "Galaxy name and star name (each enclosed in square brackets) expected after \"add star\"."
  | noStarName => "Star name (enclosed in square brackets) expected after galaxy name."
  | noMass => "Star mass (a float) expected after star name."
  | noDiameter => "Star diameter (a float) expected after star mass."
  | negativeDiameter => "Star diameter cannot be negative."
  | noTemperature => "Star temperature (an integer) expected after star diameter."
  | negativeTemperature => "Star temperature in Kelvin cannot be negative."
  | noLuminosity => "Star luminosity (a float) expected after star temperature."
  | noPlanetNames =>
    "Star name and planet name (each enclosed in square brackets) expected after \"add planet\"."
  | noPlanetName => "Planet name (enclosed in square brackets) expected after star name."
  | noPlanetType => "Planet type expected after planet name."
  | unknownPlanetType text => s!"Invalid planet type: {text}"
  | noAnswer => "Expected \"yes\" or \"no\" after planet type."
  | noMoonNames =>
    "Planet name and moon name (each enclosed in square brackets) expected after \"add moon\"."
  | noMoonName => "Moon name (enclosed in square brackets) expected after planet name."
  | unknownReference kind name => s!"Unknown {kind.word}: {name}"
  | noSuchStar => "Invalid combination of star characteristics."

end SkyCatalog
