import SkyCatalog.Command.Phrase
import SkyCatalog.Text.Blank

/-!
# The grammar of lines — which tokens say which phrase

Stated without reading anything: a phrase is said by certain lists of tokens, and a line
holds certain tokens with white space between them. Numbers have many spellings and names
only one. The reader of phrases is measured against this relation.
-/

namespace SkyCatalog.Grammar

open SkyCatalog.Text (allBlank isBlank)

/-- A line that holds these tokens: white space before each token and at the end, and between
two tokens at least one character of it. -/
inductive Spaced : List (List Char) → List Char → Prop where
  | nil {u : List Char} (blank : allBlank u = true) : Spaced [] u
  | cons {u t rest : List Char} {ts : List (List Char)} (blank : allBlank u = true)
      (parted : Token.atBreak rest = true) (tail : Spaced ts rest) :
      Spaced (t :: ts) (u ++ t ++ rest)

/-- A word token: characters other than white space, at least one. -/
def IsWord (w : List Char) : Prop := w ≠ [] ∧ ∀ c ∈ w, isBlank c = false

instance : DecidablePred IsWord := fun w =>
  decidable_of_iff (w ≠ [] ∧ (w.all fun c => !isBlank c) = true) (by simp [IsWord])

/-- A name that brackets can hold: at least one character, and no closing bracket. -/
def IsName (n : String) : Prop := n ≠ "" ∧ ']' ∉ n.toList

instance : DecidablePred IsName := fun n =>
  inferInstanceAs (Decidable (n ≠ "" ∧ ']' ∉ n.toList))

/-- The token for a name. -/
def bracketed (n : String) : List Char := '[' :: n.toList ++ [']']

def answerWord (life : Bool) : String := if life then "yes" else "no"

/-- The words of a text that is parted by single spaces. -/
def labelWords (t : PlanetType) : List (List Char) := t.label.toList.splitOn ' '

/-- The tokens that say a phrase. -/
inductive Says : Phrase → List (List Char) → Prop where
  | addGalaxy {name : String} {type : GalaxyType} {age : Binary64} {units : AgeUnit}
      {w : List Char} (named : IsName name) (word : IsWord (w ++ [units.suffix]))
      (read : Numeral.real? w = some age) (nonzero : age.isZero = false) :
      Says (.addGalaxy ⟨name, type, age, units⟩)
        ["add".toList, "galaxy".toList, bracketed name, type.word.toList, w ++ [units.suffix]]
  | addStar {parent name : String} {mass diameter luminosity : Binary64} {temperature : Int}
      {m d t l : List Char} (parentNamed : IsName parent) (named : IsName name)
      (words : IsWord m ∧ IsWord d ∧ IsWord t ∧ IsWord l)
      (readMass : Numeral.real? m = some mass) (readDiameter : Numeral.real? d = some diameter)
      (readTemperature : Numeral.integer? t = some temperature)
      (readLuminosity : Numeral.real? l = some luminosity)
      (positive : diameter.isNegative = false) (warm : 0 ≤ temperature) :
      Says (.addStar parent name mass diameter temperature.toNat luminosity)
        ["add".toList, "star".toList, bracketed parent, bracketed name, m, d, t, l]
  | addPlanet {parent name : String} {type : PlanetType} {life : Bool}
      (parentNamed : IsName parent) (named : IsName name) :
      Says (.addPlanet parent ⟨name, type, life⟩)
        (["add".toList, "planet".toList, bracketed parent, bracketed name] ++ labelWords type ++
          [(answerWord life).toList])
  | addMoon {parent name : String} (parentNamed : IsName parent) (named : IsName name) :
      Says (.addMoon parent ⟨name⟩) ["add".toList, "moon".toList, bracketed parent, bracketed name]
  | list {kind : Kind} : Says (.list kind) ["list".toList, kind.plural.toList]
  | stats : Says .stats ["stats".toList]
  | print {name : String} (named : IsName name) :
      Says (.print name) ["print".toList, bracketed name]
  | exit : Says .exit ["exit".toList]

example : labelWords .iceGiant = ["ice".toList, "giant".toList] := by decide
example : labelWords .subEarth = ["sub-earth".toList] := by decide

end SkyCatalog.Grammar
