import SkyCatalog.Catalog.Basic
import SkyCatalog.Command.Phrase
import SkyCatalog.Report.Lines
import SkyCatalog.Spectral

/-!
# Canonical spellings — the line that adds a body

Every body has one canonical line: one space between tokens, numbers as reports write them,
temperatures in decimal. A parent, where the kind has one, is named before the body.

A record can hold what no line can say: an age of zero, a negative diameter, a temperature too
long for a numeral, a spectral class that does not follow from the measurements (`Body.Sayable`).
-/

namespace SkyCatalog

/-- A name between brackets, and a space. -/
def inBrackets (name : String) : String := s!"[{name}] "

namespace Body

/-- What follows the name of a body on its line. -/
def spellFields : Body → String
  | galaxy g => s!" {g.type.word} {g.ageText}"
  | star s =>
    let mass := formatNumber s.mass
    let diameter := formatNumber s.diameter
    let temperature := String.ofList (Numeral.decimal s.temperature)
    let luminosity := formatNumber s.luminosity
    s!" {mass} {diameter} {temperature} {luminosity}"
  | planet p => s!" {p.type.label} {p.lifeText}"
  | moon _ => ""

/-- The canonical line that adds a body under a parent, if it is given one. -/
def spell (b : Body) (parent : Option String) : String :=
  let under := (parent.map inBrackets).getD ""
  s!"add {b.kind.word} {under}[{b.name}]{b.spellFields}"

/-- The fields of a body are such that a line can say them. -/
def Sayable : Body → Prop
  | galaxy g => g.age.isZero = false
  | star s =>
    s.diameter.isNegative = false ∧
      (Numeral.decimal s.temperature).length ≤ Numeral.lengthLimit ∧
      Spectral.classify s.mass s.diameter s.temperature s.luminosity = some s.spectralClass
  | planet _ => True
  | moon _ => True

end Body

/-- A parent that a line can add a body under: none for a galaxy, and for any other body one of
the kind above, as it is taken out of the catalog. -/
structure Catalog.Offers (c : Catalog) (b : Body) (parent : Option (Held Body)) : Prop where
  kind : parent.map (·.value.kind) = b.kind.parent?
  stored : ∀ x ∈ parent, ∃ i, c.held? i = some x

example : (Body.moon ⟨"Io"⟩).spell (some "Jupiter") = "add moon [Jupiter] [Io]" := by decide

example : (Body.galaxy ⟨"Milky Way", .spiral, 13.6, .billion⟩).spell none =
    "add galaxy [Milky Way] spiral 13.6B" := by decide +kernel

end SkyCatalog
