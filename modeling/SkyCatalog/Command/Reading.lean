import SkyCatalog.Catalog.Basic
import SkyCatalog.Command.Basic
import SkyCatalog.Command.Form
import SkyCatalog.Spectral

/-!
# Readings — from a line to a command

The names of a phrase are looked up in the catalog, and a star is classified once its galaxy
is known. Only a phrase that passes both is asked whether anything is left on its line: a
command that failed is not blamed for extra input as well.

A reading keeps which of the outcomes it was, since a log tells them apart although the
console treats most of them alike (`Reading.command`).
-/

namespace SkyCatalog

/-- What became of a line. -/
inductive Reading where
  | ended
  | blank
  | unknownCommand (word : String)
  | refused (fault : SyntaxFault)
  | extraInput (rest : String)
  | accepted (command : Command)
deriving DecidableEq, Repr

namespace Phrase

/-- The stored body that a phrase refers to. -/
def refer (c : Catalog) (kind : Kind) (name : String) : Except SyntaxFault (Held Body) :=
  match c.fetch? kind name with
  | some x => .ok x
  | none => .error (.unknownReference kind name)

/-- The command that a phrase is in a catalog. -/
def resolve (c : Catalog) : Phrase → Except SyntaxFault Command
  | addGalaxy g => .ok (.add (.galaxy g) none)
  | addStar parent name mass diameter temperature luminosity => do
    let galaxy ← refer c .galaxy parent
    match Spectral.classify mass diameter temperature luminosity with
    | some spectralClass =>
      let star : Star := ⟨name, mass, diameter, temperature, luminosity, spectralClass⟩
      .ok (.add (.star star) (some galaxy))
    | none => .error .noSuchStar
  | addPlanet parent p => do
    let star ← refer c .star parent
    .ok (.add (.planet p) (some star))
  | addMoon parent m => do
    let planet ← refer c .planet parent
    .ok (.add (.moon m) (some planet))
  | list kind => .ok (.list kind kind.plural)
  | stats => .ok .stats
  | print name => do
    let body ← refer c .galaxy name
    match body.filterMap Body.galaxy? with
    | some galaxy => .ok (.print galaxy)
    | none => .error (.unknownReference .galaxy name)
  | exit => .ok .exit

end Phrase

namespace Reading

/-- What is left of a line after its command, without white space at either end. -/
def leftover (s : List Char) : Option String :=
  if Text.allBlank s then none else some (String.ofList (Text.trim s))

/-- The reading of a line whose first word is a command. -/
def ofForm (c : Catalog) (form : Form Phrase) (s : List Char) : Reading :=
  match form.read s with
  | .error fault => .refused fault
  | .ok (phrase, rest) =>
    match phrase.resolve c with
    | .error fault => .refused fault
    | .ok command =>
      match leftover rest with
      | some extra => .extraInput extra
      | none => .accepted command

/-- After the first word a command is refused, or has extra input, or is accepted. -/
theorem ofForm_cases (c : Catalog) (form : Form Phrase) (s : List Char) :
    (∃ fault, ofForm c form s = .refused fault) ∨ (∃ rest, ofForm c form s = .extraInput rest) ∨
      ∃ command, ofForm c form s = .accepted command := by
  unfold ofForm
  split
  · exact .inl ⟨_, rfl⟩
  · split
    · exact .inl ⟨_, rfl⟩
    · split
      · exact .inr (.inl ⟨_, rfl⟩)
      · exact .inr (.inr ⟨_, rfl⟩)

/-- The reading of a line. -/
def ofLine (c : Catalog) (line : List Char) : Reading :=
  match Token.word? line with
  | none => .blank
  | some (w, rest) =>
    let verb := String.ofList w
    match Form.ofVerb? verb with
    | none => .unknownCommand verb
    | some form => ofForm c form rest

section

variable {c : Catalog} {s w r : List Char}

theorem ofLine_of_no_word (h : Token.word? s = none) : ofLine c s = .blank := by
  simp only [ofLine, h]

theorem ofLine_of_no_verb (h : Token.word? s = some (w, r))
    (verb : Form.ofVerb? (String.ofList w) = none) :
    ofLine c s = .unknownCommand (String.ofList w) := by
  simp only [ofLine, h, verb]

/-- A line goes on as its first word says. -/
theorem ofLine_of_form {form : Form Phrase} (h : Token.word? s = some (w, r))
    (verb : Form.ofVerb? (String.ofList w) = some form) : ofLine c s = ofForm c form r := by
  simp only [ofLine, h, verb]

end

/-- The reading of a line, or of the end of the input. -/
def of (c : Catalog) : Option String → Reading
  | none => .ended
  | some line => ofLine c line.toList

/-- The command that a reading comes to. The end of the input is an `exit`. -/
def command : Reading → Command
  | ended => .exit
  | blank => .nothing
  | accepted command => command
  | unknownCommand word => .complain s!"Unknown command: {word}"
  | refused fault => .complain fault.message
  | extraInput rest => .complain s!"Extra input after command: {rest}"

end Reading

/-- The command that a line, or the end of the input, comes to. -/
def Command.parse (c : Catalog) (line : Option String) : Command := (Reading.of c line).command

end SkyCatalog
