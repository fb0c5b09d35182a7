import SkyCatalog.Body.Basic

/-!
# Record checks — raw fields become bodies, or a list of faults

A record arrives as raw fields, any of which may be absent or null. Checking looks at every
field and reports all faults in the order of the fields, each with the path to its field; a
body is built only when there are none. Which kind of body it is decides the fields, so a
record whose kind is not known is reported for that alone.
-/

namespace SkyCatalog

/-! ## §1  Faults -/

inductive Problem where
  | missing
  | notText
  | notReal
  | notWhole
  | notFlag
  | notList
  | notRecord
  | emptyText
  | notOneOf (words : List String)
  | notLiteral (allowed : List String)
  | notKind (kind : Kind)
  | notOfKind (kind : Kind)
  | notBranch (kind : Kind)
  | belowZero
  | noSpectralClass
  | unreadableFlag
  | frozen
  | noTag (field : String)
  | unknownTag (field tag : String) (expected : List String)
deriving DecidableEq, Repr

structure Fault where
  path : List String
  problem : Problem
deriving DecidableEq, Repr

def inQuotes (w : String) : String := s!"'{w}'"

/-- Words set out for choice: commas between them, and `or` before the last. -/
def choice : List String → String
  | [] => ""
  | [w] => w
  | [v, w] => s!"{v} or {w}"
  | w :: ws => s!"{w}, {choice ws}"

/-- The name under which a kind is listed among the tags of a record. -/
def kindTag (k : Kind) : String := s!"<BodyKind.{k.word.toUpper}: '{k.word}'>"

/-- The place of the list of tags in the wording of an unknown tag. -/
def tagsPlace : String := "\x7bexpected_tags\x7d"

namespace Problem

def code : Problem → String
  | missing => "missing"
  | notText => "string_type"
  | notReal => "float_type"
  | notWhole => "int_type"
  | notFlag => "bool_type"
  | notList => "list_type"
  | notRecord => "model_attributes_type"
  | emptyText => "string_too_short"
  | notOneOf _ => "enum"
  | notLiteral _ | notKind _ => "literal_error"
  | notOfKind _ | notBranch _ => "model_type"
  | belowZero => "greater_than_equal"
  | noSpectralClass => "value_error"
  | unreadableFlag => "bool_parsing"
  | frozen => "frozen_instance"
  | noTag _ => "union_tag_not_found"
  | unknownTag .. => "union_tag_invalid"

/-- The wording of a problem. The list of expected tags is filled in last, so a tag that holds
the place of the list shows the list there too. -/
def message : Problem → String
  | missing => "Field required"
  | notText => "Input should be a valid string"
  | notReal => "Input should be a valid number"
  | notWhole => "Input should be a valid integer"
  | notFlag => "Input should be a valid boolean"
  | notList => "Input should be a valid list"
  | notRecord => "Input should be a valid dictionary or object to extract fields from"
  | emptyText => "String should have at least 1 character"
  | notOneOf words | notLiteral words => s!"Input should be {choice (words.map inQuotes)}"
  | notKind kind => s!"Input should be {kindTag kind}"
  | notOfKind kind => s!"Input should be a valid dictionary or instance of {kind.displayName}"
  | notBranch kind =>
    s!"Input should be a valid dictionary or instance of {kind.displayName}Branch"
  | belowZero => "Input should be greater than or equal to 0"
  | noSpectralClass => "Value error, an invalid spectral class cannot be stored"
  | unreadableFlag => "Input should be a valid boolean, unable to interpret input"
  | frozen => "Instance is frozen"
  | noTag field => s!"Unable to extract tag using discriminator '{field}'"
  | unknownTag field tag expected =>
    let found := s!"Input tag '{tag}' found using '{field}'"
    let wording := s!"{found} does not match any of the expected tags: {tagsPlace}"
    wording.replace tagsPlace (", ".intercalate expected)

end Problem

/-- The outcome of a check: a value, or every fault that was found. -/
inductive Checked (α : Type) where
  | ok (value : α)
  | faulty (faults : List Fault)
deriving DecidableEq, Repr

namespace Checked

def map {α β : Type} (f : α → β) : Checked α → Checked β
  | ok a => ok (f a)
  | faulty e => faulty e

/-- Both checks are made, and the faults of both reported. -/
def seq {α β : Type} (f : Checked (α → β)) (x : Checked α) : Checked β :=
  match f, x with
  | ok f, ok a => ok (f a)
  | ok _, faulty e => faulty e
  | faulty e, ok _ => faulty e
  | faulty e, faulty e' => faulty (e ++ e')

/-- The second check is made only when the first finds no fault. -/
def andThen {α β : Type} (x : Checked α) (f : α → Checked β) : Checked β :=
  match x with
  | ok a => f a
  | faulty e => faulty e

instance : Applicative Checked where
  pure := ok
  map := map
  seq f x := seq f (x ())

/-- The check of a part, its faults placed under the name of the part. -/
def under {α : Type} (part : String) : Checked α → Checked α
  | ok a => ok a
  | faulty e => faulty (e.map fun f => { f with path := part :: f.path })

/-- A single fault of the record itself. -/
def fail {α : Type} (p : Problem) : Checked α := faulty [⟨[], p⟩]

/-- The checks of a list, each placed under its position. -/
def each {α β : Type} (f : α → Checked β) (xs : List α) : Checked (List β) :=
  xs.zipIdx.foldr (fun (x, i) rest => List.cons <$> (f x).under (toString i) <*> rest) (ok [])

end Checked

/-! ## §2  Fields -/

inductive Field (α : Type) where
  | absent
  | null
  | given (value : α)
deriving DecidableEq, Repr

namespace Field

/-- A field that must be given, then checked further. -/
def require {α β : Type} (f : Field α) (name : String) (ofNull : Problem)
    (check : α → Checked β) : Checked β :=
  Checked.under name <|
    match f with
    | absent => .fail .missing
    | null => .fail ofNull
    | given a => check a

/-- A field with a value that its absence stands for. -/
def optional {α β : Type} (f : Field α) (name : String) (default : β) (ofNull : Problem)
    (check : α → Checked β) : Checked β :=
  match f with
  | absent => .ok default
  | f => f.require name ofNull check

/-- Text that is not empty. -/
def someText (f : Field String) (name : String) : Checked String :=
  f.require name .notText fun s => if s = "" then .fail .emptyText else .ok s

def text (f : Field String) (name : String) : Checked String := f.require name .notText .ok

def real (f : Field Binary64) (name : String) : Checked Binary64 := f.require name .notReal .ok

def word {α : Type} (f : Field String) (name : String) (words : List String)
    (read : String → Option α) : Checked α :=
  f.require name (.notOneOf words) fun w =>
    match read w with
    | some a => .ok a
    | none => .fail (.notOneOf words)

/-- The tag that says what a record is; a null tag is shown as the word `None`. -/
def tag {α : Type} (f : Field String) (name : String) (expected : List String)
    (read : String → Option α) : Checked α :=
  match f with
  | absent => .fail (.noTag name)
  | null => .fail (.unknownTag name "None" expected)
  | given w =>
    match read w with
    | some a => .ok a
    | none => .fail (.unknownTag name w expected)

end Field

/-! ## §3  Bodies -/

structure Body.Draft where
  kind : Field String := .absent
  name : Field String := .absent
  type : Field String := .absent
  age : Field Binary64 := .absent
  units : Field String := .absent
  mass : Field Binary64 := .absent
  diameter : Field Binary64 := .absent
  temperature : Field Int := .absent
  luminosity : Field Binary64 := .absent
  spectralClass : Field String := .absent
  supportsLife : Field Bool := .absent
deriving DecidableEq, Repr

namespace Body.Draft

/-- The spectral classes as records know them: `invalid` is a word of the list, but no star may
have it. -/
def spectralWords : List String := SpectralClass.all.map (·.word) ++ ["invalid"]

def checkSpectralClass (w : String) : Checked SpectralClass :=
  match SpectralClass.ofWord? w with
  | some c => .ok c
  | none => .fail (if w = "invalid" then .noSpectralClass else .notOneOf spectralWords)

def checkTemperature (t : Int) : Checked Nat := if t < 0 then .fail .belowZero else .ok t.toNat

/-- The fields of a galaxy, the kind apart. -/
def galaxy (d : Draft) : Checked Galaxy :=
  Galaxy.mk <$> d.name.someText "name"
    <*> d.type.word "type" (GalaxyType.all.map (·.word)) GalaxyType.ofWord?
    <*> d.age.real "age"
    <*> d.units.word "units" (AgeUnit.all.map (·.word)) AgeUnit.ofWord?

def star (d : Draft) : Checked Star :=
  Star.mk <$> d.name.someText "name"
    <*> d.mass.real "mass"
    <*> d.diameter.real "diameter"
    <*> d.temperature.require "temperature" .notWhole checkTemperature
    <*> d.luminosity.real "luminosity"
    <*> d.spectralClass.require "spectral_class" (.notOneOf spectralWords) checkSpectralClass

def planet (d : Draft) : Checked Planet :=
  Planet.mk <$> d.name.someText "name"
    <*> d.type.word "type" (PlanetType.all.map (·.word)) PlanetType.ofWord?
    <*> d.supportsLife.require "supports_life" .notFlag .ok

def moon (d : Draft) : Checked Moon := Moon.mk <$> d.name.someText "name"

def ofKind (d : Draft) : Kind → Checked Body
  | .galaxy => Body.galaxy <$> d.galaxy
  | .star => Body.star <$> d.star
  | .planet => Body.planet <$> d.planet
  | .moon => Body.moon <$> d.moon

/-- Checks a record that may be a body of any kind. -/
def check (d : Draft) : Checked Body :=
  (d.kind.tag "kind" (Kind.all.map kindTag) Kind.ofWord?).andThen fun k => (d.ofKind k).under k.word

/-- Checks the kind of a record that must be of one kind. Its absence says that it is. -/
def checkKind (d : Draft) (k : Kind) : Checked Unit :=
  d.kind.optional "kind" () (.notKind k) fun w =>
    if Kind.ofWord? w = some k then .ok () else .fail (.notKind k)

end Body.Draft

def Body.draft : Body → Body.Draft
  | galaxy g =>
    { kind := .given "galaxy", name := .given g.name, type := .given g.type.word,
      age := .given g.age, units := .given g.units.word }
  | star s =>
    { kind := .given "star", name := .given s.name, mass := .given s.mass,
      diameter := .given s.diameter, temperature := .given s.temperature,
      luminosity := .given s.luminosity, spectralClass := .given s.spectralClass.word }
  | planet p =>
    { kind := .given "planet", name := .given p.name, type := .given p.type.word,
      supportsLife := .given p.supportsLife }
  | moon m => { kind := .given "moon", name := .given m.name }

/-- Records never change: setting a field is always refused. -/
def Body.assign (_ : Body) (field : String) : Fault := ⟨[field], .frozen⟩

end SkyCatalog
