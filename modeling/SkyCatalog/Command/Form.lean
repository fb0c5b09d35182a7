import SkyCatalog.Command.Phrase
import SkyCatalog.Command.SyntaxFault

/-!
# Forms — readers as trees of the tokens that they ask for

A reader asks for one token after another, from left to right, and judges each before it asks for
the next, so the first bad token decides the fault. A form is this order as data: at each place a
name or a word is asked for, with the fault that is reported when there is none, and the token that
is found decides how the form goes on. What holds of all readers is shown by induction on the form.
-/

namespace SkyCatalog

/-- What is asked for next on a line. -/
inductive Form (α : Type) where
  | done (a : α)
  | fail (fault : SyntaxFault)
  | name (missing : SyntaxFault) (next : String → Form α)
  | word (missing : SyntaxFault) (next : List Char → Form α)

namespace Form

variable {α β : Type}

/-- Takes off a text what a form asks for: a fault, or what was read and the rest of the text. -/
def read : Form α → List Char → Except SyntaxFault (α × List Char)
  | done a, s => .ok (a, s)
  | fail fault, _ => .error fault
  | name missing next, s =>
    match Token.name? s with
    | some (n, rest) => (next (String.ofList n)).read rest
    | none => .error missing
  | word missing next, s =>
    match Token.word? s with
    | some (w, rest) => (next w).read rest
    | none => .error missing

section

variable {missing : SyntaxFault} {s n w r : List Char}

theorem read_name_of_some {next : String → Form α} (h : Token.name? s = some (n, r)) :
    (name missing next).read s = (next (String.ofList n)).read r := by simp only [read, h]

theorem read_name_of_none {next : String → Form α} (h : Token.name? s = none) :
    (name missing next).read s = .error missing := by simp only [read, h]

theorem read_word_of_some {next : List Char → Form α} (h : Token.word? s = some (w, r)) :
    (word missing next).read s = (next w).read r := by simp only [read, h]

theorem read_word_of_none {next : List Char → Form α} (h : Token.word? s = none) :
    (word missing next).read s = .error missing := by simp only [read, h]

end

/-- On this text the form comes to ask for a token that is not there, which is reported as this
fault. -/
inductive Lacks : Form α → List Char → SyntaxFault → Prop where
  | name {missing : SyntaxFault} {next : String → Form α} {s : List Char}
      (none : Token.name? s = none) : Lacks (.name missing next) s missing
  | word {missing : SyntaxFault} {next : List Char → Form α} {s : List Char}
      (none : Token.word? s = none) : Lacks (.word missing next) s missing
  | afterName {missing fault : SyntaxFault} {next : String → Form α} {s n r : List Char}
      (found : Token.name? s = some (n, r)) (later : Lacks (next (String.ofList n)) r fault) :
      Lacks (.name missing next) s fault
  | afterWord {missing fault : SyntaxFault} {next : List Char → Form α} {s w r : List Char}
      (found : Token.word? s = some (w, r)) (later : Lacks (next w) r fault) :
      Lacks (.word missing next) s fault

/-! ## §1  Judging -/

/-- Goes on with a value that must be there. -/
def demand (x : Option β) (fault : SyntaxFault) (next : β → Form α) : Form α :=
  match x with
  | some b => next b
  | none => fail fault

/-- Goes on if a condition does not hold. -/
def refuse (bad : Bool) (fault : SyntaxFault) (next : Form α) : Form α :=
  if bad then fail fault else next

/-- Asks for a word that denotes something. -/
def numeral (denote : List Char → Option β) (missing : SyntaxFault) (next : β → Form α) : Form α :=
  word missing fun w => demand (denote w) missing next

/-- A number is read as the token function takes it, and missed when it takes none. -/
theorem read_numeral (denote : List Char → Option β) (missing : SyntaxFault) (next : β → Form α)
    (s : List Char) : (numeral denote missing next).read s =
      (Token.numeral? denote s).elim (.error missing) fun p => (next p.1).read p.2 := by
  cases found : Token.word? s with
  | none =>
      rw [numeral, read_word_of_none found, Token.numeral?, found]
      rfl
  | some p =>
      rw [numeral, read_word_of_some found, Token.numeral?, found, Option.bind_some]
      dsimp only
      cases denote p.1 with
      | none => rfl
      | some b => rfl

/-! ## §2  Phrases -/

open Phrase (firstHalves ofAnswer?)

def galaxy : Form Phrase :=
  name .noGalaxyName fun n =>
  word .noGalaxyType fun w =>
  demand (GalaxyType.ofWord? (String.ofList w)) (.unknownGalaxyType (String.ofList w)) fun type =>
  word .noAge fun w =>
  demand (w.getLast?.bind AgeUnit.ofSuffix?) .noAgeUnit fun units =>
  demand (Numeral.real? w.dropLast) .ageNotReal fun age =>
  refuse age.isZero .ageZero <|
  done (.addGalaxy ⟨n, type, age, units⟩)

def star : Form Phrase :=
  name .noStarNames fun parent =>
  name .noStarName fun n =>
  numeral Numeral.real? .noMass fun mass =>
  numeral Numeral.real? .noDiameter fun diameter =>
  refuse diameter.isNegative .negativeDiameter <|
  numeral Numeral.integer? .noTemperature fun temperature =>
  refuse (temperature < 0) .negativeTemperature <|
  numeral Numeral.real? .noLuminosity fun luminosity =>
  done (.addStar parent n mass diameter temperature.toNat luminosity)

/-- Goes on with the planet type that a text is the label of. -/
def labelled (text : String) (next : PlanetType → Form α) : Form α :=
  demand (PlanetType.ofLabel? text) (.unknownPlanetType text) next

/-- Asks for a planet type. After the first half of a type of two words the next word is asked for
too, whatever it is. Without one the half would be looked up alone, and it is no type
(`PlanetType.label_not_firstHalf`). -/
def planetType (next : PlanetType → Form α) : Form α :=
  word .noPlanetType fun w =>
    if firstHalves.contains (String.ofList w) then
      word (.unknownPlanetType (String.ofList w)) fun v =>
        labelled (String.ofList w ++ " " ++ String.ofList v) next
    else labelled (String.ofList w) next

def planet : Form Phrase :=
  name .noPlanetNames fun parent =>
  name .noPlanetName fun n =>
  planetType fun type =>
  numeral (fun w => ofAnswer? (String.ofList w)) .noAnswer fun life =>
  done (.addPlanet parent ⟨n, type, life⟩)

def moon : Form Phrase :=
  name .noMoonNames fun parent =>
  name .noMoonName fun n =>
  done (.addMoon parent ⟨n⟩)

def ofKind : Kind → Form Phrase
  | .galaxy => galaxy
  | .star => star
  | .planet => planet
  | .moon => moon

def add : Form Phrase :=
  word .noBodyWord fun w =>
  demand (Kind.ofWord? (String.ofList w)) (.unknownBodyWord (String.ofList w)) ofKind

def list : Form Phrase :=
  word .noPluralWord fun w =>
  demand (Kind.ofPlural? (String.ofList w)) (.unknownBodyWord (String.ofList w)) fun kind =>
  done (.list kind)

def print : Form Phrase := name .noPrintedName fun n => done (.print n)

/-- How to go on after the first word of a line, if it is a command. -/
def ofVerb? (w : String) : Option (Form Phrase) :=
  match w with
  | "add" => some add
  | "list" => some list
  | "stats" => some (done .stats)
  | "print" => some print
  | "exit" => some (done .exit)
  | _ => none

end Form

end SkyCatalog
