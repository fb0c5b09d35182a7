import SkyCatalog.Command.Grammar
import SkyCatalog.Text.Pattern

/-!
# Taking tokens — by pattern, and one after another

What a word and a name look like is said by a pattern each, and a token is what the first match of
its pattern finds. Tokens of several shapes may be asked for in a row: each is taken off what the
last one has left, and where the next token has another shape nothing is taken.
-/

namespace SkyCatalog.Token

open SkyCatalog.Text (isBlank allBlank atLineEnd Part Pattern)

/-! ## §1  Patterns -/

/-- Any characters, line feeds among them, up to the end of the text. -/
def remainder : Part := .run (fun _ => true) 0

/-- White space, a run of other characters, and what is left. -/
def wordPattern : Pattern := [.run isBlank 0, .run inWord 1, remainder]

/-- White space ahead, or the end of the line. -/
def breakAhead (s : List Char) : Bool := (s.head?.map isBlank).getD false || atLineEnd s

/-- White space, a run without closing brackets between two brackets, a break, and what is left. -/
def namePattern : Pattern :=
  [.run isBlank 0, .char '[', .run inName 1, .char ']', .ahead breakAhead, remainder]

/-- The word in the first match of its pattern, and what is left. -/
def firstWord? (s : List Char) : Option (List Char × List Char) :=
  match wordPattern.first? s with
  | some [_, w, rest] => some (w, rest)
  | _ => none

/-- The name in the first match of its pattern, and what is left. -/
def firstName? (s : List Char) : Option (List Char × List Char) :=
  match namePattern.first? s with
  | some [_, _, n, _, _, rest] => some (n, rest)
  | _ => none

/-! ## §2  Shapes -/

/-- What can be asked for. -/
inductive Shape where
  | word
  | name
  | real
  | integer
deriving DecidableEq, Repr

/-- What a token says. -/
inductive Value where
  | word (w : List Char)
  | name (n : List Char)
  | real (x : Binary64)
  | integer (n : Int)
deriving DecidableEq, Repr

/-- Takes a token of a shape. -/
def Shape.take? : Shape → List Char → Option (Value × List Char)
  | word, s => (word? s).map fun (w, rest) => (.word w, rest)
  | name, s => (name? s).map fun (n, rest) => (.name n, rest)
  | real, s => (real? s).map fun (x, rest) => (.real x, rest)
  | integer, s => (integer? s).map fun (n, rest) => (.integer n, rest)

/-- Asks for tokens of these shapes one after another: what each of them says, if it is there, and
what is left in the end. -/
def takeEach : List Shape → List Char → List (Option Value) × List Char
  | [], s => ([], s)
  | shape :: shapes, s =>
    match shape.take? s with
    | some (v, rest) => (some v :: (takeEach shapes rest).1, (takeEach shapes rest).2)
    | none => (none :: (takeEach shapes s).1, (takeEach shapes s).2)

theorem takeEach_of_some {shape : Shape} {shapes : List Shape} {s rest : List Char} {v : Value}
    (h : shape.take? s = some (v, rest)) : takeEach (shape :: shapes) s =
      (some v :: (takeEach shapes rest).1, (takeEach shapes rest).2) := by
  simp only [takeEach, h]

theorem takeEach_of_none {shape : Shape} {shapes : List Shape} {s : List Char}
    (h : shape.take? s = none) : takeEach (shape :: shapes) s =
      (none :: (takeEach shapes s).1, (takeEach shapes s).2) := by
  simp only [takeEach, h]

/-- How a value is spelled. A name stands between brackets, and a number is a word that denotes
it. -/
def Value.SpelledBy : Value → List Char → Prop
  | word w, t => Grammar.IsWord t ∧ t = w
  | name n, t => n ≠ [] ∧ ']' ∉ n ∧ t = '[' :: n ++ [']']
  | real x, t => Grammar.IsWord t ∧ Numeral.real? t = some x
  | integer n, t => Grammar.IsWord t ∧ Numeral.integer? t = some n

/-- A text is white space, then a token, then a rest that is empty or goes on with white space. -/
structure Cut (s u t r : List Char) : Prop where
  whole : s = u ++ t ++ r
  blank : allBlank u = true
  parted : atBreak r = true

end SkyCatalog.Token
