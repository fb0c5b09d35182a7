import SkyCatalog.Text.Digit

/-!
# Digit runs — what every numeral is made of

A run is one digit or more, of any scripts; a single underscore may stand between two
digits and nowhere else. Reading gives the values of the digits in order and the text
after the run, so leading zeros still count as digits.
-/

namespace SkyCatalog.Numeral

open SkyCatalog.Text (digit?)

/-- The digits that follow a digit, each with at most one underscore before it. -/
def moreDigits : List Char → List Nat × List Char
  | [] => ([], [])
  | [c] =>
    match digit? c with
    | some d => ([d], [])
    | none => ([], [c])
  | c :: c' :: s =>
    if c = '_' then
      match digit? c' with
      | some d => let (ds, rest) := moreDigits s; (d :: ds, rest)
      | none => ([], c :: c' :: s)
    else
      match digit? c with
      | some d => let (ds, rest) := moreDigits (c' :: s); (d :: ds, rest)
      | none => ([], c :: c' :: s)

/-- A run of digits at the head of a text, and the text after it. -/
def digitRun? : List Char → Option (List Nat × List Char)
  | [] => none
  | c :: s =>
    match digit? c with
    | some d => let (ds, rest) := moreDigits s; some (d :: ds, rest)
    | none => none

/-- The number that digits denote, the leading one first. -/
def value (ds : List Nat) : Nat := ds.foldl (fun n d => 10 * n + d) 0

/-- An optional sign: whether it is a minus, and the text after it. -/
def sign : List Char → Bool × List Char
  | '+' :: s => (false, s)
  | '-' :: s => (true, s)
  | s => (false, s)

@[simp] theorem value_nil : value [] = 0 := rfl

@[simp] theorem value_snoc (ds : List Nat) (d : Nat) : value (ds ++ [d]) = 10 * value ds + d := by
  simp [value]

end SkyCatalog.Numeral
