import SkyCatalog.Numeral.Digits

/-!
# Whole numbers — read and written up to a fixed length

A whole number is an optional sign and one run of digits. Neither reading nor writing goes
beyond `lengthLimit` digits: a longer numeral is no number, and a longer number has no
numeral. Leading zeros count towards the limit, signs and underscores do not.
-/

namespace SkyCatalog.Numeral

/-- The greatest number of digits that a numeral may have. -/
def lengthLimit : Nat := 4300

/-- The number that a text denotes, when all of it is one numeral. -/
def integer? (s : List Char) : Option Int :=
  let (negative, digits) := sign s
  match digitRun? digits with
  | some (ds, []) =>
    if ds.length ≤ lengthLimit then
      some (if negative then -(value ds : Int) else (value ds : Int))
    else none
  | _ => none

/-- The decimal digits of a number, without leading zeros. -/
def decimal (n : Nat) : List Char := Nat.toDigits 10 n

/-- The numeral of a number, when it is not too long. -/
def numeral? (n : Nat) : Option String :=
  let digits := decimal n
  if digits.length ≤ lengthLimit then some (String.ofList digits) else none

/-- A number of any length, with a minus when it is negative. -/
def written (n : Int) : String :=
  String.ofList ((if n < 0 then ['-'] else []) ++ decimal n.natAbs)

example : integer? "+0_07".toList = some 7 := by decide
example : integer? "-12".toList = some (-12) := by decide
example : integer? "1__2".toList = none := by decide
example : integer? "12.0".toList = none := by decide

end SkyCatalog.Numeral
