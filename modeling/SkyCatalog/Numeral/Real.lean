import SkyCatalog.Binary64.Rounding
import SkyCatalog.Numeral.Digits
import SkyCatalog.Text.Blank

/-!
# Real numbers — what a word must look like to denote one

A real numeral is an optional sign and then either one of the words `inf`, `infinity`,
`nan` in any case, or a decimal: a run of digits, a point and a run of digits, of which one
run and the point may be missing, and an optional power of ten. It denotes the double
precision number nearest to its value.

A numeral that stands on its own may have white space around it; the four information
separators, which do part the tokens of a line, do not count as white space here.
-/

namespace SkyCatalog.Numeral

open SkyCatalog.Text (isBlank trimOf)

/-- An optional run of digits. -/
def digitRun (s : List Char) : List Nat × List Char := (digitRun? s).getD ([], s)

/-- A power of ten up to the end of the text; its absence stands for the power zero. -/
def exponent? : List Char → Option Int
  | [] => some 0
  | c :: s =>
    if c = 'e' || c = 'E' then
      let (negative, s) := sign s
      match digitRun? s with
      | some (ds, []) => some (if negative then -(value ds : Int) else (value ds : Int))
      | _ => none
    else none

/-- A decimal without its sign: the digits before and after the point as one number, and the
power of ten that it is multiplied by. -/
def unsigned? (s : List Char) : Option (Nat × Int) :=
  let (whole, s) := digitRun s
  let (fraction, s) :=
    match s with
    | '.' :: s => digitRun s
    | s => ([], s)
  if whole.isEmpty && fraction.isEmpty then none
  else (exponent? s).map fun e => (value (whole ++ fraction), e - fraction.length)

def infinityWords : List (List Char) := ["inf".toList, "infinity".toList]

def nanWord : List Char := "nan".toList

/-- The number that a text denotes, when all of it is one numeral. -/
def realWord? (s : List Char) : Option Binary64 :=
  let (negative, s) := sign s
  let lowered := s.map Char.toLower
  if infinityWords.contains lowered then some (Binary64.infinity negative)
  else if lowered = nanWord then some .nan
  else (unsigned? s).map fun (digits, exponent) => Binary64.ofDecimal negative digits exponent

/-- White space that may surround a numeral. -/
def isMargin (c : Char) : Bool := isBlank c && !(0x1C ≤ c.toNat && c.toNat ≤ 0x1F)

/-- The number that a text denotes, white space around the numeral allowed. -/
def real? (s : List Char) : Option Binary64 := realWord? (trimOf isMargin s)

example : real? " +.5e1 ".toList = some 5.0 := by decide +kernel
example : real? "1_0.0_1".toList = some 10.01 := by decide +kernel
example : real? "-Infinity".toList = some (.infinity true) := by decide
example : real? "1e400".toList = some (.infinity false) := by decide +kernel
example : real? "1_.0".toList = none := by decide
example : real? ".".toList = none := by decide

end SkyCatalog.Numeral
