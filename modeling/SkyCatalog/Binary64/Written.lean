import SkyCatalog.Binary64.Shortest

/-!
# Written numbers — the layout of a shortest decimal

A number whose leading digit stands between the fourth place after the point and the
sixteenth before it is written out, with a zero before the point where no digit stands.
Any other is written with one digit before the point and a power of ten of at least two
digits, always signed. A style says how a whole number ends.
-/

namespace SkyCatalog.Binary64

/-- How numbers are laid out: the exponents of the leading digit that are written out, and what
follows a whole number that is written out. -/
structure Style where
  lowest : Int
  highest : Int
  wholeMark : String
deriving DecidableEq, Repr

/-- Whole numbers keep a zero after the point. -/
def Style.marked : Style := ⟨-4, 15, ".0"⟩

/-- Whole numbers have neither point nor zero. -/
def Style.brief : Style := ⟨-4, 15, ""⟩

/-- Digits without the zeros at their end. -/
def stripZeros (digits : List Char) : List Char := (digits.reverse.dropWhile (· == '0')).reverse

/-- A power of ten: a sign and two digits or more. -/
def exponentText (e : Int) : List Char :=
  let digits := Nat.toDigits 10 e.natAbs
  (if e < 0 then '-' else '+') :: (List.replicate (2 - digits.length) '0' ++ digits)

/-- Digits with a point after the first `point` of them, written out. -/
def positional (style : Style) (digits : List Char) (point : Int) : List Char :=
  if point ≤ 0 then '0' :: '.' :: (List.replicate (-point).toNat '0' ++ digits)
  else
    let whole := point.toNat
    if digits.length ≤ whole then
      digits ++ List.replicate (whole - digits.length) '0' ++ style.wholeMark.toList
    else digits.take whole ++ '.' :: digits.drop whole

/-- Digits with a point after the first of them, times a power of ten. -/
def scientific (digits : List Char) (exponent : Int) : List Char :=
  let fraction := digits.drop 1
  digits.take 1 ++ (if fraction.isEmpty then [] else '.' :: fraction) ++
    'e' :: exponentText exponent

/-- The text of a positive decimal. -/
def Decimal.write (style : Style) (d : Decimal) : List Char :=
  let all := Nat.toDigits 10 d.digits
  let point := all.length + d.exponent
  let digits := stripZeros all
  if style.lowest ≤ point - 1 && point - 1 ≤ style.highest then positional style digits point
  else scientific digits (point - 1)

def writeRank (style : Style) (rank : Nat) : List Char :=
  if rank = infinityRank then "inf".toList
  else if rank = 0 then '0' :: style.wholeMark.toList
  else (shortest rank).write style

def write (style : Style) : Binary64 → List Char
  | nan => "nan".toList
  | number negative rank _ => (if negative then ['-'] else []) ++ writeRank style rank

def toText (style : Style) (x : Binary64) : String := String.ofList (x.write style)

example : toText .brief 13.6 = "13.6" := by decide +kernel
example : toText .brief 250.0 = "250" := by decide +kernel
example : toText .marked 1e15 = "1000000000000000.0" := by decide +kernel
example : toText .marked 1e16 = "1e+16" := by decide +kernel
example : toText .marked 0.0001 = "0.0001" := by decide +kernel
example : toText .marked 1.5e-5 = "1.5e-05" := by decide +kernel
example : toText .marked 5e-324 = "5e-324" := by decide +kernel

end SkyCatalog.Binary64
