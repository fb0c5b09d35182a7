import SkyCatalog.Binary64.Rounding

/-!
# Shortest decimals — the fewest digits that read back

A finite magnitude of `u` units is exactly `u * 5 ^ 1074 * 10 ^ -1074`. Cutting this
expansion after `n` digits gives the decimal of `n` digits below the magnitude, and one
more in the last place the decimal above. For `n` from 1 on, the first of these that the
reader takes back to the same rank is the answer. When both read back the nearer one wins,
and halfway between them the one whose last digit is even. Should seventeen digits not do,
the whole expansion is taken, which reads back since it is the magnitude itself.
-/

namespace SkyCatalog.Binary64

/-- A decimal: `digits * 10 ^ exponent`. -/
structure Decimal where
  digits : Nat
  exponent : Int
deriving DecidableEq, Repr

/-- The rank that a decimal reads as. -/
def Decimal.rank (d : Decimal) : Nat := rankOfDecimal d.digits d.exponent

/-- The exact decimal expansion of a magnitude. -/
def expansion (rank : Nat) : Decimal := ⟨units rank * Nat.pow 5 finest, -finest⟩

/-- The decimal nearest to an expansion among those that end `places` before it and read back
as the rank. -/
def cut? (rank : Nat) (whole : Decimal) (places : Nat) : Option Decimal :=
  let step := Nat.pow 10 places
  let q := whole.digits / step
  let r := whole.digits % step
  let below : Decimal := ⟨q, whole.exponent + places⟩
  let above : Decimal := ⟨q + 1, whole.exponent + places⟩
  match below.rank == rank, above.rank == rank with
  | true, true =>
    if 2 * r < step || (2 * r == step && q % 2 == 0) then some below else some above
  | true, false => some below
  | false, true => some above
  | false, false => none

/-- The greatest number of digits that any number needs. -/
def enoughDigits : Nat := 17

/-- The shortest decimal that reads back as a rank. -/
def shortest (rank : Nat) : Decimal :=
  let whole := expansion rank
  let length := (Nat.toDigits 10 whole.digits).length
  ((List.range enoughDigits).findSome? fun n => cut? rank whole (length - (n + 1))).getD whole

/-- What the cut finds reads back. -/
theorem rank_of_cut? {rank places : Nat} {whole d : Decimal}
    (h : cut? rank whole places = some d) : d.rank = rank := by
  simp only [cut?] at h
  split at h <;> rename_i hb ha
  · split at h <;> cases h
    · simpa using hb
    · simpa using ha
  · cases h; simpa using hb
  · cases h; simpa using ha
  · cases h

end SkyCatalog.Binary64
