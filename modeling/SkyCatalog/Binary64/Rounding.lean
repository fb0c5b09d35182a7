import SkyCatalog.Binary64.Basic

/-!
# Rounding — the number nearest to a quotient

A quotient of naturals, counted in units, goes to the nearest magnitude; halfway it goes to
the even rank. Below `2 ^ 53` units the magnitudes are the whole numbers, so the quotient is
rounded to a whole number. Above, dividing by the power of two that brings it down to 53
bits leaves the same task, and a carry to the next power lands on the right rank by itself,
because ranks of one exponent end where those of the next begin.

Decimals are quotients. A power of ten beyond `reach` decides nothing, since such a decimal
is past the greatest number or below half the smallest, so exponents are cut off there.
-/

namespace SkyCatalog.Binary64

/-- The whole number nearest to a quotient; halfway the even one. -/
def roundToEven (num den : Nat) : Nat :=
  let q := num / den
  let r := num % den
  if 2 * r < den || (2 * r == den && q % 2 == 0) then q else q + 1

/-- The rank nearest to `num / den` units. -/
def nearest (num den : Nat) : Nat :=
  let drop := (num / den).log2 - 52
  min infinityRank (drop * span + roundToEven num (den * Nat.pow 2 drop))

theorem nearest_le (num den : Nat) : nearest num den ≤ infinityRank := Nat.min_le_left ..

/-- Powers of ten beyond this bound are as good as this one. -/
def reach : Nat := 1100

/-- A unit is two to minus this power. -/
def finest : Nat := 1074

/-- The rank nearest to `digits * 10 ^ exponent`. -/
def rankOfDecimal (digits : Nat) : Int → Nat
  | .ofNat e => nearest (digits * Nat.pow 10 (min e reach) * Nat.pow 2 finest) 1
  | .negSucc e =>
    nearest (digits * Nat.pow 2 finest) (Nat.pow 10 (min (e + 1) (digits.log2 + reach)))

theorem rankOfDecimal_le (digits : Nat) (exponent : Int) :
    rankOfDecimal digits exponent ≤ infinityRank := by
  cases exponent <;> exact nearest_le ..

/-- The number nearest to `± digits * 10 ^ exponent`. -/
def ofDecimal (negative : Bool) (digits : Nat) (exponent : Int) : Binary64 :=
  number negative (rankOfDecimal digits exponent) (rankOfDecimal_le ..)

/-- A decimal in a Lean text denotes the number nearest to it. -/
instance : OfScientific Binary64 where
  ofScientific digits below exponent :=
    ofDecimal false digits (if below then -(exponent : Int) else exponent)

/-- The rank of half a magnitude. Halving lowers the exponent by one; below `2 ^ 53` units it
may leave half a unit, which goes to the even neighbour. -/
def halfRank (rank : Nat) : Nat :=
  if rank = infinityRank then rank
  else if 2 * span ≤ rank then rank - span
  else roundToEven rank 2

theorem roundToEven_two_le (n : Nat) : roundToEven n 2 ≤ n := by
  simp only [roundToEven]
  split <;> rename_i h
  · omega
  · simp only [Bool.or_eq_true, decide_eq_true_eq, Bool.and_eq_true, beq_iff_eq, not_or,
      not_and] at h
    omega

theorem halfRank_le (rank : Nat) : halfRank rank ≤ rank := by
  unfold halfRank
  split
  · exact Nat.le_refl _
  · split
    · exact Nat.sub_le ..
    · exact roundToEven_two_le _

/-- Half of a number, rounded. -/
def half : Binary64 → Binary64
  | nan => nan
  | number negative rank h => number negative (halfRank rank) (Nat.le_trans (halfRank_le _) h)

example : ofDecimal false 1 0 = number false (1023 * span) (by decide) := by decide +kernel
example : (0.1 : Binary64) = number false 0x3FB999999999999A (by decide) := by decide +kernel
example : half (number true 1 (by decide)) = zero true := by decide
example : half (number true 3 (by decide)) = number true 2 (by decide) := by decide

end SkyCatalog.Binary64
