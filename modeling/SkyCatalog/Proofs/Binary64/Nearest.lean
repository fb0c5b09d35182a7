import Mathlib.Algebra.Order.Ring.Nat
import Mathlib.Tactic.Ring
import SkyCatalog.Binary64.Rounding

/-!
# Nearest ranks — what rounding cannot see

Rounding looks at a quotient and not at how it is written: a factor common to numerator and
denominator changes nothing, and neither do zeros at the end of a decimal, as long as its
exponent stays within reach. A magnitude of the format goes to its own rank.
-/

namespace SkyCatalog.Binary64

/-! ## §1  Quotients -/

theorem span_eq : span = 2 ^ 52 := rfl

theorem roundToEven_mul_right (num den : Nat) {k : Nat} (hk : 0 < k) :
    roundToEven (num * k) (den * k) = roundToEven num den := by
  have below : 2 * (num % den * k) < den * k ↔ 2 * (num % den) < den := by
    rw [← Nat.mul_assoc]
    exact Nat.mul_lt_mul_right hk
  have halfway : 2 * (num % den * k) = den * k ↔ 2 * (num % den) = den := by
    rw [← Nat.mul_assoc]
    exact Nat.mul_left_inj hk.ne'
  simp only [roundToEven, Nat.mul_div_mul_right _ _ hk, Nat.mul_mod_mul_right, below,
    Bool.beq_eq_decide_eq, halfway]

/-- A common factor of a quotient does not matter. -/
theorem nearest_mul_right (num den : Nat) {k : Nat} (hk : 0 < k) :
    nearest (num * k) (den * k) = nearest num den := by
  simp only [nearest, Nat.mul_div_mul_right _ _ hk]
  rw [Nat.mul_right_comm, roundToEven_mul_right _ _ hk]

/-- A whole quotient is rounded to itself. -/
theorem roundToEven_mul_self (n : Nat) {den : Nat} (h : 0 < den) :
    roundToEven (n * den) den = n := by
  simp [roundToEven, Nat.mul_div_cancel _ h, h]

theorem nearest_zero (den : Nat) : nearest 0 den = 0 := by
  have whole : roundToEven 0 (den * Nat.pow 2 0) = 0 := by
    rcases Nat.eq_zero_or_pos den with rfl | h
    · rfl
    · simp [roundToEven, h]
  simp only [nearest, Nat.zero_div, Nat.log2_zero, Nat.zero_sub, Nat.zero_mul, whole, Nat.add_zero,
    Nat.min_zero]

/-! ## §2  Magnitudes -/

/-- From the first exponent on, a rank stands for a significand of 53 bits, shifted. -/
theorem units_of_span_le {rank : Nat} (h : span ≤ rank) :
    units rank = (span + rank % span) * 2 ^ (rank / span - 1) := by
  rw [units, if_neg (Nat.not_lt.mpr h)]
  rfl

theorem log2_units {rank : Nat} (h : span ≤ rank) :
    (units rank).log2 = 52 + (rank / span - 1) := by
  have part : rank % 2 ^ 52 < 2 ^ 52 := Nat.mod_lt rank (Nat.two_pow_pos 52)
  rw [units_of_span_le h, span_eq]
  have shift := Nat.two_pow_pos (rank / 2 ^ 52 - 1)
  rw [Nat.log2_eq_iff (Nat.mul_pos (by omega) shift).ne', Nat.add_right_comm, Nat.pow_add,
    Nat.pow_add]
  exact ⟨Nat.mul_le_mul_right _ (by omega), Nat.mul_lt_mul_of_pos_right (by omega) shift⟩

/-- **A magnitude goes to its own rank.** -/
theorem nearest_units {rank : Nat} (h : rank ≤ infinityRank) : nearest (units rank) 1 = rank := by
  simp only [nearest, Nat.div_one, Nat.one_mul]
  by_cases low : rank < span
  · -- below the first exponent the units themselves are counted, and nothing is dropped
    have few : units rank = rank := by rw [units, if_pos low]
    have short : rank.log2 - 52 = 0 := by
      have := Nat.log2_le_self rank
      by_cases zero : rank = 0
      · simp [zero]
      · have := (Nat.log2_lt zero).mpr low
        omega
    have whole : roundToEven rank 1 = rank := by simpa using roundToEven_mul_self rank Nat.one_pos
    rw [few, short]
    simpa [whole] using h
  · have least := Nat.not_lt.mp low
    rw [log2_units least, Nat.add_sub_cancel_left, units_of_span_le least, Nat.pow_eq,
      roundToEven_mul_self _ (Nat.two_pow_pos _)]
    have exponent : 1 ≤ rank / span := (Nat.one_le_div_iff (Nat.two_pow_pos 52)).mpr least
    have parts : (rank / span - 1) * span + (span + rank % span) = rank := by
      calc (rank / span - 1) * span + (span + rank % span)
          = (rank / span - 1 + 1) * span + rank % span := by ring
        _ = rank := by rw [Nat.sub_add_cancel exponent, Nat.div_add_mod']
    rw [parts]
    exact Nat.min_eq_right h

/-- A magnitude is below the next power of two. -/
theorem units_lt (rank : Nat) : units rank < 2 ^ (52 + rank / span) := by
  by_cases low : rank < span
  · rw [units, if_pos low, Nat.div_eq_of_lt low]
    exact low
  · have least := Nat.not_lt.mp low
    have part : rank % 2 ^ 52 < 2 ^ 52 := Nat.mod_lt rank (Nat.two_pow_pos 52)
    have exponent : 1 ≤ rank / span := (Nat.one_le_div_iff (Nat.two_pow_pos 52)).mpr least
    have shape : 52 + rank / span = 53 + (rank / span - 1) := by omega
    rw [units_of_span_le least, shape, Nat.pow_add]
    refine Nat.mul_lt_mul_of_pos_right ?_ (Nat.two_pow_pos _)
    rw [span_eq]
    omega

/-! ## §3  Decimals -/

theorem rankOfDecimal_natCast (digits : Nat) {e : Nat} (h : e ≤ reach) :
    rankOfDecimal digits (e : Int) = nearest (digits * 10 ^ e * 2 ^ finest) 1 := by
  rw [← Int.ofNat_eq_natCast, rankOfDecimal, Nat.min_eq_left h, Nat.pow_eq, Nat.pow_eq]

theorem rankOfDecimal_negSucc (digits : Nat) {e : Nat} (h : e + 1 ≤ reach) :
    rankOfDecimal digits (Int.negSucc e) = nearest (digits * 2 ^ finest) (10 ^ (e + 1)) := by
  rw [rankOfDecimal, Nat.min_eq_left (Nat.le_add_left_of_le h), Nat.pow_eq, Nat.pow_eq]

/-- Within reach, a decimal is rounded as the quotient that it says. -/
theorem rankOfDecimal_sub (digits : Nat) {a k : Nat} (low : k ≤ reach) (high : a ≤ k + reach) :
    rankOfDecimal digits (a - k : Int) = nearest (digits * 10 ^ a * 2 ^ finest) (10 ^ k) := by
  -- one power of ten cancels the other; put back on both sides it gives the quotient claimed
  rcases Nat.lt_or_ge a k with h | h
  · obtain ⟨e, rfl⟩ := Nat.exists_eq_add_of_lt h
    have exponent : (a - (a + e + 1 : Nat) : Int) = Int.negSucc e := by omega
    rw [exponent, rankOfDecimal_negSucc _ (by omega),
      ← nearest_mul_right _ _ (Nat.pow_pos (n := a) (Nat.succ_pos 9))]
    exact congrArg₂ nearest (by ring) (by ring)
  · obtain ⟨e, rfl⟩ := Nat.exists_eq_add_of_le h
    have exponent : ((k + e : Nat) - k : Int) = (e : Int) := by omega
    rw [exponent, rankOfDecimal_natCast _ (by omega),
      ← nearest_mul_right _ _ (Nat.pow_pos (n := k) (Nat.succ_pos 9))]
    exact congrArg₂ nearest (by ring) (by ring)

/-- **Zeros at the end of a decimal do not matter**, as long as its exponents are within reach. -/
theorem rankOfDecimal_zeros (digits zeros : Nat) {e : Int} (low : -reach ≤ e)
    (high : e + zeros ≤ reach) :
    rankOfDecimal (digits * 10 ^ zeros) e = rankOfDecimal digits (e + zeros) := by
  obtain ⟨a, ha⟩ := Int.eq_ofNat_of_zero_le (a := e + reach) (by omega)
  have first : e = a - reach := by omega
  have second : e + zeros = (a + zeros : Nat) - reach := by omega
  rw [second, first, rankOfDecimal_sub _ (Nat.le_refl _) (by omega),
    rankOfDecimal_sub _ (Nat.le_refl _) (by omega)]
  exact congrArg₂ nearest (by ring) rfl

theorem rankOfDecimal_zero (e : Int) : rankOfDecimal 0 e = 0 := by
  cases e with
  | ofNat e =>
      rw [rankOfDecimal]
      generalize Nat.pow 2 finest = scale
      rw [Nat.zero_mul, Nat.zero_mul, nearest_zero]
  | negSucc e =>
      rw [rankOfDecimal]
      generalize Nat.pow 2 finest = scale
      rw [Nat.zero_mul, nearest_zero]

end SkyCatalog.Binary64
