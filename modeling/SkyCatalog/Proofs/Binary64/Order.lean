import SkyCatalog.Proofs.Binary64.Nearest

/-!
# Order — comparing numbers, some of which are none

Numbers are compared by their places in the row of all numbers, and a `nan` has no place: it is
neither below a number nor above one. So what is *at most* a number here is a `nan` or not above
it. Halving goes to the nearest number, and no two numbers change places by it.
-/

namespace SkyCatalog.Binary64

/-! ## §1  Places -/

/-- Smaller or equal as numbers; `nan` is not, and nothing is smaller than it or equal to it. -/
def le (x y : Binary64) : Bool :=
  match x.key?, y.key? with
  | some a, some b => a ≤ b
  | _, _ => false

/-- No number, or a number that is not above another. -/
def AtMost (x y : Binary64) : Prop := x = nan ∨ x.le y = true

variable {x y z w : Binary64}

theorem lt_eq_true_iff : x.lt y = true ↔ ∃ a b, x.key? = some a ∧ y.key? = some b ∧ a < b := by
  unfold lt
  cases x.key? <;> cases y.key? <;> simp

theorem le_eq_true_iff : x.le y = true ↔ ∃ a b, x.key? = some a ∧ y.key? = some b ∧ a ≤ b := by
  unfold le
  cases x.key? <;> cases y.key? <;> simp

/-- What exceeds a limit exceeds every lower limit, and so does whatever it is at most. -/
theorem AtMost.lt_of_lt (h : x.AtMost y) (lower : z.le w = true) (above : w.lt x = true) :
    z.lt y = true := by
  rcases h with rfl | h
  · rw [lt_nan_right] at above
    cases above
  · obtain ⟨a, b, ha, hb, hab⟩ := le_eq_true_iff.mp h
    obtain ⟨c, d, hc, hd, hcd⟩ := le_eq_true_iff.mp lower
    obtain ⟨d', a', hd', ha', hda⟩ := lt_eq_true_iff.mp above
    obtain rfl := Option.some.inj (hd.symm.trans hd')
    obtain rfl := Option.some.inj (ha.symm.trans ha')
    exact lt_eq_true_iff.mpr ⟨c, b, hc, hb, by omega⟩

/-! ## §2  Halves -/

theorem halfRank_of_low {r : Nat} (low : r < 2 * span) : halfRank r = roundToEven r 2 := by
  have finite : r ≠ infinityRank := Nat.ne_of_lt (Nat.lt_trans low (by decide))
  rw [halfRank, if_neg finite, if_neg (Nat.not_le.mpr low)]

theorem halfRank_of_high {r : Nat} (high : 2 * span ≤ r) (finite : r < infinityRank) :
    halfRank r = r - span := by
  rw [halfRank, if_neg (Nat.ne_of_lt finite), if_pos high]

theorem roundToEven_two_mono {r s : Nat} (h : r ≤ s) : roundToEven r 2 ≤ roundToEven s 2 := by
  simp only [roundToEven, Bool.or_eq_true, decide_eq_true_eq, Bool.and_eq_true, beq_iff_eq]
  split <;> split <;> omega

theorem roundToEven_two_le_span {r : Nat} (low : r < 2 * span) : roundToEven r 2 ≤ span := by
  have half : roundToEven (2 * span) 2 = span := by
    rw [Nat.mul_comm]
    exact roundToEven_mul_self span Nat.two_pos
  rw [← half]
  exact roundToEven_two_mono (Nat.le_of_lt low)

/-- Halves keep their order. Where the two ways of halving meet, the rounded halves stay below the
shifted ones. -/
theorem halfRank_mono {r s : Nat} (h : r ≤ s) (bound : s ≤ infinityRank) :
    halfRank r ≤ halfRank s := by
  rcases Nat.lt_or_eq_of_le bound with finite | rfl
  · rcases Nat.lt_or_ge s (2 * span) with low | high
    · rw [halfRank_of_low low, halfRank_of_low (Nat.lt_of_le_of_lt h low)]
      exact roundToEven_two_mono h
    · rw [halfRank_of_high high finite]
      rcases Nat.lt_or_ge r (2 * span) with low | high'
      · rw [halfRank_of_low low]
        have small := roundToEven_two_le_span low
        omega
      · rw [halfRank_of_high high' (Nat.lt_of_le_of_lt h finite)]
        exact Nat.sub_le_sub_right h span
  · -- infinity is its own half
    have infinite : halfRank infinityRank = infinityRank := if_pos rfl
    rw [infinite]
    exact Nat.le_trans (halfRank_le r) h

theorem units_of_low {r : Nat} (low : r < 2 * span) : units r = r := by
  rcases Nat.lt_or_ge r span with subnormal | least
  · rw [units, if_pos subnormal]
  · have exponent : r / span = 1 := by
      rw [Nat.div_eq_iff (by decide)]
      omega
    have parts := Nat.div_add_mod r span
    rw [units_of_span_le least, exponent, Nat.sub_self, Nat.pow_zero, Nat.mul_one]
    rwa [exponent, Nat.mul_one] at parts

theorem units_sub_span {r : Nat} (high : 2 * span ≤ r) : units r = units (r - span) * 2 := by
  have exponent : 2 ≤ r / span := (Nat.le_div_iff_mul_le (by decide)).mpr high
  have quotient : (r - span) / span = r / span - 1 := by
    simpa using Nat.sub_mul_div r span 1
  have remainder : (r - span) % span = r % span := (Nat.mod_eq_sub_mod (by omega)).symm
  have shift : (r / span - 1 - 1).succ = r / span - 1 := by omega
  rw [units_of_span_le (by omega), units_of_span_le (by omega), quotient, remainder,
    Nat.mul_assoc, ← Nat.pow_succ, shift]

/-- **Halving is rounding**: the half of a finite magnitude is the magnitude nearest to it. -/
theorem halfRank_eq_nearest {r : Nat} (finite : r < infinityRank) :
    halfRank r = nearest (units r) 2 := by
  rcases Nat.lt_or_ge r (2 * span) with low | high
  · have short : (r / 2).log2 - 52 = 0 := by
      have := Nat.log2_le_self (r / 2)
      by_cases zero : r / 2 = 0
      · simp [zero]
      · have := (Nat.log2_lt zero).mpr (show r / 2 < 2 ^ 52 by rw [span_eq] at low; omega)
        omega
    have bound : roundToEven r 2 ≤ infinityRank :=
      Nat.le_trans (roundToEven_two_le_span low) (by decide)
    rw [halfRank_of_low low, units_of_low low, nearest, short]
    simpa using bound
  · have half : nearest (units (r - span) * 2) (1 * 2) = nearest (units (r - span)) 1 :=
      nearest_mul_right _ 1 Nat.two_pos
    rw [halfRank_of_high high finite, units_sub_span high]
    rw [Nat.one_mul, nearest_units (by omega)] at half
    exact half.symm

/-- Halving keeps what is at most a number at most its half. -/
theorem AtMost.half (h : x.AtMost y) : x.half.AtMost y.half := by
  rcases h with rfl | h
  · exact .inl rfl
  · obtain ⟨a, b, ha, hb, hab⟩ := le_eq_true_iff.mp h
    cases x with
    | nan => cases ha
    | number s r hr =>
        cases y with
        | nan => cases hb
        | number t q hq =>
            obtain rfl := Option.some.inj ha
            obtain rfl := Option.some.inj hb
            refine .inr (le_eq_true_iff.mpr ⟨_, _, rfl, rfl, ?_⟩)
            have up : r ≤ q → halfRank r ≤ halfRank q := fun h => halfRank_mono h hq
            have down : q ≤ r → halfRank q ≤ halfRank r := fun h => halfRank_mono h hr
            have less := halfRank_le r
            have less' := halfRank_le q
            cases s <;> cases t <;> simp only [if_true, Bool.false_eq_true, if_false] at hab ⊢
            all_goals omega

end SkyCatalog.Binary64
