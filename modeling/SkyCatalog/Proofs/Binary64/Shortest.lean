import SkyCatalog.Binary64.Shortest
import SkyCatalog.Proofs.Binary64.Nearest

/-!
# Shortest decimals read back

A cut is taken only when it reads back, and the whole expansion, which stands in for a cut that
was not found, is the magnitude itself. All of these decimals are within reach, so zeros may be
put at their end or taken from it.
-/

namespace SkyCatalog.Binary64

/-- A decimal whose exponent, and whose place before the first digit, are within reach. -/
structure Decimal.InReach (d : Decimal) : Prop where
  low : -reach ≤ d.exponent
  high : (Nat.toDigits 10 d.digits).length + d.exponent ≤ reach

/-! ## §1  Expansions -/

theorem ten_pow (n : Nat) : 10 ^ n = 2 ^ n * 5 ^ n := Nat.mul_pow 2 5 n

theorem mul_five_pow_lt {n j f m : Nat} (h : n < 2 ^ j) (hj : j ≤ m) (hf : f ≤ m) :
    n * 5 ^ f < 10 ^ m := by
  have five : 0 < 5 ^ f := Nat.pow_pos (by decide)
  calc n * 5 ^ f < 2 ^ j * 5 ^ f := Nat.mul_lt_mul_of_pos_right h five
    _ ≤ 2 ^ m * 5 ^ m :=
        Nat.mul_le_mul (Nat.pow_le_pow_right (by decide) hj) (Nat.pow_le_pow_right (by decide) hf)
    _ = 10 ^ m := (ten_pow m).symm

theorem digits_expansion (rank : Nat) : (expansion rank).digits = units rank * 5 ^ finest := by
  rw [expansion, Nat.pow_eq]

/-- **The whole expansion reads back.** -/
theorem rank_expansion {rank : Nat} (h : rank ≤ infinityRank) : (expansion rank).rank = rank := by
  have exponent : (expansion rank).exponent = (0 : Nat) - finest := by
    show -(finest : Int) = _
    omega
  have factor : units rank * 5 ^ finest * 10 ^ 0 * 2 ^ finest = units rank * 10 ^ finest := by
    rw [ten_pow finest]
    ring
  have quotient := nearest_mul_right (units rank) 1 (Nat.pow_pos (n := finest) (Nat.succ_pos 9))
  rw [Decimal.rank, digits_expansion, exponent, rankOfDecimal_sub _ (by decide) (Nat.zero_le _),
    factor]
  rw [Nat.one_mul] at quotient
  rw [quotient, nearest_units h]

/-- The expansion of any magnitude has at most so many digits. -/
def expansionLength : Nat := 2099

theorem digits_expansion_lt {rank : Nat} (h : rank ≤ infinityRank) :
    (expansion rank).digits < 10 ^ expansionLength := by
  have exponent : rank / span ≤ 2047 := Nat.div_le_of_le_mul (by rwa [Nat.mul_comm])
  rw [digits_expansion]
  exact mul_five_pow_lt (units_lt rank) (Nat.add_le_add_left exponent 52) (by decide)

theorem length_expansion_le {rank : Nat} (h : rank ≤ infinityRank) :
    (Nat.toDigits 10 (expansion rank).digits).length ≤ expansionLength :=
  (Nat.length_toDigits_le_iff (by decide) (by decide)).mpr (digits_expansion_lt h)

/-! ## §2  Cuts -/

/-- A cut ends where it was asked to, and is at most one step above the expansion. -/
theorem of_cut? {rank places : Nat} {whole d : Decimal} (h : cut? rank whole places = some d) :
    d.exponent = whole.exponent + places ∧ d.digits ≤ whole.digits / 10 ^ places + 1 := by
  simp only [cut?] at h
  split at h
  · split at h <;> cases h
    · exact ⟨rfl, Nat.le_succ _⟩
    · exact ⟨rfl, Nat.le_refl _⟩
  · cases h
    exact ⟨rfl, Nat.le_succ _⟩
  · cases h
    exact ⟨rfl, Nat.le_refl _⟩
  · cases h

/-- The shortest decimal is a cut before the last digit of the expansion, or all of it. -/
theorem shortest_cases (rank : Nat) : shortest rank = expansion rank ∨
    ∃ places, places < (Nat.toDigits 10 (expansion rank).digits).length ∧
      cut? rank (expansion rank) places = some (shortest rank) := by
  unfold shortest
  dsimp only
  cases found : (List.range enoughDigits).findSome? fun n => cut? rank (expansion rank)
      ((Nat.toDigits 10 (expansion rank).digits).length - (n + 1)) with
  | none => exact .inl rfl
  | some d =>
      obtain ⟨n, -, cut⟩ := List.exists_of_findSome?_eq_some found
      have some_digit := List.length_pos_iff.mpr
        (Nat.toDigits_ne_nil (n := (expansion rank).digits) (b := 10))
      exact .inr ⟨_, by omega, cut⟩

/-- **The shortest decimal reads back.** -/
theorem rank_shortest {rank : Nat} (h : rank ≤ infinityRank) : (shortest rank).rank = rank := by
  rcases shortest_cases rank with whole | ⟨places, -, cut⟩
  · rw [whole, rank_expansion h]
  · exact rank_of_cut? cut

theorem inReach_shortest {rank : Nat} (h : rank ≤ infinityRank) : (shortest rank).InReach := by
  have finest_eq : finest = 1074 := rfl
  have reach_eq : reach = 1100 := rfl
  have limit_eq : expansionLength = 2099 := rfl
  have limit := length_expansion_le h
  rcases shortest_cases rank with whole | ⟨places, before, cut⟩
  · rw [whole]
    have exponent : (expansion rank).exponent = -finest := rfl
    exact ⟨by omega, by omega⟩
  · obtain ⟨exponent, near⟩ := of_cut? cut
    have exponent : (shortest rank).exponent = -finest + places := exponent
    have few : (expansion rank).digits / 10 ^ places < 10 ^ (expansionLength - places) := by
      refine Nat.div_lt_of_lt_mul ?_
      rw [← Nat.pow_add, Nat.add_sub_cancel' (by omega)]
      exact digits_expansion_lt h
    have below : (shortest rank).digits < 10 ^ (expansionLength - places + 1) :=
      Nat.lt_of_le_of_lt (Nat.le_trans near few)
        (Nat.pow_lt_pow_right (by decide) (Nat.lt_succ_self _))
    have length := (Nat.length_toDigits_le_iff (b := 10) (by decide) (Nat.succ_pos _)).mpr below
    exact ⟨by omega, by omega⟩

/-- A decimal that stands for something else than zero has a digit other than zero. -/
theorem digits_shortest_pos {rank : Nat} (h : rank ≤ infinityRank) (positive : 0 < rank) :
    0 < (shortest rank).digits := by
  refine Nat.pos_of_ne_zero fun zero => ?_
  have back := rank_shortest h
  rw [Decimal.rank, zero, rankOfDecimal_zero] at back
  omega

end SkyCatalog.Binary64
