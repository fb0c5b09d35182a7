import Mathlib.Algebra.Group.Nat.Defs
import Mathlib.Data.List.Induction
import SkyCatalog.Numeral.Integer

/-!
# Lengths of numerals — what is read can be written

A numeral that is read has no more digits than the limit, leading zeros among them, so the
number it denotes has no more digits either and its numeral can be written.
-/

namespace SkyCatalog.Numeral

open SkyCatalog.Text (digit?_lt)

/-! ## §1  Digits -/

theorem lt_of_mem_moreDigits (s : List Char) : ∀ d ∈ (moreDigits s).1, d < 10 := by
  fun_induction moreDigits s with
  | case1 => simp
  | case2 c d hd =>
      intro e he
      obtain rfl := List.mem_singleton.mp he
      exact digit?_lt hd
  | case3 => simp
  | case4 c' s d hd ds rest more ih =>
      intro e he
      rcases List.mem_cons.mp he with rfl | he
      · exact digit?_lt hd
      · rw [more] at ih
        exact ih e he
  | case5 => simp
  | case6 c c' s _ d hd ds rest more ih =>
      intro e he
      rcases List.mem_cons.mp he with rfl | he
      · exact digit?_lt hd
      · rw [more] at ih
        exact ih e he
  | case7 => simp

theorem lt_of_mem_digitRun? {s rest : List Char} {ds : List Nat}
    (h : digitRun? s = some (ds, rest)) : ∀ d ∈ ds, d < 10 := by
  unfold digitRun? at h
  split at h
  · cases h
  · next c s =>
      split at h
      · next d hd =>
          cases h
          intro e he
          rcases List.mem_cons.mp he with rfl | he
          · exact digit?_lt hd
          · exact lt_of_mem_moreDigits s e he
      · cases h

/-- So many digits denote a number below the power of ten with this exponent. -/
theorem value_lt_pow {ds : List Nat} (h : ∀ d ∈ ds, d < 10) : value ds < 10 ^ ds.length := by
  induction ds using List.reverseRecOn with
  | nil => exact Nat.one_pos
  | append_singleton ds d ih =>
      have init := ih fun e he => h e (List.mem_append_left _ he)
      have last := h d (List.mem_append_right _ (List.mem_singleton_self d))
      rw [value_snoc, List.length_append, List.length_singleton, Nat.pow_succ]
      omega

/-! ## §2  The limit -/

/-- The length of a numeral is limited by the size of its number. -/
theorem decimal_length_le_iff {n : Nat} :
    (decimal n).length ≤ lengthLimit ↔ n < 10 ^ lengthLimit :=
  Nat.length_toDigits_le_iff (by decide) (by decide)

theorem numeral?_isSome_iff {n : Nat} :
    (numeral? n).isSome ↔ (decimal n).length ≤ lengthLimit := by
  unfold numeral?
  dsimp only
  split <;> simp_all

/-- **What is read can be written.** The number that a numeral denotes is within the limit. -/
theorem decimal_length_of_integer? {s : List Char} {n : Int} (h : integer? s = some n) :
    (decimal n.natAbs).length ≤ lengthLimit := by
  rw [decimal_length_le_iff]
  unfold integer? at h
  dsimp only at h
  split at h
  · next ds run =>
      split at h
      · next short =>
          have below := value_lt_pow (lt_of_mem_digitRun? run)
          have size : n.natAbs = value ds := by
            obtain rfl := Option.some.inj h
            split <;> simp
          rw [size]
          exact Nat.lt_of_lt_of_le below (Nat.pow_le_pow_right (by decide) short)
      · cases h
  · cases h

end SkyCatalog.Numeral
