import Mathlib.Algebra.Group.Nat.Defs
import Mathlib.Data.List.Induction
import SkyCatalog.Numeral.Integer

/-!
# Digits read back — what is written in plain digits is read as written

Numbers are written with the ten plain digits and without underscores. Such a run is read to its
end, wherever it ends, and denotes the number that its digits spell. So a whole number that is
not too long is read back from its own numeral.
-/

namespace SkyCatalog.Numeral

open SkyCatalog.Text (digit?)

/-! ## §1  Plain digits -/

/-- Only the ten plain digits. -/
def Plain (cs : List Char) : Prop := ∀ c ∈ cs, c.isDigit = true

/-- The number that plain digits spell. -/
def spelled (cs : List Char) : Nat := Nat.ofDigitChars 10 cs 0

/-- The values of plain digits. -/
def places (cs : List Char) : List Nat := cs.map fun c => c.toNat - '0'.toNat

theorem digit?_of_isDigit {c : Char} (h : c.isDigit = true) :
    digit? c = some (c.toNat - '0'.toNat) := by
  obtain ⟨low, high⟩ := Char.isDigit_iff_toNat.mp h
  have range : 48 ≤ c.toNat ∧ c.toNat < 48 + 10 := ⟨low, Nat.lt_succ_of_le high⟩
  simp [digit?, Text.digitZeros, range]

theorem value_places (cs : List Char) : value (places cs) = spelled cs := by
  simp [value, places, spelled, Nat.ofDigitChars, List.foldl_map]

theorem plain_decimal (n : Nat) : Plain (decimal n) := fun _ hc =>
  Nat.isDigit_of_mem_toDigits (by decide) (by decide) hc

theorem decimal_ne_nil (n : Nat) : decimal n ≠ [] := Nat.toDigits_ne_nil

theorem spelled_decimal (n : Nat) : spelled (decimal n) = n :=
  Nat.ofDigitChars_toDigits (by decide) (by decide)

theorem plain_zeros (k : Nat) : Plain (List.replicate k '0') := by
  intro c hc
  rw [List.eq_of_mem_replicate hc]
  rfl

theorem Plain.append {cs ds : List Char} (hc : Plain cs) (hd : Plain ds) : Plain (cs ++ ds) :=
  fun c h => (List.mem_append.mp h).elim (hc c) (hd c)

/-- Zeros before a number do not matter. -/
theorem spelled_zeros_append (k : Nat) (cs : List Char) :
    spelled (List.replicate k '0' ++ cs) = spelled cs := by
  rw [spelled, Nat.ofDigitChars_append, Nat.ofDigitChars_replicate_zero, Nat.mul_zero, spelled]

/-- Zeros after a number multiply it. -/
theorem spelled_append_zeros (cs : List Char) (k : Nat) :
    spelled (cs ++ List.replicate k '0') = spelled cs * 10 ^ k := by
  rw [spelled, Nat.ofDigitChars_append, Nat.ofDigitChars_replicate_zero, Nat.mul_comm, spelled]

/-! ## §2  Runs -/

/-- A text that does not go on with a run of digits. -/
def Stops (rest : List Char) : Prop := ∀ c ∈ rest.head?, digit? c = none ∧ c ≠ '_'

theorem stops_nil : Stops [] := nofun

theorem moreDigits_of_stops {rest : List Char} (h : Stops rest) : moreDigits rest = ([], rest) := by
  match rest with
  | [] => rfl
  | [c] => simp [moreDigits, (h c rfl).1]
  | c :: c' :: s => simp [moreDigits, (h c rfl).1, (h c rfl).2]

theorem moreDigits_cons {c : Char} {d : Nat} (h : digit? c = some d) (ne : c ≠ '_')
    (s : List Char) : moreDigits (c :: s) = (d :: (moreDigits s).1, (moreDigits s).2) := by
  cases s with
  | nil => simp [moreDigits, h]
  | cons c' s => simp [moreDigits, h, ne]

theorem moreDigits_append {cs rest : List Char} (plain : Plain cs) (stop : Stops rest) :
    moreDigits (cs ++ rest) = (places cs, rest) := by
  induction cs with
  | nil => exact moreDigits_of_stops stop
  | cons c cs ih =>
      have digit := plain c List.mem_cons_self
      have ne : c ≠ '_' := by
        rintro rfl
        cases digit
      rw [List.cons_append, moreDigits_cons (digit?_of_isDigit digit) ne,
        ih fun d hd => plain d (List.mem_cons_of_mem _ hd)]
      rfl

/-- **A run of plain digits** is read to its end. -/
theorem digitRun?_append {cs rest : List Char} (plain : Plain cs) (ne : cs ≠ [])
    (stop : Stops rest) : digitRun? (cs ++ rest) = some (places cs, rest) := by
  obtain ⟨c, cs, rfl⟩ := List.exists_cons_of_ne_nil ne
  have tail := moreDigits_append (fun d hd => plain d (List.mem_cons_of_mem _ hd)) stop
  rw [List.cons_append, digitRun?, digit?_of_isDigit (plain c List.mem_cons_self)]
  simp only [tail]
  rfl

theorem digitRun?_plain {cs : List Char} (plain : Plain cs) (ne : cs ≠ []) :
    digitRun? cs = some (places cs, []) := by
  simpa using digitRun?_append plain ne stops_nil

/-! ## §3  Whole numbers -/

/-- A digit is no sign. -/
theorem sign_of_plain {c : Char} {s : List Char} (h : c.isDigit = true) :
    sign (c :: s) = (false, c :: s) := by
  have plus : c ≠ '+' := by
    rintro rfl
    cases h
  have minus : c ≠ '-' := by
    rintro rfl
    cases h
  unfold sign
  split <;> simp_all

/-- **A whole number is read back** from its numeral, when this is not too long. -/
theorem integer?_decimal {n : Nat} (short : (decimal n).length ≤ lengthLimit) :
    integer? (decimal n) = some (n : Int) := by
  obtain ⟨c, cs, shape⟩ := List.exists_cons_of_ne_nil (decimal_ne_nil n)
  have unsigned : sign (decimal n) = (false, decimal n) := by
    rw [shape]
    exact sign_of_plain (plain_decimal n c (shape ▸ List.mem_cons_self))
  have limit : (places (decimal n)).length ≤ lengthLimit := by rwa [places, List.length_map]
  simp only [integer?, unsigned, digitRun?_plain (plain_decimal n) (decimal_ne_nil n), limit,
    if_true, value_places, spelled_decimal, Bool.false_eq_true, if_false]

end SkyCatalog.Numeral
