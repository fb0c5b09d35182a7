import SkyCatalog.Binary64.Written
import SkyCatalog.Numeral.Real
import SkyCatalog.Proofs.Binary64.Shortest
import SkyCatalog.Proofs.Numeral.Digits

/-!
# Written numbers read back

The layout of a number puts a point into its digits, fills up with zeros, or adds a power of ten.
Reading undoes each of these: the digits before and after the point are one number, and the place
of the point is a power of ten. What is left is the shortest decimal, with other zeros at its end.
-/

namespace SkyCatalog.Numeral

open Binary64

/-! ## §1  Digits without the zeros at their end -/

theorem exists_stripZeros_append (cs : List Char) :
    ∃ k, cs = stripZeros cs ++ List.replicate k '0' := by
  have parts := congrArg List.reverse
    (List.takeWhile_append_dropWhile (p := (· == '0')) (l := cs.reverse))
  rw [List.reverse_append, List.reverse_reverse] at parts
  have zeros : ∀ c ∈ (cs.reverse.takeWhile (· == '0')).reverse, c = '0' := by
    intro c hc
    have := List.all_eq_true.mp List.all_takeWhile c (List.mem_reverse.mp hc)
    simpa using this
  exact ⟨_, (List.eq_replicate_of_mem zeros) ▸ parts.symm⟩

theorem Plain.stripZeros {cs : List Char} (h : Plain cs) : Plain (stripZeros cs) := by
  obtain ⟨k, parts⟩ := exists_stripZeros_append cs
  intro c hc
  exact h c (parts ▸ List.mem_append_left _ hc)

/-- A number other than zero has a digit that is no zero. -/
theorem stripZeros_ne_nil {cs : List Char} (h : spelled cs ≠ 0) : Binary64.stripZeros cs ≠ [] := by
  intro none
  obtain ⟨k, parts⟩ := exists_stripZeros_append cs
  rw [none] at parts
  refine h ?_
  rw [parts, spelled_append_zeros, spelled, Nat.ofDigitChars_nil, Nat.zero_mul]

/-! ## §2  Parts of a decimal -/

theorem stops_point (s : List Char) : Stops ('.' :: s) := by
  rintro c ⟨⟩
  decide

theorem stops_power (s : List Char) : Stops ('e' :: s) := by
  rintro c ⟨⟩
  decide

theorem digitRun_append {cs rest : List Char} (plain : Plain cs) (ne : cs ≠ [])
    (stop : Stops rest) : digitRun (cs ++ rest) = (places cs, rest) := by
  rw [digitRun, digitRun?_append plain ne stop, Option.getD_some]

theorem places_append (cs ds : List Char) : places cs ++ places ds = places (cs ++ ds) :=
  (List.map_append ..).symm

theorem isEmpty_places {cs : List Char} (ne : cs ≠ []) : (places cs).isEmpty = false := by
  obtain ⟨c, cs, rfl⟩ := List.exists_cons_of_ne_nil ne
  rfl

/-- A number without a point. -/
theorem unsigned?_whole {cs rest : List Char} {e : Int} (plain : Plain cs) (ne : cs ≠ [])
    (stop : Stops rest) (pointless : rest.head? ≠ some '.') (power : exponent? rest = some e) :
    unsigned? (cs ++ rest) = some (spelled cs, e) := by
  unfold unsigned?
  rw [digitRun_append plain ne stop]
  dsimp only
  split
  · exact absurd rfl pointless
  · simp only [isEmpty_places ne, Bool.false_and, power, List.append_nil, value_places]
    simp

/-- A number with digits on both sides of a point. -/
theorem unsigned?_point {cs ds rest : List Char} {e : Int} (plain : Plain cs) (ne : cs ≠ [])
    (plain' : Plain ds) (ne' : ds ≠ []) (stop : Stops rest) (power : exponent? rest = some e) :
    unsigned? (cs ++ '.' :: (ds ++ rest)) = some (spelled (cs ++ ds), e - ds.length) := by
  unfold unsigned?
  rw [digitRun_append plain ne (stops_point _)]
  simp only [digitRun_append plain' ne' stop, isEmpty_places ne, Bool.false_and, power,
    places_append, value_places]
  simp [places]

/-- **A power of ten is read back.** -/
theorem exponent?_text (e : Int) : exponent? ('e' :: exponentText e) = some e := by
  have plain : Plain (List.replicate (2 - (decimal e.natAbs).length) '0' ++ decimal e.natAbs) :=
    (plain_zeros _).append (plain_decimal _)
  have run := digitRun?_plain plain (List.append_ne_nil_of_right_ne_nil _ (decimal_ne_nil _))
  have value : value (places (List.replicate (2 - (decimal e.natAbs).length) '0' ++
      decimal e.natAbs)) = e.natAbs := by
    rw [value_places, spelled_zeros_append, spelled_decimal]
  unfold exponentText
  rw [decimal] at run value
  by_cases negative : e < 0
  · simp only [exponent?, sign, negative, if_true, run, value]
    show some (-(e.natAbs : Int)) = some e
    rw [Int.ofNat_natAbs_of_nonpos (Int.le_of_lt negative), Int.neg_neg]
  · simp only [exponent?, sign, negative, if_false, run, value]
    show some (e.natAbs : Int) = some e
    rw [Int.natAbs_of_nonneg (Int.not_lt.mp negative)]

/-! ## §3  Layouts -/

variable {cs : List Char}

theorem unsigned?_scientific (plain : Plain cs) (ne : cs ≠ []) (x : Int) :
    unsigned? (scientific cs x) = some (spelled cs, x + 1 - cs.length) := by
  obtain ⟨c, cs, rfl⟩ := List.exists_cons_of_ne_nil ne
  have first : Plain [c] := fun d hd => plain d (List.mem_singleton.mp hd ▸ List.mem_cons_self)
  cases cs with
  | nil =>
      have whole := unsigned?_whole first ne (stops_power (exponentText x)) (by simp)
        (exponent?_text x)
      simpa [scientific] using whole
  | cons d cs =>
      have point := unsigned?_point first (List.cons_ne_nil c [])
        (fun b hb => plain b (List.mem_cons_of_mem _ hb)) (List.cons_ne_nil d cs)
        (stops_power (exponentText x)) (exponent?_text x)
      have count : x + 1 - (c :: d :: cs).length = x - (d :: cs).length := by
        simp only [List.length_cons]
        omega
      simpa [scientific, count] using point

/-- The point before all digits: zeros fill the gap between them. -/
theorem unsigned?_fraction (plain : Plain cs) (ne : cs ≠ []) {point : Int} (low : point ≤ 0) :
    unsigned? ('0' :: '.' :: (List.replicate (-point).toNat '0' ++ cs)) =
      some (spelled cs, point - cs.length) := by
  have zero : Plain ['0'] := plain_zeros 1
  have read := unsigned?_point zero (List.cons_ne_nil '0' [])
    ((plain_zeros (-point).toNat).append plain) (List.append_ne_nil_of_right_ne_nil _ ne)
    stops_nil (e := 0) rfl
  have count : (0 : Int) - (List.replicate (-point).toNat '0' ++ cs).length =
      point - cs.length := by
    rw [List.length_append, List.length_replicate]
    omega
  have value : spelled (['0'] ++ (List.replicate (-point).toNat '0' ++ cs)) = spelled cs :=
    (spelled_zeros_append 1 _).trans (spelled_zeros_append ..)
  rwa [List.append_nil, count, value] at read

/-- The point after all digits: zeros fill the gap, and the point is left out. -/
theorem unsigned?_zeros (plain : Plain cs) (ne : cs ≠ []) (k : Nat) :
    unsigned? (cs ++ List.replicate k '0') = some (spelled cs * 10 ^ k, 0) := by
  have read := unsigned?_whole (plain.append (plain_zeros k))
    (List.append_ne_nil_of_left_ne_nil ne _) stops_nil (by simp) (e := 0) rfl
  rwa [List.append_nil, spelled_append_zeros] at read

/-- The point between two digits. -/
theorem unsigned?_inner (plain : Plain cs) {whole : Nat} (some_whole : 0 < whole)
    (inside : whole < cs.length) : unsigned? (cs.take whole ++ '.' :: cs.drop whole) =
      some (spelled cs, (whole : Int) - cs.length) := by
  have front : cs.take whole ≠ [] := by
    rw [← List.length_pos_iff, List.length_take]
    omega
  have back : cs.drop whole ≠ [] := by
    rw [← List.length_pos_iff, List.length_drop]
    omega
  have read := unsigned?_point (fun c hc => plain c (List.mem_of_mem_take hc)) front
    (fun c hc => plain c (List.mem_of_mem_drop hc)) back stops_nil (e := 0) rfl
  have count : (0 : Int) - (cs.drop whole).length = whole - cs.length := by
    rw [List.length_drop]
    omega
  rwa [List.append_nil, List.take_append_drop, count] at read

/-- Digits that are written out denote what they spell, with the point where it stands. -/
theorem unsigned?_positional (plain : Plain cs) (ne : cs ≠ []) {point : Int}
    (near : point ≤ reach) : ∃ n e, unsigned? (positional .brief cs point) = some (n, e) ∧
      rankOfDecimal n e = rankOfDecimal (spelled cs) (point - cs.length) := by
  unfold positional
  by_cases low : point ≤ 0
  · rw [if_pos low]
    exact ⟨_, _, unsigned?_fraction plain ne low, rfl⟩
  · rw [if_neg low]
    by_cases whole : cs.length ≤ point.toNat
    · rw [if_pos whole]
      refine ⟨_, _, (congrArg unsigned? (List.append_nil _)).trans (unsigned?_zeros plain ne _), ?_⟩
      rw [rankOfDecimal_zeros _ _ (by omega) (by omega)]
      congr 1
      omega
    · rw [if_neg whole]
      refine ⟨_, _, unsigned?_inner plain (by omega) (by omega), ?_⟩
      congr 1
      omega

/-- **A written decimal is read back** as a decimal of the same rank. -/
theorem unsigned?_write {d : Decimal} (near : d.InReach) (positive : 0 < d.digits) :
    ∃ n e, unsigned? (d.write .brief) = some (n, e) ∧ rankOfDecimal n e = d.rank := by
  obtain ⟨k, all⟩ := exists_stripZeros_append (decimal d.digits)
  have digits := spelled_decimal d.digits
  have plain := (plain_decimal d.digits).stripZeros
  have ne : stripZeros (decimal d.digits) ≠ [] := stripZeros_ne_nil (by omega)
  have high : (decimal d.digits).length + d.exponent ≤ reach := near.high
  have length := congrArg List.length all
  rw [List.length_append, List.length_replicate] at length
  have rank : rankOfDecimal (spelled (stripZeros (decimal d.digits)))
      ((decimal d.digits).length + d.exponent - (stripZeros (decimal d.digits)).length) =
      d.rank := by
    rw [all, spelled_append_zeros] at digits
    rw [Decimal.rank, ← digits, rankOfDecimal_zeros _ _ near.low (by omega), digits]
    congr 1
    omega
  unfold Decimal.write
  dsimp only
  split
  · obtain ⟨n, e, read, same⟩ := unsigned?_positional plain ne high
    exact ⟨n, e, read, same.trans rank⟩
  · refine ⟨_, _, unsigned?_scientific plain ne _, ?_⟩
    rw [← rank, decimal]
    congr 1
    omega

/-! ## §4  Numbers -/

/-- The characters that written numbers are made of. -/
def isNumeralChar (c : Char) : Bool := c.isDigit || "-+.einfa".toList.contains c

theorem isBlank_of_isNumeralChar {c : Char} (h : isNumeralChar c = true) :
    Text.isBlank c = false := by
  rcases Bool.or_eq_true .. |>.mp h with digit | other
  · obtain ⟨low, high⟩ := Char.isDigit_iff_toNat.mp digit
    have low : 48 ≤ c.toNat := low
    have high : c.toNat ≤ 57 := high
    simp [Text.isBlank]
    omega
  · have listed : c ∈ ['-', '+', '.', 'e', 'i', 'n', 'f', 'a'] := List.contains_iff_mem.mp other
    simp only [List.mem_cons, List.not_mem_nil, or_false] at listed
    rcases listed with rfl | rfl | rfl | rfl | rfl | rfl | rfl | rfl <;> decide

theorem isNumeralChar_of_isDigit {c : Char} (h : c.isDigit = true) : isNumeralChar c = true := by
  simp [isNumeralChar, h]

/-- A text of characters that written numbers are made of. -/
def InNumerals (s : List Char) : Prop := ∀ c ∈ s, isNumeralChar c = true

theorem Plain.inNumerals (h : Plain cs) : InNumerals cs := fun c hc =>
  isNumeralChar_of_isDigit (h c hc)

theorem inNumerals_append {s t : List Char} :
    InNumerals (s ++ t) ↔ InNumerals s ∧ InNumerals t := List.forall_mem_append

theorem inNumerals_cons {c : Char} {s : List Char} :
    InNumerals (c :: s) ↔ isNumeralChar c = true ∧ InNumerals s := List.forall_mem_cons

theorem inNumerals_exponentText (e : Int) : InNumerals (exponentText e) := by
  have digits := ((plain_zeros (2 - (decimal e.natAbs).length)).append
    (plain_decimal e.natAbs)).inNumerals
  refine inNumerals_cons.mpr ⟨?_, digits⟩
  split <;> rfl

theorem inNumerals_positional (plain : Plain cs) (point : Int) :
    InNumerals (positional .brief cs point) := by
  unfold positional
  split
  · exact inNumerals_cons.mpr ⟨rfl, inNumerals_cons.mpr
      ⟨rfl, ((plain_zeros _).append plain).inNumerals⟩⟩
  · dsimp only
    split
    · exact inNumerals_append.mpr ⟨(plain.append (plain_zeros _)).inNumerals, nofun⟩
    · exact inNumerals_append.mpr ⟨fun c hc => plain.inNumerals c (List.mem_of_mem_take hc),
        inNumerals_cons.mpr ⟨rfl, fun c hc => plain.inNumerals c (List.mem_of_mem_drop hc)⟩⟩

theorem inNumerals_scientific (plain : Plain cs) (x : Int) : InNumerals (scientific cs x) := by
  have back : InNumerals (cs.drop 1) := fun c hc => plain.inNumerals c (List.mem_of_mem_drop hc)
  have fraction : InNumerals (if (cs.drop 1).isEmpty then [] else '.' :: cs.drop 1) := by
    split
    · exact nofun
    · exact inNumerals_cons.mpr ⟨rfl, back⟩
  exact inNumerals_append.mpr ⟨inNumerals_append.mpr
    ⟨fun c hc => plain.inNumerals c (List.mem_of_mem_take hc), fraction⟩,
    inNumerals_cons.mpr ⟨rfl, inNumerals_exponentText x⟩⟩

theorem inNumerals_decimal (d : Decimal) : InNumerals (d.write .brief) := by
  have plain := (plain_decimal d.digits).stripZeros
  unfold Decimal.write
  dsimp only
  split
  · exact inNumerals_positional plain _
  · exact inNumerals_scientific plain _

theorem inNumerals_write (x : Binary64) : InNumerals (x.write .brief) := by
  cases x with
  | nan => exact List.all_eq_true.mp (by decide)
  | number negative rank h =>
      have sign : InNumerals (if negative then ['-'] else []) := by
        cases negative
        · exact nofun
        · exact List.all_eq_true.mp (by decide)
      refine inNumerals_append.mpr ⟨sign, ?_⟩
      unfold writeRank
      split
      · exact List.all_eq_true.mp (by decide)
      · split
        · exact List.all_eq_true.mp (by decide)
        · exact inNumerals_decimal _

/-- A decimal is written with a digit first. -/
theorem exists_write_eq_cons {d : Decimal} (positive : 0 < d.digits) :
    ∃ c s, d.write .brief = c :: s ∧ c.isDigit = true := by
  have plain := (plain_decimal d.digits).stripZeros
  have digits := spelled_decimal d.digits
  have ne : stripZeros (decimal d.digits) ≠ [] := stripZeros_ne_nil (by omega)
  obtain ⟨c, cs, shape⟩ := List.exists_cons_of_ne_nil ne
  have first := plain c (shape ▸ List.mem_cons_self)
  unfold Decimal.write
  rw [show Nat.toDigits 10 d.digits = decimal d.digits from rfl]
  dsimp only
  rw [shape]
  split
  · unfold positional
    split
    · exact ⟨'0', _, rfl, rfl⟩
    · next after =>
        dsimp only
        split
        · exact ⟨c, _, rfl, first⟩
        · obtain ⟨n, whole⟩ := Nat.exists_eq_succ_of_ne_zero (mt Int.toNat_eq_zero.mp after)
          rw [whole]
          exact ⟨c, _, rfl, first⟩
  · exact ⟨c, _, rfl, first⟩

/-- A text is not trimmed of characters that it does not have. -/
theorem trimOf_eq_self {p : Char → Bool} {s : List Char} (h : ∀ c ∈ s, p c = false) :
    Text.trimOf p s = s := by
  have kept {t : List Char} (ht : ∀ c ∈ t, p c = false) : t.dropWhile p = t := by
    cases t with
    | nil => rfl
    | cons c t => exact List.dropWhile_cons_of_neg (by simp [ht c List.mem_cons_self])
  rw [Text.trimOf, kept h, kept fun c hc => h c (List.mem_reverse.mp hc), List.reverse_reverse]

theorem real?_eq_realWord? {s : List Char} (h : InNumerals s) : real? s = realWord? s := by
  have margin : ∀ c ∈ s, isMargin c = false := fun c hc => by
    rw [isMargin, isBlank_of_isNumeralChar (h c hc), Bool.false_and]
  rw [real?, trimOf_eq_self margin]

/-- A decimal with a sign, if it is negative. -/
theorem realWord?_of_unsigned? {negative : Bool} {s : List Char} {n : Nat} {e : Int}
    (first : ∃ c t, s = c :: t ∧ c.isDigit = true) (read : unsigned? s = some (n, e)) :
    realWord? ((if negative then ['-'] else []) ++ s) = some (ofDecimal negative n e) := by
  obtain ⟨c, t, rfl, digit⟩ := first
  have signed : sign ((if negative then ['-'] else []) ++ c :: t) = (negative, c :: t) := by
    cases negative with
    | false => exact sign_of_plain digit
    | true => rfl
  -- the words for numbers that are no decimals begin with letters
  have lower : c.toLower = c := by
    have upTo : c.toNat ≤ 57 := (Char.isDigit_iff_toNat.mp digit).2
    have below : ¬ (c.val ≥ 'A'.val ∧ c.val ≤ 'Z'.val) := by
      rintro ⟨letter, -⟩
      have letter : 65 ≤ c.toNat := letter
      omega
    exact dif_neg below
  have head : c ≠ 'i' ∧ c ≠ 'n' := by
    constructor <;> rintro rfl <;> cases digit
  have noInfinity : infinityWords.contains ((c :: t).map Char.toLower) = false := by
    simp [infinityWords, lower, head.1]
  have noNan : (c :: t).map Char.toLower ≠ nanWord := by
    simp [nanWord, lower, head.2]
  simp only [realWord?, signed, noInfinity, Bool.false_eq_true, if_false, noNan, read,
    Option.map_some]

/-- **A number is read back from its written form**, whatever number it is. -/
theorem real?_write (x : Binary64) : real? (x.write .brief) = some x := by
  rw [real?_eq_realWord? (inNumerals_write x)]
  cases x with
  | nan => decide
  | number negative rank h =>
      unfold write writeRank
      dsimp only
      by_cases infinite : rank = infinityRank
      · subst infinite
        rw [if_pos rfl]
        cases negative <;> rfl
      · by_cases zero : rank = 0
        · subst zero
          have read : unsigned? ['0'] = some (0, 0) := by decide
          rw [if_neg infinite, if_pos rfl]
          refine (realWord?_of_unsigned? ⟨'0', [], rfl, rfl⟩ read).trans ?_
          simp only [ofDecimal, rankOfDecimal_zero]
        · have positive := digits_shortest_pos h (Nat.pos_of_ne_zero zero)
          obtain ⟨n, e, read, same⟩ := unsigned?_write (inReach_shortest h) positive
          rw [if_neg infinite, if_neg zero,
            realWord?_of_unsigned? (exists_write_eq_cons positive) read]
          simp only [ofDecimal, same, rank_shortest h]

end SkyCatalog.Numeral
