import SkyCatalog.Proofs.Command.Spelling

/-!
# Numbers in reports — exact, readable, and told apart

A number in a report is its written form less the mark of a whole number. The mark stands only
where no digit follows the point, since the digits end with none that is zero and a power of ten
has two digits or more; so leaving it out takes nothing else away. What is left is one word, and
read as a number it is the number again, so no two numbers are written alike.
-/

namespace SkyCatalog

namespace Binary64

/-! ## §1  The mark of a whole number -/

/-- The mark at the end of a whole number that is written out. -/
def mark : List Char := Style.marked.wholeMark.toList

/-- A text without the mark at its end, if it has it. -/
def dropMark (s : List Char) : List Char :=
  if mark <:+ s then s.take (s.length - mark.length) else s

theorem dropMark_append_mark (s : List Char) : dropMark (s ++ mark) = s := by
  rw [dropMark, if_pos (List.suffix_append s mark), List.length_append, Nat.add_sub_cancel,
    List.take_left]

theorem dropMark_of_unmarked {s : List Char} (h : ¬ mark <:+ s) : dropMark s = s := if_neg h

/-- The mark ends with a zero. -/
theorem unmarked_of_getLast? {s : List Char} (h : s.getLast? ≠ some '0') : ¬ mark <:+ s := by
  rintro ⟨t, rfl⟩
  exact h (List.getLast?_append_of_ne_nil t (List.cons_ne_nil '.' ['0']))

/-- The mark holds a point, so a text that ends with two digits has none. -/
theorem unmarked_of_digits {s ds : List Char} (plain : Numeral.Plain ds) (two : 2 ≤ ds.length) :
    ¬ mark <:+ s ++ ds := by
  intro h
  have within : mark <:+ ds := List.suffix_of_suffix_length_le h (List.suffix_append s ds) two
  have digit := plain '.' (within.subset List.mem_cons_self)
  cases digit

/-! ## §2  Both styles -/

/-- The second text, with the mark put at its end or without any. -/
def MayMark (long short : List Char) : Prop :=
  long = short ++ mark ∨ long = short ∧ ¬ mark <:+ long

theorem MayMark.dropMark_eq {long short : List Char} (h : MayMark long short) :
    dropMark long = short := by
  rcases h with rfl | ⟨rfl, unmarked⟩
  · exact dropMark_append_mark short
  · exact dropMark_of_unmarked unmarked

/-- A sign before both texts does not matter. -/
theorem MayMark.cons {c : Char} {long short : List Char} (h : MayMark long short) (ne : c ≠ '.') :
    MayMark (c :: long) (c :: short) := by
  rcases h with rfl | ⟨rfl, unmarked⟩
  · exact .inl rfl
  · refine .inr ⟨rfl, fun marked => ?_⟩
    rcases List.suffix_cons_iff.mp marked with whole | later
    · exact ne (List.cons.inj whole).1.symm
    · exact unmarked later

theorem getLast?_stripZeros (cs : List Char) : (stripZeros cs).getLast? ≠ some '0' := by
  intro last
  rw [stripZeros, List.getLast?_reverse] at last
  have := Token.head?_dropWhile '0' last
  cases this

variable {cs : List Char}

/-- Digits that are written out bear the mark when they end before the point. -/
theorem positional_marked (ne : cs ≠ []) (last : cs.getLast? ≠ some '0') (point : Int) :
    MayMark (positional .marked cs point) (positional .brief cs point) := by
  unfold positional
  by_cases low : point ≤ 0
  · rw [if_pos low, if_pos low]
    refine .inr ⟨rfl, unmarked_of_getLast? ?_⟩
    change (['0', '.'] ++ (List.replicate (-point).toNat '0' ++ cs)).getLast? ≠ some '0'
    rwa [← List.append_assoc, List.getLast?_append_of_ne_nil _ ne]
  · rw [if_neg low, if_neg low]
    by_cases whole : cs.length ≤ point.toNat
    · rw [if_pos whole, if_pos whole]
      refine .inl ?_
      show _ = (_ ++ []) ++ _
      rw [List.append_nil]
      rfl
    · rw [if_neg whole, if_neg whole]
      have back : cs.drop point.toNat ≠ [] := by
        rw [← List.length_pos_iff, List.length_drop]
        omega
      refine .inr ⟨rfl, unmarked_of_getLast? ?_⟩
      rw [List.getLast?_append_of_ne_nil _ (List.cons_ne_nil _ _),
        List.getLast?_cons_of_ne_nil back, List.getLast?_drop, if_neg (by omega)]
      exact last

theorem scientific_unmarked (cs : List Char) (x : Int) : ¬ mark <:+ scientific cs x := by
  have plain : Numeral.Plain (List.replicate (2 - (Numeral.decimal x.natAbs).length) '0' ++
      Numeral.decimal x.natAbs) := (Numeral.plain_zeros _).append (Numeral.plain_decimal _)
  have two : 2 ≤ (List.replicate (2 - (Numeral.decimal x.natAbs).length) '0' ++
      Numeral.decimal x.natAbs).length := by
    rw [List.length_append, List.length_replicate]
    omega
  have ends := unmarked_of_digits (s := cs.take 1 ++ (if (cs.drop 1).isEmpty then [] else
    '.' :: cs.drop 1) ++ ['e', if x < 0 then '-' else '+']) plain two
  simpa [scientific, exponentText, Numeral.decimal] using ends

theorem writeDecimal_marked {d : Decimal} (positive : 0 < d.digits) :
    MayMark (d.write .marked) (d.write .brief) := by
  have spelled := Numeral.spelled_decimal d.digits
  have ne : stripZeros (Nat.toDigits 10 d.digits) ≠ [] := Numeral.stripZeros_ne_nil (by
    rw [← Numeral.decimal]
    omega)
  unfold Decimal.write
  -- both styles write out the same exponents, so one decision is made for both
  by_cases near : (Style.brief.lowest ≤ (Nat.toDigits 10 d.digits).length + d.exponent - 1 &&
      (Nat.toDigits 10 d.digits).length + d.exponent - 1 ≤ Style.brief.highest) = true
  · dsimp only
    rw [if_pos near]
    exact (congrArg₂ MayMark (if_pos near) rfl).mpr
      (positional_marked ne (getLast?_stripZeros _) _)
  · dsimp only
    rw [if_neg near]
    exact (congrArg₂ MayMark (if_neg near) rfl).mpr (.inr ⟨rfl, scientific_unmarked _ _⟩)

theorem writeRank_marked {rank : Nat} (h : rank ≤ infinityRank) :
    MayMark (writeRank .marked rank) (writeRank .brief rank) := by
  unfold writeRank
  by_cases infinite : rank = infinityRank
  · rw [if_pos infinite, if_pos infinite]
    exact .inr ⟨rfl, by decide⟩
  · rw [if_neg infinite, if_neg infinite]
    by_cases zero : rank = 0
    · rw [if_pos zero, if_pos zero]
      exact .inl rfl
    · rw [if_neg zero, if_neg zero]
      exact writeDecimal_marked (digits_shortest_pos h (Nat.pos_of_ne_zero zero))

/-- **The mark is all that the styles differ in.** -/
theorem dropMark_write (x : Binary64) : dropMark (x.write .marked) = x.write .brief := by
  refine MayMark.dropMark_eq ?_
  cases x with
  | nan => exact .inr ⟨rfl, by decide⟩
  | number negative rank h =>
      cases negative with
      | false => exact writeRank_marked h
      | true => exact (writeRank_marked h).cons (by decide)

end Binary64

/-! ## §3  Numbers read back -/

open Grammar

theorem real?_token_formatNumber (x : Binary64) :
    Token.real? (formatNumber x).toList = some (x, []) := by
  rw [Token.real?_eq_some_iff]
  refine ⟨_, isWord_formatNumber x, real?_formatNumber x, ?_⟩
  exact takes_singleton_iff.mpr ⟨[], (List.append_nil _).symm, rfl, rfl⟩

/-- What is read back is written apart. -/
theorem injective_of_read {α β : Type} {write : α → β} (read : β → Option α)
    (back : ∀ a, read (write a) = some a) : Function.Injective write := by
  intro a b h
  have same := back a
  rw [h, back b] at same
  exact (Option.some.inj same).symm

theorem formatNumber_injective : Function.Injective formatNumber :=
  injective_of_read (fun s => Numeral.real? s.toList) real?_formatNumber

/-- **Numbers in reports are exact and readable.** Every number, the zeros, the infinities and the
value that is no number among them, is written as its written form less the mark of a whole number.
This is one word, and the number is read back from it with nothing left over. So leaving the mark
out never makes two numbers alike. -/
theorem formatNumber_exact :
    (∀ x : Binary64, (formatNumber x).toList = Binary64.dropMark (x.toText .marked).toList ∧
      IsWord (formatNumber x).toList ∧
      Token.real? (formatNumber x).toList = some (x, [])) ∧
    Function.Injective formatNumber := by
  constructor
  · intro x
    refine ⟨?_, isWord_formatNumber x, real?_token_formatNumber x⟩
    rw [toList_formatNumber, Binary64.toText, String.toList_ofList, Binary64.dropMark_write]
  · exact formatNumber_injective

example : (formatNumber (.zero true), formatNumber 1e16, formatNumber (.infinity true)) =
    ("-0", "1e+16", "-inf") := by decide +kernel

end SkyCatalog
