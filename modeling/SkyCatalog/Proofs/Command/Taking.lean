import Mathlib.Data.List.Forall2
import Mathlib.Data.List.ReduceOption
import SkyCatalog.Command.Taking
import SkyCatalog.Proofs.Command.Token

/-!
# Taking tokens — nothing is skipped, repeated or made up

The first match of a pattern is found by trying, and giving back what was taken too much. For words
and names nothing is ever given back: within the white space before a token no token begins, and
within a name no bracket closes it. So the token functions, which only look ahead, find what the
patterns find. What they take and leave is the text again, and less is left every time.
-/

namespace SkyCatalog.Token

open SkyCatalog.Grammar
open SkyCatalog.Text (isBlank allBlank skipBlanks first?_run first?_run_of_short first?_char
  first?_char_nil first?_ahead Pattern)

/-! ## §1  Patterns -/

theorem first?_remainder (s : List Char) : Pattern.first? [remainder] s = some [s] := by
  obtain ⟨taken, -⟩ := takeWhile_append_of_stop (p := fun _ => true) (w := s) (r := [])
    (fun _ _ => rfl) nofun
  rw [List.append_nil] at taken
  rw [remainder, first?_run (Nat.zero_le _) (.inl (by simp)), taken]
  rfl

/-- No word begins with white space. -/
theorem first?_word_blank {c : Char} {r : List Char} (blank : isBlank c = true) :
    Pattern.first? [.run inWord 1, remainder] (c :: r) = none := by
  apply first?_run_of_short
  simp [inWord, blank]

/-- **A word** is what the first match of its pattern finds. -/
theorem word?_eq_firstWord? (s : List Char) : word? s = firstWord? s := by
  rw [firstWord?, wordPattern, first?_run (Nat.zero_le _) (.inr fun _ _ => first?_word_blank),
    word?]
  cases left : s.dropWhile isBlank with
  | nil =>
      rw [first?_run_of_short (by simp)]
      simp [skipBlanks, left]
  | cons c m =>
      have starts : isBlank c = false := head?_dropWhile c (by rw [left]; rfl)
      rw [first?_run (by simp [inWord, starts]) (.inl (by simp [first?_remainder])),
        first?_remainder]
      simp [skipBlanks, left]

theorem breakAhead_eq_atBreak (s : List Char) : breakAhead s = atBreak s := by
  cases s with
  | nil => rfl
  | cons c s =>
      -- a line feed that ends the text is white space like any other
      have ending : Text.atLineEnd (c :: s) = true → isBlank c = true := by
        intro h
        obtain ⟨rfl, -⟩ : c = '\n' ∧ s = [] := by simpa [Text.atLineEnd] using h
        rfl
      show (isBlank c || Text.atLineEnd (c :: s)) = isBlank c
      cases blank : isBlank c with
      | true => rfl
      | false => exact Bool.eq_false_iff.mpr fun h => Bool.false_ne_true (blank ▸ ending h)

/-- What follows the name in the pattern of a name. -/
theorem first?_closing (s : List Char) :
    Pattern.first? [.char ']', .ahead breakAhead, remainder] (']' :: s) =
      if atBreak s then some [[']'], [], s] else none := by
  rw [first?_char, if_pos rfl, first?_ahead, first?_remainder, breakAhead_eq_atBreak]
  cases atBreak s <;> rfl

theorem first?_closing_inside {c : Char} {r : List Char} (inside : inName c = true) :
    Pattern.first? [.char ']', .ahead breakAhead, remainder] (c :: r) = none := by
  rw [first?_char, if_neg]
  rintro rfl
  cases inside

/-- No name begins with white space. -/
theorem first?_name_blank {c : Char} {r : List Char} (blank : isBlank c = true) :
    Pattern.first? [.char '[', .run inName 1, .char ']', .ahead breakAhead, remainder] (c :: r) =
      none := by
  rw [first?_char, if_neg]
  rintro rfl
  cases blank

/-- **A name** is what the first match of its pattern finds. -/
theorem name?_eq_firstName? (s : List Char) : name? s = firstName? s := by
  rw [firstName?, namePattern, first?_run (Nat.zero_le _) (.inr fun _ _ => first?_name_blank),
    name?, skipBlanks]
  cases left : s.dropWhile isBlank with
  | nil => rfl
  | cons c m =>
      rw [first?_char]
      by_cases opens : c = '['
      · rw [if_pos opens, opens]
        cases named : m.takeWhile inName with
        | nil =>
            rw [first?_run_of_short (by simp [named])]
            simp [named]
        | cons d n =>
            rw [first?_run (by simp [named]) (.inr fun _ _ => first?_closing_inside), named]
            cases closed : m.dropWhile inName with
            | nil => simp [named, closed, first?_char_nil]
            | cons e r =>
                have stops : inName e = false := head?_dropWhile e (by rw [closed]; rfl)
                obtain rfl := inName_eq_false_iff.mp stops
                rw [first?_closing]
                cases parted : atBreak r <;> simp [named, closed, parted]
      · rw [if_neg opens]
        simp [opens]

/-! ## §2  One token -/

variable {s t u w n r : List Char} {shape : Shape} {v : Value}

theorem exists_cut_iff : (∃ u, Cut s u t r) ↔ Takes [t] s r := by
  rw [takes_singleton_iff]
  constructor
  · rintro ⟨u, whole, blank, parted⟩
    exact ⟨u, whole, blank, parted⟩
  · rintro ⟨u, whole, blank, parted⟩
    exact ⟨u, whole, blank, parted⟩

theorem isName_ofList_iff : IsName (String.ofList n) ↔ n ≠ [] ∧ ']' ∉ n := by
  rw [IsName, String.toList_ofList, ne_eq, ne_eq, ← String.toList_eq_nil_iff, String.toList_ofList]

theorem word?_eq_some_iff_cut : word? s = some (w, r) ↔ IsWord w ∧ ∃ u, Cut s u w r := by
  rw [exists_cut_iff]
  exact word?_eq_some_iff

theorem name?_eq_some_iff_cut : name? s = some (n, r) ↔
    (n ≠ [] ∧ ']' ∉ n) ∧ ∃ u, Cut s u ('[' :: n ++ [']']) r := by
  rw [exists_cut_iff, ← isName_ofList_iff, name?_eq_some_iff, bracketed, String.toList_ofList]

/-- What precedes a token is all that the token and the rest leave. -/
theorem Cut.before_unique {u' : List Char} (h : Cut s u t r) (h' : Cut s u' t r) : u = u' := by
  have same := h.whole.symm.trans h'.whole
  rw [List.append_assoc, List.append_assoc] at same
  exact List.append_cancel_right same

/-- A token function is exact for tokens of some kind that are spelled in some way: it finds what
the first match of a pattern finds, which is a token between white space and a break, and there is
one way at most to cut a text before and after such a token. -/
structure Exact (take first : List Char → Option (List Char × List Char))
    (IsToken : List Char → Prop) (spell : List Char → List Char) : Prop where
  firstMatch : ∀ s, take s = first s
  cuts : ∀ s t r, take s = some (t, r) ↔ IsToken t ∧ ∃ u, Cut s u (spell t) r
  once : ∀ s u t r u' t' r', Cut s u (spell t) r → Cut s u' (spell t') r' →
    IsToken t → IsToken t' → u = u' ∧ t = t' ∧ r = r'

/-- What a function finds it finds once. -/
theorem Exact.of_cuts {take first : List Char → Option (List Char × List Char)}
    {IsToken : List Char → Prop} {spell : List Char → List Char}
    (firstMatch : ∀ s, take s = first s)
    (cuts : ∀ s t r, take s = some (t, r) ↔ IsToken t ∧ ∃ u, Cut s u (spell t) r) :
    Exact take first IsToken spell where
  firstMatch := firstMatch
  cuts := cuts
  once := by
    intro s u t r u' t' r' cut cut' token token'
    have found := (cuts s t r).mpr ⟨token, u, cut⟩
    rw [(cuts s t' r').mpr ⟨token', u', cut'⟩] at found
    cases found
    exact ⟨cut.before_unique cut', rfl, rfl⟩

theorem exact_word? : Exact word? firstWord? IsWord id :=
  .of_cuts word?_eq_firstWord? fun _ _ _ => word?_eq_some_iff_cut

theorem exact_name? :
    Exact name? firstName? (fun n => n ≠ [] ∧ ']' ∉ n) (fun n => '[' :: n ++ [']']) :=
  .of_cuts name?_eq_firstName? fun _ _ _ => name?_eq_some_iff_cut

/-- A number is read off the word that is found, and leaves what the word leaves. -/
theorem numeral?_eq_some_iff_word {α : Type} (read : List Char → Option α) {x : α} :
    numeral? read s = some (x, r) ↔ ∃ w, word? s = some (w, r) ∧ read w = some x := by
  rw [numeral?_eq_some_iff]
  simp only [word?_eq_some_iff]
  constructor
  · rintro ⟨w, word, denotes, taken⟩
    exact ⟨w, ⟨word, taken⟩, denotes⟩
  · rintro ⟨w, ⟨word, taken⟩, denotes⟩
    exact ⟨w, word, denotes, taken⟩

/-- **A token of any shape** says what is spelled between white space and a break. -/
theorem exists_cut_of_take? (taken : shape.take? s = some (v, r)) :
    ∃ u t, v.SpelledBy t ∧ Cut s u t r := by
  cases shape <;> obtain ⟨⟨x, rest⟩, found, same⟩ := Option.map_eq_some_iff.mp taken <;> cases same
  · obtain ⟨word, u, cut⟩ := word?_eq_some_iff_cut.mp found
    exact ⟨u, x, ⟨word, rfl⟩, cut⟩
  · obtain ⟨⟨full, inside⟩, u, cut⟩ := name?_eq_some_iff_cut.mp found
    exact ⟨u, _, ⟨full, inside, rfl⟩, cut⟩
  · obtain ⟨w, word, denotes⟩ := (numeral?_eq_some_iff_word Numeral.real?).mp found
    obtain ⟨isWord, u, cut⟩ := word?_eq_some_iff_cut.mp word
    exact ⟨u, w, ⟨isWord, denotes⟩, cut⟩
  · obtain ⟨w, word, denotes⟩ := (numeral?_eq_some_iff_word Numeral.integer?).mp found
    obtain ⟨isWord, u, cut⟩ := word?_eq_some_iff_cut.mp word
    exact ⟨u, w, ⟨isWord, denotes⟩, cut⟩

theorem Value.SpelledBy.ne_nil (h : v.SpelledBy t) : t ≠ [] := by
  cases v with
  | name n =>
      obtain ⟨-, -, rfl⟩ := h
      exact List.cons_ne_nil _ _
  | word | real | integer => exact h.1.1

/-- Less is left every time. -/
theorem suffix_of_take? (taken : shape.take? s = some (v, r)) :
    r <:+ s ∧ r.length < s.length := by
  obtain ⟨u, t, spelled, cut⟩ := exists_cut_of_take? taken
  have some_char : 0 < t.length := List.length_pos_iff.mpr spelled.ne_nil
  rw [cut.whole]
  refine ⟨List.suffix_append _ _, ?_⟩
  simp only [List.length_append]
  omega

/-! ## §3  Tokens one after another -/

/-- What can be left of a text by taking a token off it. -/
def Leaves (r s : List Char) : Prop := ∃ (shape : Shape) (v : Value), shape.take? s = some (v, r)

/-- No token is taken off for ever. -/
theorem wellFounded_leaves : WellFounded Leaves := by
  apply Subrelation.wf (r := InvImage (· < ·) List.length)
  · rintro r s ⟨shape, v, taken⟩
    exact (suffix_of_take? taken).2
  · exact InvImage.wf _ Nat.lt_wfRel.wf

/-- **Nothing is lost.** Tokens that are taken one after another, each with the white space before
it, make up the text together with what is left of it. -/
theorem exists_pieces (shapes : List Shape) (s : List Char) :
    ∃ pieces : List (List Char × List Char),
      s = pieces.flatMap (fun piece => piece.1 ++ piece.2) ++ (takeEach shapes s).2 ∧
      (∀ piece ∈ pieces, allBlank piece.1 = true) ∧
      List.Forall₂ Value.SpelledBy ((takeEach shapes s).1.reduceOption) (pieces.map (·.2)) := by
  induction shapes generalizing s with
  | nil => exact ⟨[], rfl, nofun, .nil⟩
  | cons shape shapes ih =>
      cases taken : shape.take? s with
      | none =>
          rw [takeEach_of_none taken]
          exact ih s
      | some p =>
          obtain ⟨v, r⟩ := p
          obtain ⟨u, t, spelled, cut⟩ := exists_cut_of_take? taken
          obtain ⟨pieces, whole, blank, others⟩ := ih r
          rw [takeEach_of_some taken]
          refine ⟨(u, t) :: pieces, ?_, ?_, .cons spelled others⟩
          · rw [List.flatMap_cons, List.append_assoc, ← whole]
            exact cut.whole
          · intro piece hp
            rcases List.mem_cons.mp hp with rfl | hp
            · exact cut.blank
            · exact blank piece hp

/-- Every token that is taken leaves less, so there are no more tokens than characters. -/
theorem length_takeEach_le (shapes : List Shape) (s : List Char) :
    ((takeEach shapes s).1.reduceOption).length + (takeEach shapes s).2.length ≤ s.length := by
  induction shapes generalizing s with
  | nil => simp [takeEach]
  | cons shape shapes ih =>
      cases taken : shape.take? s with
      | none =>
          rw [takeEach_of_none taken]
          exact ih s
      | some p =>
          rw [takeEach_of_some taken]
          have later := ih p.2
          have less := (suffix_of_take? taken).2
          show (List.reduceOption (some p.1 :: _)).length + (takeEach shapes p.2).2.length ≤
            s.length
          rw [List.reduceOption_cons_of_some, List.length_cons]
          omega

/-! ## §4  The theorem -/

/-- The token functions make up texts: words and names are found exactly, numbers are what words
denote, and what is taken and what is left are the text. -/
structure MakesUpText : Prop where
  words : Exact word? firstWord? IsWord id
  names : Exact name? firstName? (fun n => n ≠ [] ∧ ']' ∉ n) (fun n => '[' :: n ++ [']'])
  blank : ∀ s, word? s = none ↔ allBlank s = true
  reals : ∀ s x r, real? s = some (x, r) ↔ ∃ w, word? s = some (w, r) ∧ Numeral.real? w = some x
  integers : ∀ s n r, integer? s = some (n, r) ↔
    ∃ w, word? s = some (w, r) ∧ Numeral.integer? w = some n
  shorter : ∀ (shape : Shape) s v r, shape.take? s = some (v, r) → r <:+ s ∧ r.length < s.length
  lossless : ∀ shapes s, ∃ pieces : List (List Char × List Char),
    s = pieces.flatMap (fun piece => piece.1 ++ piece.2) ++ (takeEach shapes s).2 ∧
    (∀ piece ∈ pieces, allBlank piece.1 = true) ∧
    List.Forall₂ Value.SpelledBy (takeEach shapes s).1.reduceOption (pieces.map (·.2)) ∧
    (takeEach shapes s).1.reduceOption.length + (takeEach shapes s).2.length ≤ s.length
  ends : WellFounded Leaves

/-- **Tokens are taken exactly, and nothing is lost.** Words and names are what the first matches of
their patterns find: they stand between white space and a break, in one place of a text at most. A
text without a word is blank. A number is what the next word denotes. Every token that is taken
leaves a shorter end of the text; tokens taken one after another make up the text with the white
space between them and what is left; and so no one takes tokens for ever. -/
theorem tokens_make_up_text : MakesUpText where
  words := exact_word?
  names := exact_name?
  blank _ := word?_eq_none_iff
  reals _ _ _ := numeral?_eq_some_iff_word Numeral.real?
  integers _ _ _ := numeral?_eq_some_iff_word Numeral.integer?
  shorter _ _ _ _ := suffix_of_take?
  lossless shapes s := by
    obtain ⟨pieces, whole, blank, spelled⟩ := exists_pieces shapes s
    exact ⟨pieces, whole, blank, spelled, length_takeEach_le shapes s⟩
  ends := wellFounded_leaves

/-- A name with an opening bracket and a line feed in it can be cut out in one way only, and a
number follows. -/
theorem tokens_make_up_text_of_inner_bracket :
    let text := "\t[p [q\nr] 1_0".toList
    let named := "p [q\nr".toList
    let left := " 1_0".toList
    (Cut text ['\t'] ('[' :: named ++ [']']) left ∧ (named ≠ [] ∧ ']' ∉ named) ∧
      ∀ u n r, Cut text u ('[' :: n ++ [']']) r → n ≠ [] ∧ ']' ∉ n →
        u = ['\t'] ∧ n = named ∧ r = left) ∧
    (Cut left [' '] "1_0".toList [] ∧ IsWord "1_0".toList ∧
      ∀ u w r, Cut left u w r → IsWord w → u = [' '] ∧ w = "1_0".toList ∧ r = []) ∧
    (Shape.name.take? text = some (.name named, left) ∧
      left <:+ text ∧ left.length < text.length) := by
  intro text named left
  have cut : Cut text ['\t'] ('[' :: named ++ [']']) left := ⟨by decide, by decide, by decide⟩
  have inside : named ≠ [] ∧ ']' ∉ named := by decide
  have cutWord : Cut left [' '] "1_0".toList [] := ⟨by decide, by decide, by decide⟩
  have word : IsWord "1_0".toList := by decide
  have taken : Shape.name.take? text = some (.name named, left) := by decide
  refine ⟨⟨cut, inside, ?_⟩, ⟨cutWord, word, ?_⟩, taken,
    tokens_make_up_text.shorter _ _ _ _ taken⟩
  · intro u n r other otherInside
    exact tokens_make_up_text.names.once _ _ _ _ _ _ _ other cut otherInside inside
  · intro u w r other otherWord
    exact tokens_make_up_text.words.once _ _ _ _ _ _ _ other cutWord otherWord word

end SkyCatalog.Token
