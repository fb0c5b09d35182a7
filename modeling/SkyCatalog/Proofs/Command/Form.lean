import SkyCatalog.Proofs.Command.Reader

/-!
# Forms — text added to what they read

A form looks at no more of a text than the tokens that it asks for, and none of these runs on over a
break. So text that is added after a break changes nothing but what is left, unless a token was
lacking: the added text could hold it.
-/

namespace SkyCatalog

open SkyCatalog.Text (isBlank allBlank)

/-! ## §1  Tokens -/


namespace Grammar

/-- Tokens are taken off a text whatever stands after a break at its end. -/
theorem Takes.append {ts : List (List Char)} {s r t : List Char} (h : Takes ts s r)
    (parted : Token.atBreak t = true) : Takes ts (s ++ t) (r ++ t) := by
  induction h with
  | nil => exact .nil
  | @cons u t' rest r ts blank broken tail ih =>
      rw [List.append_assoc]
      refine .cons blank ?_ ih
      cases rest with
      | nil => exact parted
      | cons c rest => exact broken

end Grammar

namespace Token

open Grammar

variable {s t n w r : List Char}

theorem word?_append (parted : atBreak t = true) (h : word? s = some (w, r)) :
    word? (s ++ t) = some (w, r ++ t) := by
  obtain ⟨word, taken⟩ := word?_eq_some_iff.mp h
  exact word?_eq_some_iff.mpr ⟨word, taken.append parted⟩

theorem name?_append (parted : atBreak t = true) (h : name? s = some (n, r)) :
    name? (s ++ t) = some (n, r ++ t) := by
  obtain ⟨named, taken⟩ := name?_eq_some_iff.mp h
  exact name?_eq_some_iff.mpr ⟨named, taken.append parted⟩

theorem word?_append_of_allBlank (blank : allBlank t = true) (h : word? s = none) :
    word? (s ++ t) = none := by
  rw [word?_eq_none_iff] at h ⊢
  rw [allBlank, List.all_append, Bool.and_eq_true]
  exact ⟨h, blank⟩

/-- White space at the end of a text completes no name, since a name ends with a bracket. -/
theorem name?_append_of_allBlank (blank : allBlank t = true) (h : name? s = none) :
    name? (s ++ t) = none := by
  rw [Option.eq_none_iff_forall_ne_some] at h ⊢
  rintro ⟨n, r⟩ found
  obtain ⟨named, taken⟩ := name?_eq_some_iff.mp found
  obtain ⟨u, split, before, parted⟩ := takes_singleton_iff.mp taken
  -- the name was in the text already, with this left after it
  have whole : ∀ v, s = u ++ bracketed (String.ofList n) ++ v → atBreak v = true → False := by
    intro v hs broken
    refine h (n, v) (name?_eq_some_iff.mpr ⟨named, ?_⟩)
    exact takes_singleton_iff.mpr ⟨u, hs, before, broken⟩
  rcases List.append_eq_append_iff.mp split with ⟨v, hs, ht⟩ | ⟨v, hs, hr⟩
  · rcases List.eq_nil_or_concat v with rfl | ⟨v, c, rfl⟩
    · exact whole [] (by simpa using hs.symm) rfl
    · have ends : (u ++ '[' :: n) ++ [']'] = (s ++ v) ++ [c] := by simpa [bracketed] using hs
      obtain ⟨-, closing⟩ := List.append_inj' ends rfl
      have last : isBlank c = true := List.all_eq_true.mp blank c (by simp [ht])
      rw [← (List.cons.inj closing).1] at last
      cases last
  · refine whole v hs ?_
    cases v with
    | nil => rfl
    | cons c v =>
        rw [hr] at parted
        exact parted

end Token

/-! ## §2  Forms -/

namespace Form

/-- **Text added at the end.** Text after a break is left as it is by a form that lacks no token,
and white space is left by every form. -/
theorem read_append {form : Form α} {s t : List Char} (parted : Token.atBreak t = true)
    (h : (∀ fault, ¬ form.Lacks s fault) ∨ allBlank t = true) :
    form.read (s ++ t) = (form.read s).map fun p => (p.1, p.2 ++ t) := by
  induction form generalizing s with
  | done a => rfl
  | fail fault => rfl
  | name missing next ih =>
      cases found : Token.name? s with
      | none =>
          have blank : allBlank t = true := by
            refine h.resolve_left fun complete => ?_
            exact complete missing (.name found)
          rw [read_name_of_none found,
            read_name_of_none (Token.name?_append_of_allBlank blank found)]
          rfl
      | some p =>
          rw [read_name_of_some found, read_name_of_some (Token.name?_append parted found)]
          refine ih _ (h.imp_left fun complete fault lacks => ?_)
          exact complete fault (.afterName found lacks)
  | word missing next ih =>
      cases found : Token.word? s with
      | none =>
          have blank : allBlank t = true := by
            refine h.resolve_left fun complete => ?_
            exact complete missing (.word found)
          rw [read_word_of_none found,
            read_word_of_none (Token.word?_append_of_allBlank blank found)]
          rfl
      | some p =>
          rw [read_word_of_some found, read_word_of_some (Token.word?_append parted found)]
          refine ih _ (h.imp_left fun complete fault lacks => ?_)
          exact complete fault (.afterWord found lacks)

end Form

end SkyCatalog
