import SkyCatalog.Command.Grammar

/-!
# Tokens — what is taken off a line, and what is left

Each token function cuts a text at a place that can be described without looking for it: white
space, the token, and a rest that begins with a break. There is one such place at most, so a
function finds it if and only if it is there. The grammar speaks of whole lines; `Takes` is its
relation for a line that is not yet at its end.
-/

namespace SkyCatalog

open SkyCatalog.Text (isBlank allBlank skipBlanks)

/-! ## §1  Tokens taken one after another -/

namespace Grammar

/-- These tokens are taken off a text, each with white space before it and a break after it, and
this is left. -/
inductive Takes : List (List Char) → List Char → List Char → Prop where
  | nil {s : List Char} : Takes [] s s
  | cons {u t rest r : List Char} {ts : List (List Char)} (blank : allBlank u = true)
      (parted : Token.atBreak rest = true) (tail : Takes ts rest r) :
      Takes (t :: ts) (u ++ t ++ rest) r

theorem takes_nil_iff {s r : List Char} : Takes [] s r ↔ s = r := by
  constructor
  · rintro ⟨⟩
    rfl
  · rintro rfl
    exact .nil

theorem takes_cons_iff {t s r : List Char} {ts : List (List Char)} :
    Takes (t :: ts) s r ↔ ∃ m, Takes [t] s m ∧ Takes ts m r := by
  constructor
  · rintro ⟨⟩
    rename_i u rest blank parted tail
    exact ⟨rest, .cons blank parted .nil, tail⟩
  · rintro ⟨m, ⟨⟩, tail⟩
    rename_i u blank parted rest
    obtain rfl := takes_nil_iff.mp rest
    exact .cons blank parted tail

/-- One more token before the others. -/
theorem Takes.then {t s m r : List Char} {ts : List (List Char)} (head : Takes [t] s m)
    (tail : Takes ts m r) : Takes (t :: ts) s r := takes_cons_iff.mpr ⟨m, head, tail⟩

theorem takes_append_iff {ts ts' : List (List Char)} {s r : List Char} :
    Takes (ts ++ ts') s r ↔ ∃ m, Takes ts s m ∧ Takes ts' m r := by
  induction ts generalizing s with
  | nil => simp [takes_nil_iff]
  | cons t ts ih =>
      rw [List.cons_append, takes_cons_iff]
      constructor
      · rintro ⟨m, ht, hts⟩
        obtain ⟨n, hm, hn⟩ := ih.mp hts
        exact ⟨n, takes_cons_iff.mpr ⟨m, ht, hm⟩, hn⟩
      · rintro ⟨n, hts, hn⟩
        obtain ⟨m, ht, hm⟩ := takes_cons_iff.mp hts
        exact ⟨m, ht, ih.mpr ⟨n, hm, hn⟩⟩

theorem takes_singleton_iff {t s r : List Char} : Takes [t] s r ↔
    ∃ u, s = u ++ t ++ r ∧ allBlank u = true ∧ Token.atBreak r = true := by
  constructor
  · rintro ⟨⟩
    rename_i u rest blank parted tail
    obtain rfl := takes_nil_iff.mp tail
    exact ⟨u, rfl, blank, parted⟩
  · rintro ⟨u, rfl, blank, parted⟩
    exact .cons blank parted .nil

/-- A line holds tokens when they are taken off it and white space is left. -/
theorem spaced_iff {ts : List (List Char)} {s : List Char} :
    Spaced ts s ↔ ∃ r, Takes ts s r ∧ allBlank r = true := by
  constructor
  · intro h
    induction h with
    | nil blank => exact ⟨_, .nil, blank⟩
    | cons blank parted _ ih =>
        obtain ⟨r, taken, left⟩ := ih
        exact ⟨r, .cons blank parted taken, left⟩
  · rintro ⟨r, taken, left⟩
    induction taken with
    | nil => exact .nil left
    | cons blank parted _ ih => exact .cons blank parted (ih left)

end Grammar

/-! ## §2  Cutting a text -/

namespace Token

open Grammar

theorem takeWhile_append_of_stop {p : Char → Bool} {w r : List Char}
    (inside : ∀ c ∈ w, p c = true) (stop : ∀ c ∈ r.head?, p c = false) :
    (w ++ r).takeWhile p = w ∧ (w ++ r).dropWhile p = r := by
  rw [List.takeWhile_append_of_pos inside, List.dropWhile_append_of_pos inside]
  cases r with
  | nil => simp
  | cons c r => simp [stop c rfl]

theorem atBreak_iff {r : List Char} : atBreak r = true ↔ ∀ c ∈ r.head?, isBlank c = true := by
  cases r <;> simp [atBreak]

theorem head?_dropWhile {p : Char → Bool} {s : List Char} :
    ∀ c ∈ (s.dropWhile p).head?, p c = false := by
  intro c hc
  have := List.head?_dropWhile_not p s
  rw [Option.mem_def] at hc
  simpa [hc] using this

/-- Leading white space, and a text that does not begin with any. -/
theorem skipBlanks_eq_iff {s m : List Char} : skipBlanks s = m ↔
    (∀ c ∈ m.head?, isBlank c = false) ∧ ∃ u, s = u ++ m ∧ allBlank u = true := by
  constructor
  · rintro rfl
    refine ⟨head?_dropWhile, s.takeWhile isBlank, List.takeWhile_append_dropWhile.symm, ?_⟩
    exact List.all_takeWhile
  · rintro ⟨stop, u, rfl, blank⟩
    exact (takeWhile_append_of_stop (List.all_eq_true.mp blank) stop).2

theorem inWord_eq_false_iff {c : Char} : inWord c = false ↔ isBlank c = true := by simp [inWord]

/-- **A word** is found exactly where the text holds one. -/
theorem word?_eq_some_iff {s w r : List Char} :
    word? s = some (w, r) ↔ IsWord w ∧ Takes [w] s r := by
  rw [takes_singleton_iff]
  simp only [word?, Option.ite_none_left_eq_some, Option.some.injEq, Prod.mk.injEq,
    List.isEmpty_iff]
  constructor
  · rintro ⟨ne, rfl, rfl⟩
    obtain ⟨stop, u, hs, blank⟩ := skipBlanks_eq_iff.mp (Eq.refl (skipBlanks s))
    refine ⟨⟨?_, ?_⟩, u, ?_, blank, ?_⟩
    · cases hm : skipBlanks s with
      | nil => exact absurd hm ne
      | cons c m =>
          have hc : inWord c = true := by simp [inWord, stop c (by simp [hm])]
          simp [hc]
    · intro c hc
      have := List.all_eq_true.mp List.all_takeWhile c hc
      simpa [inWord] using this
    · rw [List.append_assoc, List.takeWhile_append_dropWhile]
      exact hs
    · exact atBreak_iff.mpr fun c hc => inWord_eq_false_iff.mp (head?_dropWhile c hc)
  · rintro ⟨⟨ne, inside⟩, u, rfl, blank, parted⟩
    have skipped : skipBlanks (u ++ w ++ r) = w ++ r := by
      refine skipBlanks_eq_iff.mpr ⟨?_, u, List.append_assoc .., blank⟩
      obtain ⟨d, w, rfl⟩ := List.exists_cons_of_ne_nil ne
      intro c hc
      obtain rfl : d = c := by simpa using hc
      exact inside d List.mem_cons_self
    obtain ⟨word, rest⟩ := takeWhile_append_of_stop (p := inWord) (w := w) (r := r)
      (fun c hc => by simp [inWord, inside c hc])
      (fun c hc => inWord_eq_false_iff.mpr (atBreak_iff.mp parted c hc))
    rw [skipped]
    exact ⟨by simp [ne], word, rest⟩

theorem inName_eq_false_iff {c : Char} : inName c = false ↔ c = ']' := by simp [inName]

/-- **A name** is found exactly where the text holds one between brackets. -/
theorem name?_eq_some_iff {s n r : List Char} :
    name? s = some (n, r) ↔ IsName (String.ofList n) ∧ Takes [bracketed (String.ofList n)] s r := by
  rw [takes_singleton_iff]
  simp only [IsName, bracketed, String.toList_ofList]
  constructor
  · intro h
    unfold name? at h
    obtain ⟨-, u, hs, blank⟩ := skipBlanks_eq_iff.mp (Eq.refl (skipBlanks s))
    split at h
    · rename_i m hm
      split at h
      · rename_i c cs d rest named left
        split at h
        · rename_i parted
          obtain ⟨rfl, rfl⟩ := Prod.mk.inj (Option.some.inj h)
          obtain rfl : d = ']' := inName_eq_false_iff.mp (head?_dropWhile d (by rw [left]; rfl))
          have whole := List.takeWhile_append_dropWhile (p := inName) (l := m)
          rw [named, left] at whole
          refine ⟨⟨by simp, fun closed => ?_⟩, u, ?_, blank, parted⟩
          · have := List.all_eq_true.mp List.all_takeWhile _ (named ▸ closed)
            simp [inName] at this
          · rw [hs, hm, ← whole]
            simp
        · cases h
      · cases h
    · cases h
  · rintro ⟨⟨ne, inside⟩, u, rfl, blank, parted⟩
    have skipped : skipBlanks (u ++ ('[' :: n ++ [']']) ++ r) = '[' :: (n ++ ']' :: r) := by
      refine skipBlanks_eq_iff.mpr ⟨?_, u, by simp, blank⟩
      intro c hc
      obtain rfl : '[' = c := by simpa using hc
      rfl
    obtain ⟨named, left⟩ := takeWhile_append_of_stop (p := inName) (w := n) (r := ']' :: r)
      (fun c hc => by simpa [inName] using ne_of_mem_of_not_mem hc inside)
      (fun c hc => inName_eq_false_iff.mpr (by simpa [eq_comm] using hc))
    have some_char : n ≠ [] := by
      rintro rfl
      exact ne rfl
    obtain ⟨c, cs, rfl⟩ := List.exists_cons_of_ne_nil some_char
    unfold name?
    rw [skipped]
    simp only [named, left, parted, if_true]

theorem name?_of_takes {n : String} {s r : List Char} (named : IsName n)
    (taken : Takes [bracketed n] s r) : name? s = some (n.toList, r) := by
  rw [name?_eq_some_iff, String.ofList_toList]
  exact ⟨named, taken⟩

/-- A number is found exactly where the text holds a word that denotes it. -/
theorem numeral?_eq_some_iff {α : Type} (denote : List Char → Option α) {s r : List Char} {x : α} :
    numeral? denote s = some (x, r) ↔ ∃ w, IsWord w ∧ denote w = some x ∧ Takes [w] s r := by
  simp only [numeral?, Option.bind_eq_some_iff, Option.map_eq_some_iff, Prod.mk.injEq, Prod.exists,
    word?_eq_some_iff]
  constructor
  · rintro ⟨w, r, ⟨word, taken⟩, x, denotes, rfl, rfl⟩
    exact ⟨w, word, denotes, taken⟩
  · rintro ⟨w, word, denotes, taken⟩
    exact ⟨w, r, ⟨word, taken⟩, x, denotes, rfl, rfl⟩

theorem real?_eq_some_iff {s r : List Char} {x : Binary64} : real? s = some (x, r) ↔
    ∃ w, IsWord w ∧ Numeral.real? w = some x ∧ Takes [w] s r :=
  numeral?_eq_some_iff Numeral.real?

/-- There is no word exactly in a blank text. -/
theorem word?_eq_none_iff {s : List Char} : word? s = none ↔ allBlank s = true := by
  simp [word?, skipBlanks_eq_iff]

end Token

end SkyCatalog
