import SkyCatalog.Command.Grammar
import SkyCatalog.Text.Cut

/-!
# Parts of a text — what is trimmed off it, and where it is cut

Trimming takes white space off both ends and nothing else, so a word that is left can be said to
stand between white space. Cutting after a mark leaves the mark at the end of each piece, the last
one perhaps excepted, and nowhere else.
-/

namespace SkyCatalog.Text

open Grammar

/-! ## §1  Trimming -/

theorem skipBlanks_of_isWord {w : List Char} (word : IsWord w) (r : List Char) :
    skipBlanks (w ++ r) = w ++ r := by
  cases w with
  | nil => exact absurd rfl word.1
  | cons c w => exact skipBlanks_cons_of_not_isBlank (word.2 c List.mem_cons_self) (w ++ r)

theorem isWord_reverse {w : List Char} (word : IsWord w) : IsWord w.reverse := by
  refine ⟨?_, ?_⟩
  · intro empty
    exact word.1 (List.reverse_eq_nil_iff.mp empty)
  · intro c hc
    exact word.2 c (List.mem_reverse.mp hc)

/-- What trimming takes away is white space. -/
theorem exists_of_trim (s : List Char) :
    ∃ u r, s = u ++ trim s ++ r ∧ allBlank u = true ∧ allBlank r = true := by
  -- first off the front, and then off the back of what is left
  refine ⟨s.takeWhile isBlank, ((skipBlanks s).reverse.takeWhile isBlank).reverse, ?_, ?_, ?_⟩
  · have back := List.takeWhile_append_dropWhile (p := isBlank) (l := (skipBlanks s).reverse)
    have front := List.takeWhile_append_dropWhile (p := isBlank) (l := s)
    have whole := congrArg List.reverse back
    rw [List.reverse_append, List.reverse_reverse] at whole
    rw [List.append_assoc]
    refine front.symm.trans (congrArg _ ?_)
    exact whole.symm
  · exact List.all_takeWhile
  · rw [allBlank, List.all_reverse]
    exact List.all_takeWhile

/-- A text is a word but for white space around it. -/
theorem trim_eq_iff {s w : List Char} (word : IsWord w) :
    trim s = w ↔ ∃ u r, s = u ++ w ++ r ∧ allBlank u = true ∧ allBlank r = true := by
  constructor
  · rintro rfl
    exact exists_of_trim s
  · rintro ⟨u, r, rfl, before, after⟩
    have back : allBlank r.reverse = true := by
      rw [allBlank, List.all_reverse]
      exact after
    show ((skipBlanks (u ++ w ++ r)).reverse.dropWhile isBlank).reverse = w
    rw [List.append_assoc, skipBlanks_append before, skipBlanks_of_isWord word,
      List.reverse_append]
    change (skipBlanks (r.reverse ++ w.reverse)).reverse = w
    have stays := skipBlanks_of_isWord (isWord_reverse word) []
    rw [List.append_nil] at stays
    rw [skipBlanks_append back, stays, List.reverse_reverse]

/-- White space at the beginning of a text is trimmed off whatever follows it. -/
theorem trim_append_left {u : List Char} (blank : allBlank u = true) (s : List Char) :
    trim (u ++ s) = trim s :=
  congrArg (fun m => (m.reverse.dropWhile isBlank).reverse) (skipBlanks_append blank s)

/-- White space at the end of a text is trimmed off whatever stands before it. -/
theorem trim_append_of_allBlank (s : List Char) {v : List Char} (blank : allBlank v = true) :
    trim (s ++ v) = trim s := by
  have back : allBlank v.reverse = true := by
    rw [allBlank, List.all_reverse]
    exact blank
  show (((s ++ v).dropWhile isBlank).reverse.dropWhile isBlank).reverse = _
  rw [List.dropWhile_append]
  by_cases empty : (s.dropWhile isBlank).isEmpty = true
  · have none : v.dropWhile isBlank = [] := by
      have skipped := skipBlanks_append blank []
      rw [List.append_nil] at skipped
      exact skipped
    rw [if_pos empty, none, trim, trimOf, List.isEmpty_iff.mp empty]
  · rw [if_neg empty, List.reverse_append]
    exact congrArg List.reverse (skipBlanks_append back _)

theorem allBlank_append {s t : List Char} :
    allBlank (s ++ t) = true ↔ allBlank s = true ∧ allBlank t = true := by
  rw [allBlank, List.all_append, Bool.and_eq_true]
  rfl

/-! ## §2  Cutting -/

/-- A text that goes on after a mark is cut there. -/
theorem cutAfter_append (mark : Char) (p s : List Char) :
    cutAfter mark (p ++ mark :: s) = cutAfter mark (p ++ [mark]) ++ cutAfter mark s := by
  induction p with
  | nil => simp [cutAfter]
  | cons c p ih =>
      by_cases marked : c = mark
      · simp [cutAfter, marked, ih]
      · cases first : cutAfter mark (p ++ [mark]) with
        | nil =>
            have empty := flatten_cutAfter mark (p ++ [mark])
            rw [first] at empty
            exact absurd empty.symm (by simp)
        | cons piece pieces => simp [cutAfter, marked, ih, first]

/-- A piece is not empty, and it holds the mark at its end only. -/
theorem of_mem_cutAfter {mark : Char} {s : List Char} :
    ∀ piece ∈ cutAfter mark s, piece ≠ [] ∧ mark ∉ piece.dropLast := by
  have single (c : Char) : [c] ≠ [] ∧ mark ∉ [c].dropLast :=
    ⟨List.cons_ne_nil c [], List.not_mem_nil⟩
  induction s with
  | nil =>
      intro piece hp
      exact absurd hp List.not_mem_nil
  | cons c s ih =>
      intro piece hp
      unfold cutAfter at hp
      by_cases marked : c = mark
      · rw [if_pos marked] at hp
        rcases List.mem_cons.mp hp with rfl | hp
        · exact single c
        · exact ih piece hp
      · rw [if_neg marked] at hp
        cases later : cutAfter mark s with
        | nil =>
            rw [later] at hp
            obtain rfl := List.mem_singleton.mp hp
            exact single c
        | cons next rest =>
            rw [later] at hp ih
            rcases List.mem_cons.mp hp with rfl | hp
            · obtain ⟨full, inside⟩ := ih next List.mem_cons_self
              refine ⟨List.cons_ne_nil c next, ?_⟩
              rw [List.dropLast_cons_of_ne_nil full, List.mem_cons, not_or]
              exact ⟨Ne.symm marked, inside⟩
            · exact ih piece (List.mem_cons_of_mem _ hp)

theorem mem_dropLast_cons {α : Type} {x y : α} {xs : List α} :
    y ∈ (x :: xs).dropLast ↔ xs ≠ [] ∧ (y = x ∨ y ∈ xs.dropLast) := by
  cases xs with
  | nil => simp
  | cons x' xs => simp [List.dropLast_cons_of_ne_nil]

/-- A piece before the last one ends with the mark. -/
theorem of_mem_dropLast_cutAfter {mark : Char} {s : List Char} :
    ∀ piece ∈ (cutAfter mark s).dropLast, piece.getLast? = some mark := by
  induction s with
  | nil =>
      intro piece hp
      exact absurd hp List.not_mem_nil
  | cons c s ih =>
      intro piece hp
      have each : ∀ q ∈ cutAfter mark s, q ≠ [] ∧ mark ∉ q.dropLast := of_mem_cutAfter
      unfold cutAfter at hp
      by_cases marked : c = mark
      · rw [if_pos marked, mem_dropLast_cons] at hp
        obtain ⟨-, rfl | hp⟩ := hp
        · rw [marked]
          rfl
        · exact ih piece hp
      · rw [if_neg marked] at hp
        cases later : cutAfter mark s with
        | nil =>
            rw [later] at hp
            exact absurd hp List.not_mem_nil
        | cons next rest =>
            rw [later] at hp ih each
            obtain ⟨more, rfl | hp⟩ := mem_dropLast_cons.mp hp
            · -- the first piece grew at its front, so it ends as it did
              rw [List.getLast?_cons_of_ne_nil (each next List.mem_cons_self).1]
              exact ih next (mem_dropLast_cons.mpr ⟨more, .inl rfl⟩)
            · exact ih piece (mem_dropLast_cons.mpr ⟨more, .inr hp⟩)

end SkyCatalog.Text
