/-!
# Cuts — a text taken apart after a mark

Lines end with a line feed, and what stands before a tab ends with the tab. In both cases
the text is cut right after each mark, so that every piece but the last ends with one and
the pieces put together are the text again. An empty text has no pieces.
-/

namespace SkyCatalog.Text

/-- The pieces of a text that is cut after each occurrence of a mark. -/
def cutAfter (mark : Char) : List Char → List (List Char)
  | [] => []
  | c :: s =>
    if c = mark then [c] :: cutAfter mark s
    else
      match cutAfter mark s with
      | [] => [[c]]
      | piece :: pieces => (c :: piece) :: pieces

/-- Nothing is lost in cutting. -/
theorem flatten_cutAfter (mark : Char) (s : List Char) : (cutAfter mark s).flatten = s := by
  induction s with
  | nil => rfl
  | cons c s ih =>
    unfold cutAfter
    split
    · simp [ih]
    · split <;> rename_i h <;> simp_all

/-- Every character of a piece is one of the text. -/
theorem mem_of_mem_cutAfter {mark c : Char} {s piece : List Char} (hp : piece ∈ cutAfter mark s)
    (hc : c ∈ piece) : c ∈ s := by
  rw [← flatten_cutAfter mark s]
  exact List.mem_flatten.2 ⟨piece, hp, hc⟩

/-- A text without the mark is one piece, if it is any. -/
theorem cutAfter_of_not_mem {mark : Char} {s : List Char} (h : mark ∉ s) (ne : s ≠ []) :
    cutAfter mark s = [s] := by
  induction s with
  | nil => exact absurd rfl ne
  | cons c s ih =>
    simp only [List.mem_cons, not_or] at h
    unfold cutAfter
    rw [if_neg (Ne.symm h.1)]
    cases s with
    | nil => rfl
    | cons d s => rw [ih h.2 (List.cons_ne_nil d s)]

end SkyCatalog.Text
