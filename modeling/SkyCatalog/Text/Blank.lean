/-!
# White space — what separates the tokens of a line

One table decides everywhere: between tokens, around a whole line, and in the test for a
blank line. The set is that of the Unicode `White_Space` property together with the four
information separators U+001C to U+001F; the zero-width characters are not in it.
-/

namespace SkyCatalog.Text

/-- The characters that separate tokens. -/
def isBlank (c : Char) : Bool :=
  let n := c.toNat
  (0x9 ≤ n && n ≤ 0xD) || (0x1C ≤ n && n ≤ 0x20) || n == 0x85 || n == 0xA0 || n == 0x1680 ||
    (0x2000 ≤ n && n ≤ 0x200A) || n == 0x2028 || n == 0x2029 || n == 0x202F || n == 0x205F ||
    n == 0x3000

/-- A text of white space only, the empty text among them. -/
def allBlank (s : List Char) : Bool := s.all isBlank

/-- The text without its leading white space. -/
def skipBlanks (s : List Char) : List Char := s.dropWhile isBlank

/-- The text without the leading and trailing characters of a class. -/
def trimOf (p : Char → Bool) (s : List Char) : List Char :=
  ((s.dropWhile p).reverse.dropWhile p).reverse

/-- The text without white space at either end. -/
def trim (s : List Char) : List Char := trimOf isBlank s

theorem skipBlanks_cons_of_isBlank {c : Char} (h : isBlank c = true) (s : List Char) :
    skipBlanks (c :: s) = skipBlanks s := by simp [skipBlanks, h]

theorem skipBlanks_cons_of_not_isBlank {c : Char} (h : isBlank c = false) (s : List Char) :
    skipBlanks (c :: s) = c :: s := by simp [skipBlanks, h]

/-- Leading white space is skipped whatever follows it. -/
theorem skipBlanks_append {u : List Char} (h : allBlank u = true) (s : List Char) :
    skipBlanks (u ++ s) = skipBlanks s := by
  induction u with
  | nil => rfl
  | cons c u ih =>
    simp only [allBlank, List.all_cons, Bool.and_eq_true] at h
    simp only [List.cons_append, skipBlanks_cons_of_isBlank h.1]
    exact ih h.2

end SkyCatalog.Text
