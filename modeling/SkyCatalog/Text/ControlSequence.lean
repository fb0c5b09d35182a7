/-!
# Control sequences — what a terminal obeys instead of showing

A control sequence is an escape character, an opening bracket, parameters from `0` to `?`,
intermediate characters from the space to `/`, and a final character from `@` to `~`. Colors
are switched by such sequences. A text that does not go to a terminal is written without
them; an escape character that begins no sequence stays.
-/

namespace SkyCatalog.Text

def escapeChar : Char := '\x1b'

/-- A character of the parameters of a sequence. -/
def isParameter (c : Char) : Bool := '0' ≤ c && c ≤ '?'

/-- A character between the parameters and the final character. -/
def isIntermediate (c : Char) : Bool := ' ' ≤ c && c ≤ '/'

/-- A character that ends a sequence. -/
def isFinal (c : Char) : Bool := '@' ≤ c && c ≤ '~'

/-- The text after the sequence that a text begins with, if it begins with one. -/
def afterSequence? : List Char → Option (List Char)
  | c :: '[' :: s =>
    if c = escapeChar then
      match (s.dropWhile isParameter).dropWhile isIntermediate with
      | d :: rest => if isFinal d then some rest else none
      | [] => none
    else none
  | _ => none

theorem length_of_afterSequence? {s rest : List Char} (h : afterSequence? s = some rest) :
    rest.length < s.length := by
  unfold afterSequence? at h
  split at h
  · rename_i c s
    split at h
    · split at h
      · rename_i d tail hd
        split at h
        · cases h
          have parameters := (List.dropWhile_suffix isParameter (l := s)).length_le
          have intermediates :=
            (List.dropWhile_suffix isIntermediate (l := s.dropWhile isParameter)).length_le
          rw [hd] at intermediates
          simp only [List.length_cons] at intermediates ⊢
          omega
        · cases h
      · cases h
    · cases h
  · cases h

/-- The text without its control sequences. -/
def dropSequences (s : List Char) : List Char :=
  match s with
  | [] => []
  | c :: s =>
    match _h : afterSequence? (c :: s) with
    | some rest => dropSequences rest
    | none => c :: dropSequences s
termination_by s.length
decreasing_by
  · exact length_of_afterSequence? (by assumption)
  · exact Nat.lt_succ_self _

example : dropSequences "a\x1b[1;2mb".toList = "ab".toList := by decide +kernel
example : dropSequences "a\x1b[1 qb".toList = "ab".toList := by decide +kernel
example : dropSequences "a\x1b[1(2b".toList = "a\x1b[1(2b".toList := by decide +kernel
example : dropSequences "\x1b]0;t".toList = "\x1b]0;t".toList := by decide +kernel

end SkyCatalog.Text
