/-!
# Similar texts — what may have been meant

Two texts are compared by the blocks that they share: the longest one first, then those to
its left in both texts, then those to its right. Of several longest blocks the one that
begins earliest in the first text counts, and then earliest in the second. Texts are close
when at least three fifths of their characters stand in shared blocks.
-/

namespace SkyCatalog.Text

/-- The length of the common beginning of two texts. -/
def commonStart : List Char → List Char → Nat
  | c :: s, d :: t => if c = d then commonStart s t + 1 else 0
  | _, _ => 0

/-- A block that two texts share: where it begins in each of them, and its length. -/
structure Block where
  left : Nat
  right : Nat
  length : Nat
deriving DecidableEq, Repr

/-- The block at each pair of places. -/
def blocks (s t : List Char) : List Block :=
  (List.range s.length).flatMap fun i =>
    (List.range t.length).map fun j => ⟨i, j, commonStart (s.drop i) (t.drop j)⟩

/-- The longer of two blocks; of equals the first one. -/
def Block.longer (b d : Block) : Block := if b.length < d.length then d else b

def longestBlock (s t : List Char) : Block := (blocks s t).foldl Block.longer ⟨0, 0, 0⟩

/-- The number of characters in shared blocks, looking for blocks between blocks up to a depth.
A block takes a character of the first text, so its length is depth enough. -/
def shared : Nat → List Char → List Char → Nat
  | 0, _, _ => 0
  | depth + 1, s, t =>
    let b := longestBlock s t
    if b.length = 0 then 0
    else
      shared depth (s.take b.left) (t.take b.right) + b.length +
        shared depth (s.drop (b.left + b.length)) (t.drop (b.right + b.length))

/-- Whether two texts are close. Texts of very different length cannot be. -/
def isClose (s t : List Char) : Bool :=
  let needed := 3 * (s.length + t.length)
  needed ≤ 10 * min s.length t.length && needed ≤ 10 * shared s.length s t

example : isClose "--prompt".toList "--promt".toList = true := by decide +kernel
example : isClose "--help".toList "--pp".toList = true := by decide +kernel
example : isClose "--help".toList "--HELP".toList = false := by decide +kernel

end SkyCatalog.Text
