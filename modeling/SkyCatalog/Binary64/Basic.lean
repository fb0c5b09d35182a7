/-!
# Binary64 — double precision numbers as exact data

The magnitudes of the format stand in a row: zero, the multiples of the smallest positive
number, then ever wider steps, and infinity last. A number is a sign and its place in that
row, its `rank`; all values that are no number are one `nan`. Order and equality are then
questions about ranks, and nothing depends on the arithmetic of a machine.

Magnitudes are counted in *units*, the smallest positive number `2 ^ -1074`: the rank
`r = e * 2 ^ 52 + m` with `m < 2 ^ 52` stands for `m` units when `e = 0`, and for
`(2 ^ 52 + m) * 2 ^ (e - 1)` units otherwise.
-/

namespace SkyCatalog

/-- The number of ranks that share an exponent. -/
def Binary64.span : Nat := Nat.pow 2 52

/-- The rank of infinity, the last one. -/
def Binary64.infinityRank : Nat := 2047 * Binary64.span

/-- A double precision number. -/
inductive Binary64 where
  | nan
  | number (negative : Bool) (rank : Nat) (rank_le : rank ≤ Binary64.infinityRank)
deriving DecidableEq, Repr

namespace Binary64

/-- The magnitude of a rank in units; what would follow the greatest finite magnitude stands
for infinity. -/
def units (rank : Nat) : Nat :=
  if rank < span then rank else (span + rank % span) * Nat.pow 2 (rank / span - 1)

/-- The place of a number in the order of all numbers, in which both zeros share a place. -/
def key? : Binary64 → Option Int
  | nan => none
  | number negative rank _ => some (if negative then -(rank : Int) else (rank : Int))

/-- Smaller as numbers; `nan` is not smaller than anything, nor anything than it. -/
def lt (x y : Binary64) : Bool :=
  match x.key?, y.key? with
  | some a, some b => a < b
  | _, _ => false

/-- Equal as numbers: the two zeros agree, and `nan` agrees with nothing. -/
def agrees (x y : Binary64) : Bool :=
  match x.key?, y.key? with
  | some a, some b => a == b
  | _, _ => false

/-- Zero, of either sign. -/
def isZero (x : Binary64) : Bool := x.key? == some 0

/-- Less than zero; the negative zero is not. -/
def isNegative (x : Binary64) : Bool :=
  match x.key? with
  | some a => a < 0
  | none => false

def infinity (negative : Bool) : Binary64 := number negative infinityRank (Nat.le_refl _)

def zero (negative : Bool) : Binary64 := number negative 0 (Nat.zero_le _)

theorem agrees_comm (x y : Binary64) : x.agrees y = y.agrees x := by
  unfold agrees
  cases x.key? <;> cases y.key? <;> simp [Bool.beq_comm]

@[simp] theorem lt_nan_right (x : Binary64) : lt x nan = false := by
  cases x <;> rfl

@[simp] theorem agrees_nan_left (x : Binary64) : agrees nan x = false := rfl

end Binary64

end SkyCatalog
