/-!
# Patterns — a text matched part by part

A pattern is a row of parts that a text is taken apart by, from its beginning. A part may have
several ways to match; they are tried in order, and the first one counts with which the parts after
it match as well. A run tries to be long: it takes what it can, and gives back one character after
another when the parts after it do not match.
-/

namespace SkyCatalog.Text

/-- All beginnings of a text that lie in a class, each with what follows it, the longest first. -/
def beginnings (inside : Char → Bool) : List Char → List (List Char × List Char)
  | [] => [([], [])]
  | c :: s =>
    (if inside c then (beginnings inside s).map fun way => (c :: way.1, way.2) else []) ++
      [([], c :: s)]

/-- A part of a pattern: a run of characters of a class, at least so many; one character; or a
look at what is ahead, which takes nothing. -/
inductive Part where
  | run (inside : Char → Bool) (least : Nat)
  | char (c : Char)
  | ahead (holds : List Char → Bool)

/-- The ways in which a text can begin with a part, in the order in which they are tried: what is
taken, and what is left. -/
def Part.ways : Part → List Char → List (List Char × List Char)
  | run inside least, s => (beginnings inside s).filter fun way => least ≤ way.1.length
  | char _, [] => []
  | char c, d :: s => if d = c then [([c], s)] else []
  | ahead holds, s => if holds s then [([], s)] else []

abbrev Pattern := List Part

/-- What the parts take in the first way in which they all match. -/
def Pattern.first? : Pattern → List Char → Option (List (List Char))
  | [], _ => some []
  | part :: rest, s => (part.ways s).findSome? fun way => (first? rest way.2).map (way.1 :: ·)

/-- The end of a line: the end of the text, or a line feed that ends it. -/
def atLineEnd (s : List Char) : Bool := s.isEmpty || s == ['\n']

example : Pattern.first? [.run (· = 'a') 0, .char 'a'] "aab".toList = some [['a'], ['a']] := by
  decide
example : Pattern.first? [.run (· = 'a') 2, .char 'a'] "aab".toList = none := by decide

variable {inside : Char → Bool} {least : Nat} {rest : Pattern} {s : List Char}

@[simp] theorem first?_nil (s : List Char) : Pattern.first? [] s = some [] := rfl

theorem first?_char_nil (c : Char) : Pattern.first? (.char c :: rest) [] = none := rfl

theorem first?_char (c d : Char) : Pattern.first? (.char c :: rest) (d :: s) =
    if d = c then (Pattern.first? rest s).map ([c] :: ·) else none := by
  by_cases h : d = c
  · simp [Pattern.first?, Part.ways, h]
  · simp [Pattern.first?, Part.ways, h]

theorem first?_ahead (holds : List Char → Bool) : Pattern.first? (.ahead holds :: rest) s =
    if holds s then (Pattern.first? rest s).map ([] :: ·) else none := by
  by_cases h : holds s = true
  · simp [Pattern.first?, Part.ways, h]
  · simp [Pattern.first?, Part.ways, h]

/-! ## Runs -/

/-- The longest beginning comes first, and the others stop within the class. -/
theorem beginnings_eq (inside : Char → Bool) (s : List Char) :
    ∃ others, beginnings inside s = (s.takeWhile inside, s.dropWhile inside) :: others ∧
      ∀ way ∈ others, way.1.length < (s.takeWhile inside).length ∧
        ∃ c r, way.2 = c :: r ∧ inside c = true := by
  induction s with
  | nil => exact ⟨[], rfl, nofun⟩
  | cons c s ih =>
      obtain ⟨others, whole, shorter⟩ := ih
      by_cases h : inside c = true
      · refine ⟨(others.map fun way => (c :: way.1, way.2)) ++ [([], c :: s)], ?_, ?_⟩
        · rw [beginnings, if_pos h, whole, List.takeWhile_cons_of_pos h,
            List.dropWhile_cons_of_pos h]
          rfl
        · intro way hw
          rw [List.takeWhile_cons_of_pos h, List.length_cons]
          rcases List.mem_append.mp hw with hw | hw
          · obtain ⟨old, old_mem, rfl⟩ := List.mem_map.mp hw
            obtain ⟨less, stops⟩ := shorter old old_mem
            exact ⟨Nat.succ_lt_succ less, stops⟩
          · rw [List.mem_singleton.mp hw]
            exact ⟨Nat.succ_pos _, c, s, rfl, h⟩
      · refine ⟨[], ?_, nofun⟩
        rw [beginnings, if_neg h, List.takeWhile_cons_of_neg h, List.dropWhile_cons_of_neg h]
        rfl

/-- A run that is too short matches in no way. -/
theorem first?_run_of_short (short : (s.takeWhile inside).length < least) :
    Pattern.first? (.run inside least :: rest) s = none := by
  obtain ⟨others, whole, shorter⟩ := beginnings_eq inside s
  have nowhere : Part.ways (.run inside least) s = [] := by
    rw [Part.ways, whole, List.filter_eq_nil_iff]
    intro way hw long
    rcases List.mem_cons.mp hw with rfl | hw
    · exact Nat.not_le_of_lt short (of_decide_eq_true long)
    · exact Nat.not_le_of_lt (Nat.lt_trans (shorter way hw).1 short) (of_decide_eq_true long)
  rw [Pattern.first?, nowhere]
  rfl

/-- A run takes all it can, when the parts after it match then, or when they do not match within
the class anyway. -/
theorem first?_run (long : least ≤ (s.takeWhile inside).length)
    (settled : Pattern.first? rest (s.dropWhile inside) ≠ none ∨
      ∀ c r, inside c = true → Pattern.first? rest (c :: r) = none) :
    Pattern.first? (.run inside least :: rest) s =
      (Pattern.first? rest (s.dropWhile inside)).map (s.takeWhile inside :: ·) := by
  obtain ⟨others, whole, shorter⟩ := beginnings_eq inside s
  rw [Pattern.first?, Part.ways, whole, List.filter_cons_of_pos (by simpa using long),
    List.findSome?_cons]
  cases found : Pattern.first? rest (s.dropWhile inside) with
  | some ts => simp only [Option.map_some]
  | none =>
      -- giving back leaves a text that begins within the class
      rw [found] at settled
      have within := settled.resolve_left (absurd rfl)
      simp only [Option.map_none]
      refine List.findSome?_eq_none_iff.mpr ?_
      intro way hw
      obtain ⟨-, c, r, left, hc⟩ := shorter way ((List.mem_filter.mp hw).1)
      rw [left, within c r hc]
      rfl

end SkyCatalog.Text
