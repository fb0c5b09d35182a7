import SkyCatalog.Body.Check

/-!
# Valid records — a body with a name passes its own check

The fields of a body are typed, so of all the faults that a record can have only an empty name
is left to it. Every other field that a body gives is read back as what it was.
-/

namespace SkyCatalog

/-! ## §1  Checks that find no fault -/

namespace Checked

variable {α β : Type}

@[simp] theorem map_ok (f : α → β) (a : α) : f <$> ok a = ok (f a) := rfl

@[simp] theorem seq_ok (f : α → β) (a : α) : ok f <*> ok a = ok (f a) := rfl

@[simp] theorem andThen_ok (a : α) (f : α → Checked β) : (ok a).andThen f = f a := rfl

@[simp] theorem under_ok (part : String) (a : α) : (ok a).under part = ok a := rfl

end Checked

namespace Field

variable {α β : Type}

@[simp] theorem require_given (a : α) (name : String) (ofNull : Problem) (check : α → Checked β) :
    (given a).require name ofNull check = (check a).under name := rfl

@[simp] theorem real_given (x : Binary64) (name : String) : (given x).real name = .ok x := rfl

theorem someText_given {s : String} (h : s ≠ "") (name : String) :
    (given s).someText name = .ok s := by
  simp [someText, h]

theorem word_given {w : String} {read : String → Option α} {a : α} (h : read w = some a)
    (name : String) (words : List String) : (given w).word name words read = .ok a := by
  simp [word, h]

theorem tag_given {w : String} {read : String → Option α} {a : α} (h : read w = some a)
    (name : String) (expected : List String) : (given w).tag name expected read = .ok a := by
  simp [tag, h]

end Field

/-! ## §2  Bodies -/

namespace Body

theorem draft_kind (b : Body) : b.draft.kind = .given b.kind.word := by cases b <;> rfl

theorem draft_name (b : Body) : b.draft.name = .given b.name := by cases b <;> rfl

/-- The fields of a body pass the checks of its kind. -/
theorem draft_ofKind {b : Body} (named : b.name ≠ "") : b.draft.ofKind b.kind = .ok b := by
  have name := (congrArg (·.someText "name") b.draft_name).trans (Field.someText_given named "name")
  cases b with
  | galaxy g =>
      show Body.galaxy <$> Draft.galaxy _ = _
      simp only [Draft.galaxy, name]
      simp only [draft, Field.word_given g.type.ofWord?_word, Field.word_given g.units.ofWord?_word,
        Field.real_given, Checked.map_ok, Checked.seq_ok, Body.name]
  | star s =>
      show Body.star <$> Draft.star _ = _
      have whole : ¬ (s.temperature : Int) < 0 := Int.not_lt.mpr (Int.natCast_nonneg _)
      simp only [Draft.star, name]
      simp [draft, Draft.checkTemperature, Draft.checkSpectralClass, whole,
        s.spectralClass.ofWord?_word, Body.name]
  | planet p =>
      show Body.planet <$> Draft.planet _ = _
      simp only [Draft.planet, name]
      simp [draft, Field.word_given p.type.ofWord?_word, Body.name]
  | moon m =>
      show Body.moon <$> Draft.moon _ = _
      simp only [Draft.moon, name, Checked.map_ok, Body.name]

/-- **A body with a name passes its own check**, and comes out of it unchanged. -/
theorem check_draft {b : Body} (named : b.name ≠ "") : b.draft.check = .ok b := by
  unfold Draft.check
  rw [draft_kind, Field.tag_given b.kind.ofWord?_word, Checked.andThen_ok, draft_ofKind named,
    Checked.under_ok]

end Body

end SkyCatalog
