import SkyCatalog.Proofs.Numeral.Length
import SkyCatalog.Proofs.Session.Steps

/-!
# Growth — where every stored body came from

The catalog of a session can be traced back to its lines: every body that it holds was added by
one of them, at the handle that was next, and this line describes the body and names the body
that it stands under. What lines can say therefore limits what can be stored.
-/

namespace SkyCatalog

open Grammar

/-! ## §1  Kinds in the ledger -/

/-- An earlier entry keeps its parent when another entry is appended. -/
theorem Ledger.Orderly.parentOf?_append {l : Ledger} (h : l.Orderly) {e : Entry}
    (he : e ∈ l.entries) (body : Body) (parent : Option Nat) :
    (l.append body parent).parentOf? e = l.parentOf? e := by
  obtain ⟨i, hi⟩ := List.mem_iff_getElem?.mp he
  refine Ledger.parentOf?_append body parent ?_
  intro p hp
  exact Nat.lt_trans (h.earlier hi hp) (lt_length_of_getElem? hi)

/-! ## §2  Tracing bodies to lines -/

namespace Session

/-- Among some lines there is one that added a body at a handle and said a phrase: with the lines
before it the handle was the next one, its tokens say the phrase, the phrase asks for the body,
and the body was stored by this line. -/
def AddedBy (lines : List (Option String)) (handle : Nat) (b : Body) (ph : Phrase) : Prop :=
  ∃ pre line post before after ts parent, lines = pre ++ some line :: post ∧
    run .empty pre = .ok before ∧ before.size = handle ∧
    Says ph ts ∧ Spaced ts line.toList ∧ Asks before ph (.add b parent) ∧
    next before (some line) = .ok after ∧ after.bodies = before.bodies ++ [b]

theorem AddedBy.snoc {lines : List (Option String)} {i : Nat} {b : Body} {ph : Phrase}
    (h : AddedBy lines i b ph) (line : Option String) : AddedBy (lines ++ [line]) i b ph := by
  obtain ⟨pre, text, post, before, after, ts, parent, rfl, rest⟩ := h
  exact ⟨pre, text, post ++ [line], before, after, ts, parent, by simp, rest⟩

/-- The catalog that some lines have built, beside its ledger: parents are of the right kind, and
every entry goes back to a line that names its parent. -/
structure Grown (lines : List (Option String)) (c : Catalog) (l : Ledger) : Prop where
  reached : run .empty lines = .ok c
  mirrors : c.Mirrors l
  ranked : l.Ranked
  traced : ∀ {i : Nat} {e : Entry}, l.entries[i]? = some e → ∃ ph, AddedBy lines i e.body ph ∧
    (l.parentOf? e).map (·.body.name) = ph.parentName?

theorem grown_empty : Grown [] .empty .empty where
  reached := rfl
  mirrors := Catalog.mirrors_empty
  ranked e he := absurd he List.not_mem_nil
  traced he := absurd he (by simp [Ledger.empty])

theorem Grown.snoc {lines : List (Option String)} {line : Option String} {c : Catalog}
    {l : Ledger} (h : Grown lines c l) (after : next c line = .ok c) :
    Grown (lines ++ [line]) c l where
  reached := run_snoc h.reached after
  mirrors := h.mirrors
  ranked := h.ranked
  traced he := by
    obtain ⟨ph, added, named⟩ := h.traced he
    exact ⟨ph, added.snoc line, named⟩

/-- A line that adds a body is the one that the new entry goes back to; all older entries go back
to the lines that they went back to before. -/
theorem Grown.insert {lines : List (Option String)} {line : Option String} {c : Catalog}
    {l : Ledger} {ph : Phrase} {b : Body} {p : Option Nat} (h : Grown lines c l)
    (adds : Adds c l line ph b p) (after : next c line = .ok (c.insert b p)) :
    Grown (lines ++ [line]) (c.insert b p) (l.append b p) where
  reached := run_snoc h.reached after
  mirrors := adds.mirrors h.mirrors
  ranked := by
    intro e he
    rcases List.mem_append.mp he with he | he
    · rw [h.mirrors.orderly.parentOf?_append he]
      exact h.ranked e he
    · obtain rfl := List.mem_singleton.mp he
      rw [Ledger.parentOf?_append b p (h.mirrors.size_eq ▸ adds.stored)]
      exact adds.parentKind
  traced := by
    intro i e he
    rcases getElem?_snoc.mp he with he | ⟨rfl, rfl⟩
    · obtain ⟨ph', added, named⟩ := h.traced he
      refine ⟨ph', added.snoc line, ?_⟩
      rw [h.mirrors.orderly.parentOf?_append (List.mem_of_getElem? he)]
      exact named
    · -- the new entry goes back to the last line, and the lines before it led to `c`
      obtain ⟨text, ts, rfl, said, spaced⟩ := adds.said
      obtain ⟨parent, asks⟩ := adds.asks
      refine ⟨ph, ⟨lines, text, [], c, _, ts, parent, rfl, h.reached, h.mirrors.size_eq, said,
        spaced, asks, after, rfl⟩, ?_⟩
      rw [Ledger.parentOf?_append b p (h.mirrors.size_eq ▸ adds.stored)]
      exact adds.parentName

/-- **One more line.** The command that it comes to is executed, and the catalog after it has
grown from all the lines. -/
theorem Grown.step {lines : List (Option String)} {c : Catalog} {l : Ledger} (h : Grown lines c l)
    (line : Option String) : ∃ effect l', (Command.parse c line).execute c = .ok effect ∧
      Grown (lines ++ [line]) effect.catalog l' := by
  obtain ⟨effect, executed, same | ⟨ph, b, p, adds, added⟩⟩ := execute_cases h.mirrors line
  · have after := next_eq_ok executed
    rw [same] at after
    exact ⟨effect, l, executed, same ▸ h.snoc after⟩
  · have after := next_eq_ok executed
    rw [added] at after
    exact ⟨effect, l.append b p, executed, added ▸ h.insert adds after⟩

/-- **No session breaks off**, and its catalog has grown from its lines. -/
theorem grown (lines : List (Option String)) : ∃ c l, Grown lines c l := by
  induction lines using List.reverseRecOn with
  | nil => exact ⟨.empty, .empty, grown_empty⟩
  | append_singleton lines line ih =>
      obtain ⟨c, l, h⟩ := ih
      obtain ⟨effect, l', -, after⟩ := h.step line
      exact ⟨effect.catalog, l', after⟩

end Session

/-! ## §3  What lines can describe -/

/-- A body that some phrase asks some catalog to add. -/
def Grammar.Described (b : Body) : Prop :=
  ∃ c ph ts parent, Says ph ts ∧ Asks c ph (.add b parent)

/-- Whatever a session has stored was described on one of its lines. -/
theorem Session.Grown.described {lines : List (Option String)} {c : Catalog} {l : Ledger}
    (h : Session.Grown lines c l) {b : Body} (hb : b ∈ c.bodies) : Described b := by
  rw [h.mirrors.bodies] at hb
  obtain ⟨e, he, rfl⟩ := List.mem_map.mp hb
  obtain ⟨i, hi⟩ := List.mem_iff_getElem?.mp he
  obtain ⟨ph, ⟨-, -, -, before, -, ts, parent, -, -, -, said, -, asks, -⟩, -⟩ := h.traced hi
  exact ⟨before, ph, ts, parent, said, asks⟩

/-- The body of a command to add was described on its line. -/
theorem Command.described_of_parse {c : Catalog} {line : Option String} {b : Body}
    {parent : Option (Held Body)} (parsed : Command.parse c line = .add b parent) :
    Described b := by
  obtain ⟨text, ph, ts, -, said, -, asks⟩ := Command.said_of_parse parsed
  exact ⟨c, ph, ts, parent, said, asks⟩

namespace Grammar.Described

variable {b : Body}

/-- Its name is one that brackets can hold. -/
theorem named (h : Described b) : IsName b.name := by
  obtain ⟨c, ph, ts, parent, said, asks⟩ := h
  cases asks with
  | addGalaxy => cases said with | addGalaxy named => exact named
  | addStar => cases said with | addStar _ named => exact named
  | addPlanet => cases said with | addPlanet _ named => exact named
  | addMoon => cases said with | addMoon _ named => exact named

/-- The temperature of a star was read, so it can be written. -/
theorem decimal_length {s : Star} (h : Described (.star s)) :
    (Numeral.decimal s.temperature).length ≤ Numeral.lengthLimit := by
  obtain ⟨c, ph, ts, parent, said, asks⟩ := h
  cases asks with
  | addStar =>
      cases said with
      | addStar _ _ _ _ _ readTemperature _ _ warm =>
          have short := Numeral.decimal_length_of_integer? readTemperature
          rwa [← Int.toNat_of_nonneg warm, Int.natAbs_natCast] at short

end Grammar.Described

end SkyCatalog
