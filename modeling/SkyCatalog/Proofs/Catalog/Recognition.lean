import SkyCatalog.Body.Sameness
import SkyCatalog.Proofs.Catalog.Extension
import SkyCatalog.Proofs.Catalog.Levels

/-!
# Recognition — a catalog knows its own records, and takes no others for them

A caller's body is looked up by its kind and name, and then compared with what is stored there.
What was taken out of the catalog is known again whatever its fields are. What was described afresh
is known when its fields are the same as the stored ones and all its numbers are numbers; every
other body is refused as a parent, however much it looks like a stored one.
-/

namespace SkyCatalog

variable {c : Catalog} {l : Ledger} {b d x : Body} {i : Nat}

/-! ## §1  Numbers and records -/

theorem Binary64.agrees_eq_true_iff {x y : Binary64} :
    x.agrees y = true ↔ x.Same y ∧ x ≠ nan ∧ y ≠ nan := by
  cases x with
  | nan => simp
  | number s r hr =>
      cases y with
      | nan => simp [agrees_comm]
      | number t q hq =>
          -- with different signs the places are equal at zero only
          simp only [agrees, Same, isZero, key?, beq_iff_eq, number.injEq, Option.some.injEq]
          cases s <;> cases t <;> simp
          all_goals omega

namespace Body

theorem sameFields_galaxy_iff {g g' : Galaxy} : SameFields (.galaxy g) (.galaxy g') ↔
    g.name = g'.name ∧ g.type = g'.type ∧ g.age.Same g'.age ∧ g.units = g'.units := by
  constructor
  · intro h
    cases h with
    | galaxy ages => exact ⟨rfl, rfl, ages, rfl⟩
  · obtain ⟨name, type, age, units⟩ := g
    obtain ⟨name', type', age', units'⟩ := g'
    rintro ⟨rfl, rfl, ages, rfl⟩
    exact .galaxy ages

theorem sameFields_star_iff {s s' : Star} : SameFields (.star s) (.star s') ↔
    s.name = s'.name ∧ s.mass.Same s'.mass ∧ s.diameter.Same s'.diameter ∧
      s.temperature = s'.temperature ∧ s.luminosity.Same s'.luminosity ∧
      s.spectralClass = s'.spectralClass := by
  constructor
  · intro h
    cases h with
    | star masses diameters luminosities =>
        exact ⟨rfl, masses, diameters, rfl, luminosities, rfl⟩
  · obtain ⟨name, mass, diameter, temperature, luminosity, spectralClass⟩ := s
    obtain ⟨name', mass', diameter', temperature', luminosity', spectralClass'⟩ := s'
    rintro ⟨rfl, masses, diameters, rfl, luminosities, rfl⟩
    exact .star masses diameters luminosities

theorem SameFields.kind_eq {x y : Body} (h : x.SameFields y) : x.kind = y.kind := by
  cases h <;> rfl

/-- Records of different kinds neither agree nor have the same fields. -/
theorem agrees_iff_of_kind_ne {x y : Body} {p : Prop} (other : x.kind ≠ y.kind) :
    x.agrees y = true ↔ x.SameFields y ∧ p := by
  constructor
  · intro agree
    exact absurd (kind_eq_of_agrees agree) other
  · rintro ⟨same, -⟩
    exact absurd same.kind_eq other

/-- **Agreement of records**: the fields are the same, and no number in them is none. -/
theorem agrees_eq_true_iff {x y : Body} :
    x.agrees y = true ↔ x.SameFields y ∧ .nan ∉ x.numbers ∧ .nan ∉ y.numbers := by
  cases x with
  | galaxy g =>
      cases y with
      | galaxy g' =>
          simp only [agrees, Bool.and_eq_true, beq_iff_eq, Binary64.agrees_eq_true_iff,
            sameFields_galaxy_iff, numbers, List.mem_singleton, eq_comm (a := Binary64.nan)]
          tauto
      | _ => exact agrees_iff_of_kind_ne (by rintro ⟨⟩)
  | star s =>
      cases y with
      | star s' =>
          simp only [agrees, Bool.and_eq_true, beq_iff_eq, Binary64.agrees_eq_true_iff,
            sameFields_star_iff, numbers, List.mem_cons, List.not_mem_nil, or_false, not_or,
            eq_comm (a := Binary64.nan)]
          tauto
      | _ => exact agrees_iff_of_kind_ne (by rintro ⟨⟩)
  | planet p =>
      cases y with
      | planet q =>
          simp only [agrees, beq_iff_eq, numbers, List.not_mem_nil, not_false_iff, and_true]
          constructor
          · rintro rfl
            exact .planet
          · rintro ⟨⟩
            rfl
      | _ => exact agrees_iff_of_kind_ne (by rintro ⟨⟩)
  | moon m =>
      cases y with
      | moon n =>
          simp only [agrees, beq_iff_eq, numbers, List.not_mem_nil, not_false_iff, and_true]
          constructor
          · rintro rfl
            exact .moon
          · rintro ⟨⟩
            rfl
      | _ => exact agrees_iff_of_kind_ne (by rintro ⟨⟩)

end Body

/-! ## §2  Recognition -/

namespace Catalog

/-- What was described afresh is compared by its fields. -/
theorem isStoredAt_fresh : isStoredAt i b ⟨x, none⟩ = b.agrees x := rfl

namespace Mirrors

/-- **A body described afresh is recognised** where a record with the same fields is stored, and no
number of either is none. -/
theorem handleOf?_fresh_iff (h : c.Mirrors l) : c.handleOf? ⟨x, none⟩ = some i ↔
    ∃ b, c.bodies[i]? = some b ∧ b.SameFields x ∧ .nan ∉ b.numbers ∧ .nan ∉ x.numbers := by
  rw [h.handleOf?_eq_some_iff]
  simp only [isStoredAt_fresh, Body.agrees_eq_true_iff]

/-- What is stored is found as itself, at its own handle. -/
theorem fetch?_self (h : c.Mirrors l) (stored : c.bodies[i]? = some b) :
    c.fetch? b.kind b.name = some ⟨b, some i⟩ :=
  h.fetch?_eq_some_iff.mpr ⟨i, rfl, stored, rfl, rfl⟩

/-- A body with a free name goes under any parent that is recognised, as its last child. -/
theorem store_under (h : c.Mirrors l) {x : Held Body} (known : c.handleOf? x = some i)
    (free : c.find? d.kind d.name = none) :
    ∃ c', (store d (some x)).run.run c = (.ok c.size, c') ∧
      c'.children? x = some ((c.children? x).getD [] ++ [⟨d, some c.size⟩]) := by
  have fresh := h.lookup?_eq_none free
  have under : c.parentHandle (some x) = .ok (some i) := by simp [parentHandle, known]
  refine ⟨c.insert d (some i), ?_, ?_⟩
  · rw [run_store, fresh, under]
    rfl
  · exact h.children?_insert_parent (h.insert fresh (h.parentHandle_lt under)) rfl known

end Mirrors

/-- A parent that is not recognised is refused by its kind and name, and nothing is changed. -/
theorem store_of_unknown {x : Held Body} (unknown : c.handleOf? x = none)
    (fresh : c.lookup? d.kind d.name = none) : (store d (some x)).run.run c =
      (.error (.unknownParent x.value.kind x.value.name), c) := by
  have refused : c.parentHandle (some x) =
      .error (.unknownParent x.value.kind x.value.name) := by simp [parentHandle, unknown]
  rw [run_store, fresh, refused]
  rfl

end Catalog

/-! ## §3  The theorem -/

/-- **A catalog knows its own, and no others.** Let bodies be added to the empty catalog in any way.
Every stored body, with numbers or not, is found under its kind and name, has its handle, and has
as its children what was added under this handle; as a parent it is never refused, and a body with
a free name becomes its last child. A body described afresh has a handle exactly when the record
that is stored there has the same fields and no number of either is none. Any other one has no
handle and no children, and as the parent of a body with a free name it is refused by its own kind
and name, with the catalog as it was. -/
theorem own_records_recognised (history : List Addition) :
    let c := (attempts Catalog.put .empty history).1
    let l := (attempts Ledger.put .empty history).1
    (∀ i b, c.bodies[i]? = some b →
      c.find? b.kind b.name = some b ∧ c.fetch? b.kind b.name = some ⟨b, some i⟩ ∧
      c.handleOf? ⟨b, some i⟩ = some i ∧
      (c.children? ⟨b, some i⟩).getD [] = l.childrenAt i ∧
      ∀ d, c.find? d.kind d.name = none →
        ∃ c', (Catalog.store d (some ⟨b, some i⟩)).run.run c = (.ok c.size, c') ∧
          c'.children? ⟨b, some i⟩ =
            some ((c.children? ⟨b, some i⟩).getD [] ++ [⟨d, some c.size⟩])) ∧
    ∀ x : Body,
      (∀ i, c.handleOf? ⟨x, none⟩ = some i ↔
        ∃ b, c.bodies[i]? = some b ∧ b.SameFields x ∧ .nan ∉ b.numbers ∧ .nan ∉ x.numbers) ∧
      ((∀ (i : Nat) (b : Body), c.bodies[i]? = some b →
          ¬(b.SameFields x ∧ .nan ∉ b.numbers ∧ .nan ∉ x.numbers)) →
        c.handleOf? ⟨x, none⟩ = none ∧ c.children? ⟨x, none⟩ = none ∧
        ∀ d, c.find? d.kind d.name = none →
          (Catalog.store d (some ⟨x, none⟩)).run.run c =
            (.error (.unknownParent x.kind x.name), c)) := by
  have m := (Catalog.mirrors_empty.history history).2
  intro c l
  refine ⟨?_, ?_⟩
  · intro i b stored
    have found := m.fetch?_self stored
    have known : c.handleOf? ⟨b, some i⟩ = some i := m.handleOf?_of_held rfl stored
    refine ⟨?_, found, known, m.getD_children?_of_handleOf? known, ?_⟩
    · rw [Catalog.find?_eq_map_fetch?, found, Option.map_some]
    · intro d free
      exact m.store_under known free
  · intro x
    refine ⟨fun i => m.handleOf?_fresh_iff, ?_⟩
    intro other
    have unknown : c.handleOf? ⟨x, none⟩ = none := by
      rw [Option.eq_none_iff_forall_ne_some]
      intro i known
      obtain ⟨b, stored, same⟩ := m.handleOf?_fresh_iff.mp known
      exact other i b stored same
    refine ⟨unknown, ?_, ?_⟩
    · rw [Catalog.children?, unknown, Option.bind_none]
    · intro d free
      exact Catalog.store_of_unknown unknown (m.lookup?_eq_none free)

/-- A galaxy whose age is no number, with a star under it whose diameter is the negative zero; a
moon under the galaxy described once more was refused. The stored galaxy takes a second star. The
star is known by a description with the other zero, and the galaxy by none. -/
theorem own_records_recognised_beside_lookalikes :
    let galaxy : Body := .galaxy ⟨"A", .spiral, .nan, .billion⟩
    let star (name : String) (diameter : Binary64) : Body :=
      .star ⟨name, 1.0, diameter, 5500, 1.0, .g⟩
    let c := (attempts Catalog.put .empty [⟨galaxy, none⟩,
      ⟨star "A" (.zero true), some ⟨galaxy, some 0⟩⟩, ⟨.moon ⟨"A"⟩, some ⟨galaxy, none⟩⟩]).1
    c.bodies = [galaxy, star "A" (.zero true)] ∧
      (∃ c', (Catalog.store (star "B" 1.0) (some ⟨galaxy, some 0⟩)).run.run c = (.ok 2, c') ∧
        c'.children? ⟨galaxy, some 0⟩ =
          some [⟨star "A" (.zero true), some 1⟩, ⟨star "B" 1.0, some 2⟩]) ∧
      c.handleOf? ⟨star "A" (.zero false), none⟩ = some 1 ∧
      (Catalog.store (.moon ⟨"A"⟩) (some ⟨galaxy, none⟩)).run.run c =
        (.error (.unknownParent .galaxy "A"), c) := by
  intro galaxy star c
  obtain ⟨own, others⟩ := own_records_recognised [⟨galaxy, none⟩,
    ⟨star "A" (.zero true), some ⟨galaxy, some 0⟩⟩, ⟨.moon ⟨"A"⟩, some ⟨galaxy, none⟩⟩]
  refine ⟨by decide +kernel, ?_, ?_, ?_⟩
  · obtain ⟨c', stored, children⟩ :=
      (own 0 galaxy (by decide +kernel)).2.2.2.2 (star "B" 1.0) (by decide +kernel)
    refine ⟨c', stored, children.trans ?_⟩
    decide +kernel
  · rw [((others (star "A" (.zero false))).1 1)]
    refine ⟨star "A" (.zero true), by decide +kernel, ?_, by decide +kernel, by decide +kernel⟩
    exact .star (.inl rfl) (.inr ⟨rfl, rfl⟩) (.inl rfl)
  · refine ((others galaxy).2 ?_).2.2 (.moon ⟨"A"⟩) (by decide +kernel)
    rintro i b - ⟨-, -, numbers⟩
    exact numbers List.mem_cons_self

end SkyCatalog
