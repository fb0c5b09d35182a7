import SkyCatalog.Proofs.Catalog.Frame

/-!
# Extensions — what a catalog keeps as it grows

Bodies are never removed or replaced, and a name that is taken stays with its body. So whatever a
catalog has recognised or found once it will recognise and find again, at the same handle. The
relation composes: it is shown for one addition, and holds of any number of them.
-/

namespace SkyCatalog

namespace Catalog

/-- A catalog `c'` has everything that a catalog `c` has: its bodies in their places, every
caller's body that was recognised, and every body that was found under its name. -/
structure Extends (c c' : Catalog) : Prop where
  bodies : c.bodies <+: c'.bodies
  recognised : ∀ x i, c.handleOf? x = some i → c'.handleOf? x = some i
  found : ∀ k n x, c.fetch? k n = some x → c'.fetch? k n = some x

variable {c c' c'' : Catalog} {l : Ledger}

theorem Extends.refl (c : Catalog) : c.Extends c where
  bodies := List.prefix_refl c.bodies
  recognised _ _ h := h
  found _ _ _ h := h

theorem Extends.trans (h : c.Extends c') (h' : c'.Extends c'') : c.Extends c'' where
  bodies := h.bodies.trans h'.bodies
  recognised x i known := h'.recognised x i (h.recognised x i known)
  found k n x known := h'.found k n x (h.found k n x known)

/-- **One body more takes nothing away.** Its name was free, so no other one is hidden by it. -/
theorem Gains.extends {b : Body} {p : Option Nat} (gains : c.Gains b p c') : c.Extends c' where
  bodies := by
    rw [gains.bodies]
    apply List.prefix_append
  recognised := gains.handles
  found := by
    intro k n x known
    obtain ⟨i, looked, held⟩ := Option.bind_eq_some_iff.mp known
    have other : ¬(k = b.kind ∧ n = b.name) := by
      rintro ⟨rfl, rfl⟩
      rw [gains.fresh] at looked
      cases looked
    obtain ⟨stored, at_i, -⟩ := Option.map_eq_some_iff.mp held
    apply Option.bind_eq_some_iff.mpr
    refine ⟨i, ?_, ?_⟩
    · rw [gains.index, if_neg other]
      exact looked
    · rw [gains.held i (lt_length_of_getElem? at_i)]
      exact held

/-- The new body is found under its name, at the handle that was next. -/
theorem Gains.fetch?_self {b : Body} {p : Option Nat} (gains : c.Gains b p c') :
    c'.fetch? b.kind b.name = some ⟨b, some c.size⟩ := by
  rw [fetch?, gains.index, if_pos ⟨rfl, rfl⟩, Option.bind_some, held?, gains.bodies]
  simp [size]

/-- Whatever is found after an addition is the new body, or was found before. -/
theorem Gains.fetch?_cases {b : Body} {p : Option Nat} (gains : c.Gains b p c')
    (h : c.Mirrors l) {k : Kind} {n : String} {x : Held Body} (found : c'.fetch? k n = some x) :
    x = ⟨b, some c.size⟩ ∨ c.fetch? k n = some x := by
  by_cases own : k = b.kind ∧ n = b.name
  · obtain ⟨rfl, rfl⟩ := own
    rw [gains.fetch?_self] at found
    exact .inl (Option.some.inj found).symm
  · right
    rw [← found]
    unfold fetch?
    rw [gains.index, if_neg own]
    cases looked : c.lookup? k n with
    | none => rfl
    | some i =>
        obtain ⟨stored, at_i, -⟩ := h.lookup?_eq_some_iff.mp looked
        exact (gains.held i (lt_length_of_getElem? at_i)).symm

/-- What is found is what is taken out, without the place it was taken from. -/
theorem find?_eq_map_fetch? (c : Catalog) (k : Kind) (n : String) :
    c.find? k n = (c.fetch? k n).map (·.value) := by
  unfold find? fetch?
  rw [Option.map_bind]
  congr 1
  funext i
  simp only [held?, Function.comp_apply, Option.map_map]
  cases c.bodies[i]? <;> rfl

theorem find?_eq_none_iff {k : Kind} {n : String} : c.find? k n = none ↔ c.fetch? k n = none := by
  rw [find?_eq_map_fetch?, Option.map_eq_none_iff]

/-- A body that is put in is refused, and the catalog is the same, or the catalog gains it. -/
theorem Mirrors.gains_of_put (h : c.Mirrors l) (body : Body) (parent : Option (Held Body)) :
    (c.put body parent).1 = c ∨
      ∃ p, c.parentHandle parent = .ok p ∧ c.Gains body p (c.put body parent).1 := by
  rcases c.put_cases body parent with ⟨i, -, e⟩ | ⟨-, x, -, -, e⟩ | ⟨fresh, p, under, e⟩
  · exact .inl (congrArg Prod.fst e)
  · exact .inl (congrArg Prod.fst e)
  · rw [e]
    exact .inr ⟨p, under, h.gains fresh (h.parentHandle_lt under)⟩

/-- Nothing is lost when a body is put in. -/
theorem Mirrors.extends_put (h : c.Mirrors l) (body : Body) (parent : Option (Held Body)) :
    c.Extends (c.put body parent).1 := by
  rcases h.gains_of_put body parent with same | ⟨p, -, gains⟩
  · rw [same]
    exact .refl c
  · exact gains.extends

/-- A parent that was accepted once is accepted again. -/
theorem Extends.parentHandle (h : c.Extends c') {parent : Option (Held Body)} {p : Option Nat}
    (accepted : c.parentHandle parent = .ok p) : c'.parentHandle parent = .ok p := by
  cases parent with
  | none => exact accepted
  | some x =>
      unfold Catalog.parentHandle at accepted ⊢
      cases known : c.handleOf? x with
      | none => simp [known] at accepted
      | some i =>
          simp only [known] at accepted
          simp only [h.recognised x i known]
          exact accepted

end Catalog

end SkyCatalog
