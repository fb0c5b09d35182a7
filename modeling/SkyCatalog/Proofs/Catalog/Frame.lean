import SkyCatalog.Proofs.Catalog.Refinement

/-!
# Frames — what adding a body leaves alone

A body that is added shows in four places: at the end of the bodies, in the name index and among
the names of its own kind, and among the children of its parent. Everything else that can be asked
of the catalog is answered as before. A handle that was given out stays good, and whoever is not
the parent keeps exactly the children it had, the new body being born without any.
-/

namespace SkyCatalog

/-! ## §1  Children in the ledger -/

namespace Ledger

theorem childrenAt_append (l : Ledger) (body : Body) (parent : Option Nat) (i : Nat) :
    (l.append body parent).childrenAt i =
      if parent = some i then l.childrenAt i ++ [⟨body, some l.size⟩] else l.childrenAt i := by
  by_cases h : parent = some i
  · simp [childrenAt, append, size, List.zipIdx_append, h]
  · have h' : (parent == some i) = false := by simpa using h
    simp [childrenAt, append, List.zipIdx_append, h, h']

/-- Parents stand before their children, so nothing can stand under what is not there yet. -/
theorem Orderly.childrenAt_size {l : Ledger} (h : l.Orderly) : l.childrenAt l.size = [] := by
  rw [childrenAt_eq_nil_iff, List.eq_nil_iff_forall_not_mem]
  intro i hi
  obtain ⟨e, he, under⟩ := mem_childPositions.mp hi
  have before : l.size < i := h.earlier he under
  have within : i < l.size := lt_length_of_getElem? he
  exact Nat.lt_asymm before within

end Ledger

/-! ## §2  One body more -/

namespace Catalog

/-- A catalog `c'` is a catalog `c` with one body more, added under a parent handle if there is
one: what changed, and what did not. -/
structure Gains (c : Catalog) (b : Body) (p : Option Nat) (c' : Catalog) : Prop where
  bodies : c'.bodies = c.bodies ++ [b]
  fresh : c.lookup? b.kind b.name = none
  index : ∀ k n, c'.lookup? k n = if k = b.kind ∧ n = b.name then some c.size else c.lookup? k n
  count : ∀ k, c'.count k = if k = b.kind then c.count k + 1 else c.count k
  ownNames : (c'.listNames b.kind).Perm (b.name :: c.listNames b.kind)
  ascending : (c'.listNames b.kind).Pairwise (· < ·)
  otherNames : ∀ k, k ≠ b.kind → c'.listNames k = c.listNames k
  links : ∀ i, c'.childHandles? i =
    if p = some i then some ((c.childHandles? i).getD [] ++ [c.size]) else c.childHandles? i
  handles : ∀ x i, c.handleOf? x = some i → c'.handleOf? x = some i
  held : ∀ i, i < c.size → c'.held? i = c.held? i
  found : ∀ k n, ¬(k = b.kind ∧ n = b.name) → c'.find? k n = c.find? k n
  children : ∀ x, (∀ i, p = some i → c.handleOf? x ≠ some i) → c'.children? x = c.children? x

variable {c : Catalog} {l : Ledger} {b : Body} {p : Option Nat}

theorem getElem?_bodies_insert {i : Nat} (h : i < c.size) :
    (c.insert b p).bodies[i]? = c.bodies[i]? :=
  List.getElem?_append_left h

theorem size_insert (c : Catalog) (b : Body) (p : Option Nat) :
    (c.insert b p).size = c.size + 1 := by
  simp [size, insert]

theorem count_insert (c : Catalog) (b : Body) (p : Option Nat) (k : Kind) :
    (c.insert b p).count k = if k = b.kind then c.count k + 1 else c.count k := by
  by_cases hk : k = b.kind
  · rw [if_pos hk, hk]
    simp [count, insert]
  · rw [if_neg hk]
    simp [count, insert, ByKind.get_modify_of_ne _ hk]

theorem listNames_insert (c : Catalog) (b : Body) (p : Option Nat) (k : Kind) :
    (c.insert b p).listNames k =
      if k = b.kind then insertName b.name (c.listNames k) else c.listNames k := by
  by_cases hk : k = b.kind
  · rw [if_pos hk, hk]
    exact ByKind.get_modify_self ..
  · rw [if_neg hk]
    exact ByKind.get_modify_of_ne _ hk _

namespace Mirrors

/-- A handle that was given out stays good. -/
theorem handleOf?_insert (h : c.Mirrors l) (h' : (c.insert b p).Mirrors (l.append b p))
    {x : Held Body} {i : Nat} (known : c.handleOf? x = some i) :
    (c.insert b p).handleOf? x = some i := by
  obtain ⟨stored, at_i, same⟩ := h.handleOf?_eq_some_iff.mp known
  refine h'.handleOf?_eq_some_iff.mpr ⟨stored, ?_, same⟩
  rw [getElem?_bodies_insert (lt_length_of_getElem? at_i)]
  exact at_i

/-- Whoever is recognised only after an insertion is the body that was inserted. -/
theorem handleOf?_insert_new (h : c.Mirrors l) (h' : (c.insert b p).Mirrors (l.append b p))
    {x : Held Body} {i : Nat} (unknown : c.handleOf? x = none)
    (known : (c.insert b p).handleOf? x = some i) : i = c.size := by
  obtain ⟨stored, at_i, same⟩ := h'.handleOf?_eq_some_iff.mp known
  rcases getElem?_snoc.mp at_i with old | ⟨new, -⟩
  · have already := h.handleOf?_eq_some_iff.mpr ⟨stored, old, same⟩
    rw [unknown] at already
    cases already
  · exact new

theorem find?_insert (h : c.Mirrors l) {k : Kind} {n : String}
    (other : ¬(k = b.kind ∧ n = b.name)) : (c.insert b p).find? k n = c.find? k n := by
  unfold find?
  rw [lookup?_insert, if_neg other]
  cases looked : c.lookup? k n with
  | none => rfl
  | some i =>
      obtain ⟨stored, at_i, -⟩ := h.lookup?_eq_some_iff.mp looked
      exact getElem?_bodies_insert (lt_length_of_getElem? at_i)

/-- Whoever is not the parent keeps the children it had. -/
theorem children?_insert (h : c.Mirrors l) (h' : (c.insert b p).Mirrors (l.append b p))
    (stored : ∀ i, p = some i → i < c.size) {x : Held Body}
    (other : ∀ i, p = some i → c.handleOf? x ≠ some i) :
    (c.insert b p).children? x = c.children? x := by
  rw [h'.children?_eq, h.children?_eq]
  unfold Ledger.children?
  rw [← h'.handleOf?_eq, ← h.handleOf?_eq]
  cases known : c.handleOf? x with
  | some i =>
      have apart : p ≠ some i := fun hp => other i hp known
      rw [h.handleOf?_insert h' known, Option.map_some, Ledger.childrenAt_append, if_neg apart,
        Option.map_some]
  | none =>
      cases known' : (c.insert b p).handleOf? x with
      | none => rfl
      | some i =>
          -- this is the new body, and no parent handle points beyond the old ones
          obtain rfl := h.handleOf?_insert_new h' known known'
          have apart : p ≠ some c.size := fun hp => Nat.lt_irrefl _ (stored _ hp)
          rw [Option.map_some, Ledger.childrenAt_append, if_neg apart, h.size_eq,
            h.orderly.childrenAt_size]
          rfl

/-- The parent has the new body as its last child. -/
theorem children?_insert_parent (h : c.Mirrors l) (h' : (c.insert b p).Mirrors (l.append b p))
    {x : Held Body} {i : Nat} (under : p = some i) (known : c.handleOf? x = some i) :
    (c.insert b p).children? x = some ((c.children? x).getD [] ++ [⟨b, some c.size⟩]) := by
  have known' := h.handleOf?_insert h' known
  rw [h'.handleOf?_eq] at known'
  rw [h.handleOf?_eq] at known
  rw [h'.children?_eq, h.children?_eq, h.size_eq]
  unfold Ledger.children?
  rw [known, known', Option.map_some, Option.map_some, Ledger.childrenAt_append, if_pos under]
  cases l.childrenAt i <;> rfl

/-- **An insertion changes only what it must.** -/
theorem gains (h : c.Mirrors l) (fresh : c.lookup? b.kind b.name = none)
    (stored : ∀ i, p = some i → i < c.size) : c.Gains b p (c.insert b p) where
  bodies := rfl
  fresh := fresh
  index := c.lookup?_insert b p
  count := c.count_insert b p
  ownNames := by
    rw [listNames_insert, if_pos rfl]
    exact insertName_perm ..
  ascending := by
    have h' := h.insert fresh stored
    rw [h'.names]
    exact h'.orderly.listNames_strict b.kind
  otherNames k hk := (c.listNames_insert b p k).trans (if_neg hk)
  links := c.childHandles?_insert b p
  handles x i known := h.handleOf?_insert (h.insert fresh stored) known
  held i hi := congrArg (Option.map _) (getElem?_bodies_insert hi)
  found k n other := h.find?_insert other
  children x other := h.children?_insert (h.insert fresh stored) stored other

end Mirrors

/-! ## §3  Storing -/

/-- What storing leaves behind: after a fault the catalog as it was, and otherwise one body more,
under the handle of its parent. -/
theorem Mirrors.store_frame (h : c.Mirrors l) (body : Body) (parent : Option (Held Body)) :
    (∃ fault, (store body parent).run.run c = (.error fault, c)) ∨
    ∃ p c', c.parentHandle parent = .ok p ∧ (store body parent).run.run c = (.ok c.size, c') ∧
      c.Gains body p c' := by
  rw [run_store]
  cases free : c.lookup? body.kind body.name with
  | some i => exact .inl ⟨_, rfl⟩
  | none =>
      cases under : c.parentHandle parent with
      | error fault => exact .inl ⟨fault, rfl⟩
      | ok p => exact .inr ⟨p, _, rfl, rfl, h.gains free (h.parentHandle_lt under)⟩

end Catalog

end SkyCatalog
