import Mathlib.Logic.Equiv.Basic
import SkyCatalog.Execution
import SkyCatalog.Proofs.Catalog.Extension

/-!
# Renaming — catalogs that differ in their handles only

A handle says how many bodies were there before, so bodies that are added in another order have
other handles. Nothing that is asked of a catalog depends on more than which handles are equal: two
catalogs that a renaming of handles carries into each other answer alike, and go on doing so when
a body is added to both.
-/

namespace SkyCatalog

open Equiv (Perm)

/-- The same value in a caller's hands, taken out at the renamed handle. -/
def Held.rename {α : Type} (π : Perm Nat) (x : Held α) : Held α := ⟨x.value, x.origin.map π⟩

namespace Catalog

/-- A catalog `c'` is a catalog `c` with its handles renamed. The next handle is the same for both,
and so are all that have not been given out. -/
structure Renamed (π : Perm Nat) (c c' : Catalog) : Prop where
  size : c'.size = c.size
  unused : ∀ i, c.size ≤ i → π i = i
  bodies : ∀ i, c'.bodies[π i]? = c.bodies[i]?
  index : ∀ k n, c'.lookup? k n = (c.lookup? k n).map π
  count : ∀ k, c'.count k = c.count k
  names : ∀ k, c'.listNames k = c.listNames k
  links : ∀ i, c'.childHandles? (π i) = (c.childHandles? i).map (List.map π)

variable {π : Perm Nat} {c c' : Catalog}

namespace Renamed

/-! ## §1  Questions -/

theorem held? (h : c.Renamed π c') (i : Nat) : c'.held? (π i) = (c.held? i).map (.rename π) := by
  unfold Catalog.held?
  rw [h.bodies, Option.map_map]
  rfl

theorem fetch? (h : c.Renamed π c') (k : Kind) (n : String) :
    c'.fetch? k n = (c.fetch? k n).map (.rename π) := by
  unfold Catalog.fetch?
  rw [h.index, Option.bind_map, Option.map_bind]
  congr 1
  funext i
  exact h.held? i

/-- A renaming tells handles apart, so a body is recognised at its new handle and nowhere else. -/
theorem isStoredAt_rename (π : Perm Nat) (i : Nat) (stored : Body) (x : Held Body) :
    isStoredAt (π i) stored (x.rename π) = isStoredAt i stored x := by
  obtain ⟨value, origin⟩ := x
  cases origin with
  | none => rfl
  | some j =>
      have apart : (some (π j) == some (π i)) = (some j == some i) := by
        rw [Bool.eq_iff_iff]
        simp
      simp only [isStoredAt, Held.rename, Option.map_some, apart]

theorem handleOf? (h : c.Renamed π c') (x : Held Body) :
    c'.handleOf? (x.rename π) = (c.handleOf? x).map π := by
  unfold Catalog.handleOf?
  show Option.filter _ (c'.lookup? x.value.kind x.value.name) = _
  rw [h.index]
  cases c.lookup? x.value.kind x.value.name with
  | none => rfl
  | some i =>
      simp only [Option.map_some, Option.filter_some, h.bodies]
      cases c.bodies[i]? with
      | none => rfl
      | some stored =>
          simp only [isStoredAt_rename]
          by_cases same : isStoredAt i stored x = true <;> simp [same]

theorem children? (h : c.Renamed π c') (x : Held Body) :
    c'.children? (x.rename π) = (c.children? x).map (List.map (.rename π)) := by
  unfold Catalog.children?
  rw [h.handleOf?, Option.bind_map, Option.map_bind]
  congr 1
  funext i
  simp only [Function.comp_apply, h.links, Option.map_map]
  congr 1
  funext hs
  simp only [Function.comp_apply, List.filterMap_map, List.map_filterMap, h.held?]

theorem childrenOfKind {α : Type} (h : c.Renamed π c') (view : Body → Option α) (x : Held Body) :
    c'.childrenOfKind view (x.rename π) = (c.childrenOfKind view x).map (.rename π) := by
  unfold Catalog.childrenOfKind
  rw [h.children?]
  cases c.children? x with
  | none => rfl
  | some ys =>
      simp only [Option.map_some, Option.getD_some, List.filterMap_map, List.map_filterMap]
      congr 1
      funext y
      simp only [Function.comp_apply, Held.filterMap, Held.rename, Option.map_map]
      rfl

/-- Whatever is made of the children, and does not depend on handles, comes out the same. -/
theorem map_childrenOfKind {α β : Type} (h : c.Renamed π c') (view : Body → Option α)
    (x : Held Body) {f f' : Held α → β} (same : ∀ y, f' (y.rename π) = f y) :
    (c'.childrenOfKind view (x.rename π)).map f' = (c.childrenOfKind view x).map f := by
  rw [h.childrenOfKind, List.map_map]
  apply List.map_congr_left
  intro y _
  exact same y

theorem planetBranch (h : c.Renamed π c') (p : Held Planet) :
    c'.planetBranch (p.rename π) = c.planetBranch p :=
  congrArg (PlanetBranch.mk p.value)
    (h.map_childrenOfKind Body.moon? (p.map .planet) fun _ => rfl)

theorem starBranch (h : c.Renamed π c') (s : Held Star) :
    c'.starBranch (s.rename π) = c.starBranch s :=
  congrArg (StarBranch.mk s.value)
    (h.map_childrenOfKind Body.planet? (s.map .star) h.planetBranch)

/-- **A report does not show handles.** -/
theorem report (h : c.Renamed π c') (g : Held Galaxy) : c'.report (g.rename π) = c.report g :=
  congrArg (GalaxyReport.mk g.value)
    (h.map_childrenOfKind Body.star? (g.map .galaxy) h.starBranch)

theorem counts (h : c.Renamed π c') : c'.counts = c.counts := by
  simp only [Catalog.counts, h.count]

theorem parentHandle (h : c.Renamed π c') (parent : Option (Held Body)) :
    c'.parentHandle (parent.map (.rename π)) = (c.parentHandle parent).map (Option.map π) := by
  cases parent with
  | none => rfl
  | some x =>
      simp only [Option.map_some, Catalog.parentHandle, h.handleOf?]
      cases c.handleOf? x <;> rfl

/-! ## §2  One body more -/

/-- A handle that was given out keeps within those that were given out. -/
theorem lt_size (h : c.Renamed π c') {i : Nat} (old : i < c.size) : π i < c'.size := by
  have stored := h.bodies i
  rw [List.getElem?_eq_getElem old] at stored
  exact lt_length_of_getElem? stored

/-- **A body that is added to both catalogs**, under corresponding parents, leaves them with the
same renaming: the new handle is the same for both. -/
theorem insert (h : c.Renamed π c') (b : Body) (p : Option Nat) :
    (c.insert b p).Renamed π (c'.insert b (p.map π)) where
  size := by rw [size_insert, size_insert, h.size]
  unused := by
    intro i later
    rw [size_insert] at later
    exact h.unused i (Nat.le_of_succ_le later)
  bodies := by
    intro i
    rcases Nat.lt_or_ge i c.size with old | new
    · rw [getElem?_bodies_insert old, getElem?_bodies_insert (h.lt_size old)]
      exact h.bodies i
    · have same : c'.bodies.length = c.bodies.length := h.size
      rw [h.unused i new]
      show (c'.bodies ++ [b])[i]? = (c.bodies ++ [b])[i]?
      rw [List.getElem?_append_right new, List.getElem?_append_right (same.le.trans new), same]
  index := by
    intro k n
    rw [lookup?_insert, lookup?_insert]
    by_cases own : k = b.kind ∧ n = b.name
    · rw [if_pos own, if_pos own, h.size, Option.map_some, h.unused _ (Nat.le_refl _)]
    · rw [if_neg own, if_neg own]
      exact h.index k n
  count := by
    intro k
    rw [count_insert, count_insert, h.count]
  names := by
    intro k
    rw [listNames_insert, listNames_insert, h.names]
  links := by
    intro i
    rw [childHandles?_insert, childHandles?_insert, h.links, h.size]
    by_cases under : p = some i
    · subst under
      rw [if_pos rfl, Option.map_some, if_pos rfl, Option.map_some, List.map_append,
        List.map_singleton, h.unused _ (Nat.le_refl _)]
      cases c.childHandles? i <;> rfl
    · have under' : p.map π ≠ some (π i) := by
        intro same
        obtain ⟨j, rfl, eq⟩ := Option.map_eq_some_iff.mp same
        exact under (congrArg some (π.injective eq))
      rw [if_neg under, if_neg under']

/-- An attempt is refused by both catalogs, for the same reason, or it succeeds in both. -/
theorem put (h : c.Renamed π c') (b : Body) (parent : Option (Held Body)) :
    (∃ fault, c.put b parent = (c, .error fault) ∧
      c'.put b (parent.map (.rename π)) = (c', .error fault)) ∨
    ∃ d d', c.put b parent = (d, .ok c.size) ∧
      c'.put b (parent.map (.rename π)) = (d', .ok c.size) ∧ d.Renamed π d' := by
  unfold Catalog.put
  rw [run_store, run_store, h.index, Option.isSome_map, h.parentHandle, h.size]
  by_cases taken : (c.lookup? b.kind b.name).isSome = true
  · rw [if_pos taken, if_pos taken]
    exact .inl ⟨_, rfl, rfl⟩
  · rw [if_neg taken, if_neg taken]
    cases c.parentHandle parent with
    | error fault => exact .inl ⟨fault, rfl, rfl⟩
    | ok p => exact .inr ⟨_, _, rfl, rfl, h.insert b p⟩

end Renamed

/-! ## §3  Two bodies in either order -/

/-- The two handles that come next, exchanged. -/
abbrev exchange (n : Nat) : Perm Nat := Equiv.swap n (n + 1)

theorem exchange_of_lt {n i : Nat} (old : i < n) : exchange n i = i :=
  Equiv.swap_apply_of_ne_of_ne (by omega) (by omega)

theorem exchange_of_gt {n i : Nat} (later : n + 2 ≤ i) : exchange n i = i :=
  Equiv.swap_apply_of_ne_of_ne (by omega) (by omega)

theorem eq_exchange_iff {n : Nat} {p : Option Nat} (old : ∀ i, p = some i → i < n) {i : Nat} :
    p = some (exchange n i) ↔ p = some i := by
  cases p with
  | none => simp
  | some j =>
      have fixed := exchange_of_lt (old j rfl)
      rw [Option.some.injEq, Option.some.injEq]
      constructor
      · intro same
        exact (exchange n).injective (fixed.trans same)
      · rintro rfl
        exact fixed.symm

namespace Mirrors

variable {l : Ledger}

/-- A child list belongs to a stored body and names stored bodies. -/
theorem lt_of_linked (h : c.Mirrors l) {i : Nat} {hs : List Nat}
    (linked : c.childHandles? i = some hs) : i < c.size ∧ ∀ j ∈ hs, j < c.size := by
  have listed : hs = l.childPositions i := by rw [← h.children i, linked, Option.getD_some]
  have within : ∀ j ∈ hs, i < j ∧ j < c.size := by
    intro j hj
    rw [listed] at hj
    obtain ⟨e, he, under⟩ := Ledger.mem_childPositions.mp hj
    exact ⟨h.orderly.earlier he under, h.size_eq ▸ lt_length_of_getElem? he⟩
  constructor
  · obtain ⟨j, hj⟩ := List.exists_mem_of_ne_nil hs fun e => h.someChild i (linked.trans (by rw [e]))
    exact Nat.lt_trans (within j hj).1 (within j hj).2
  · intro j hj
    exact (within j hj).2

/-- The links of old bodies hold old handles, which an exchange of the next two leaves alone. -/
theorem links_exchange (h : c.Mirrors l) (i : Nat) :
    c.childHandles? (exchange c.size i) =
      (c.childHandles? i).map (List.map (exchange c.size)) := by
  cases linked : c.childHandles? i with
  | some hs =>
      obtain ⟨old, within⟩ := h.lt_of_linked linked
      have same : hs.map (exchange c.size) = hs :=
        (List.map_congr_left fun j hj => exchange_of_lt (within j hj)).trans (List.map_id hs)
      rw [exchange_of_lt old, linked, Option.map_some, same]
  | none =>
      cases linked' : c.childHandles? (exchange c.size i) with
      | none => rfl
      | some hs =>
          have old := (h.lt_of_linked linked').1
          have same := exchange_of_lt old
          rw [Equiv.swap_apply_self] at same
          rw [← same, linked] at linked'
          cases linked'

/-- **Two bodies can be added in either order**, when they are not under one parent. The catalogs
differ in the handles of these two bodies. -/
theorem insert_comm (h : c.Mirrors l) {x y : Body} {p q : Option Nat}
    (distinct : ¬(x.kind = y.kind ∧ x.name = y.name)) (storedX : ∀ i, p = some i → i < c.size)
    (storedY : ∀ i, q = some i → i < c.size) (apart : ∀ i, p = some i → q ≠ some i) :
    ((c.insert x p).insert y q).Renamed (exchange c.size) ((c.insert y q).insert x p) where
  size := by simp only [size_insert]
  unused := by
    intro i later
    rw [size_insert, size_insert] at later
    exact exchange_of_gt later
  bodies := by
    intro i
    show ((c.bodies ++ [y]) ++ [x])[exchange c.size i]? = ((c.bodies ++ [x]) ++ [y])[i]?
    rcases Nat.lt_or_ge i c.size with old | new
    · rw [exchange_of_lt old, List.append_assoc, List.append_assoc,
        List.getElem?_append_left old, List.getElem?_append_left old]
    · obtain ⟨j, rfl⟩ := Nat.exists_eq_add_of_le new
      match j with
      | 0 => simp [exchange, size]
      | 1 => simp [exchange, size]
      | j + 2 =>
          rw [exchange_of_gt (Nat.add_le_add_left (Nat.le_add_left 2 j) c.size)]
          simp [size]
  index := by
    intro k n
    simp only [lookup?_insert, size_insert]
    by_cases isX : k = x.kind ∧ n = x.name
    · have notY : ¬(k = y.kind ∧ n = y.name) := by
        rintro ⟨rfl, rfl⟩
        exact distinct ⟨isX.1.symm, isX.2.symm⟩
      rw [if_pos isX, if_neg notY, if_pos isX, Option.map_some, Equiv.swap_apply_left]
    · by_cases isY : k = y.kind ∧ n = y.name
      · rw [if_neg isX, if_pos isY, if_pos isY, Option.map_some, Equiv.swap_apply_right]
      · rw [if_neg isX, if_neg isY, if_neg isY, if_neg isX]
        cases looked : c.lookup? k n with
        | none => rfl
        | some i =>
            obtain ⟨stored, at_i, -⟩ := h.lookup?_eq_some_iff.mp looked
            have old : i < c.size := lt_length_of_getElem? at_i
            rw [Option.map_some, exchange_of_lt old]
  count := by
    intro k
    simp only [count_insert]
    split <;> split <;> rfl
  names := by
    intro k
    have sorted : (c.listNames k).Pairwise (· ≤ ·) := by
      rw [h.names]
      exact sorted_mergeSort _
    simp only [listNames_insert]
    split <;> split
    · exact insertName_comm sorted ..
    all_goals rfl
  links := by
    intro i
    have linked := h.links_exchange i
    simp only [childHandles?_insert, size_insert, eq_exchange_iff storedX, eq_exchange_iff storedY,
      linked]
    by_cases underX : p = some i
    · rw [if_pos underX, if_neg (apart i underX), if_neg (apart i underX), if_pos underX]
      cases c.childHandles? i <;> simp [exchange]
    · rw [if_neg underX, if_neg underX]
      by_cases underY : q = some i
      · rw [if_pos underY, if_pos underY]
        cases c.childHandles? i <;> simp [exchange]
      · rw [if_neg underY, if_neg underY]

end Mirrors

end Catalog

end SkyCatalog
