import SkyCatalog.Proofs.Catalog.Indexes

/-!
# The mirror — the catalog beside the ledger

A catalog *mirrors* a ledger when each of its indexes answers what going through the entries
would answer. The relation holds of the empty stores and is kept by one insertion made in both,
so it holds after any history; what a query answers is then a fact about the entries alone.

Two things are always true of a ledger made by adding: no two entries share kind and name, and
a parent stands before its children. With the first, the entry for a kind and a name can be
spoken of by its position.
-/

namespace SkyCatalog

/-! ## §1  Ledgers -/

namespace Ledger

/-- The positions of the entries whose parent stands at a position. -/
def childPositions (l : Ledger) (position : Nat) : List Nat :=
  (l.entries.zipIdx.filter (·.1.parent == some position)).map (·.2)

/-- The entry that an entry was added under, if any. -/
def parentOf? (l : Ledger) (e : Entry) : Option Entry := e.parent.bind (l.entries[·]?)

/-- Every entry stands under an entry of the kind above its own, and a galaxy under none. Adding
does not see to this; whoever names the parents does. -/
def Ranked (l : Ledger) : Prop :=
  ∀ e ∈ l.entries, (l.parentOf? e).map (·.body.kind) = e.body.kind.parent?

/-- What adding keeps: one entry for a kind and a name, and parents before their children. -/
structure Orderly (l : Ledger) : Prop where
  unique : ∀ {i j : Nat} {d e : Entry}, l.entries[i]? = some d → l.entries[j]? = some e →
    d.body.kind = e.body.kind → d.body.name = e.body.name → i = j
  earlier : ∀ {i p : Nat} {e : Entry}, l.entries[i]? = some e → e.parent = some p → p < i

theorem orderly_empty : Orderly empty where
  unique h := by simp [empty] at h
  earlier h := by simp [empty] at h

theorem Orderly.append {l : Ledger} (h : l.Orderly) {body : Body} {parent : Option Nat}
    (fresh : l.entries.findIdx? (Entry.isFor body.kind body.name) = none)
    (stored : ∀ p, parent = some p → p < l.size) : (l.append body parent).Orderly where
  unique := by
    intro i j d e hd he hkind hname
    simp only [List.findIdx?_eq_none_iff, Entry.isFor, Bool.and_eq_false_imp, beq_iff_eq,
      beq_eq_false_iff_ne] at fresh
    rcases getElem?_snoc.mp hd with hd | ⟨rfl, rfl⟩ <;>
      rcases getElem?_snoc.mp he with he | ⟨rfl, rfl⟩
    · exact h.unique hd he hkind hname
    · exact absurd hname (fresh d (List.mem_of_getElem? hd) hkind)
    · exact absurd hname.symm (fresh e (List.mem_of_getElem? he) hkind.symm)
    · rfl
  earlier := by
    intro i e p he hp
    rcases getElem?_snoc.mp he with he | ⟨rfl, rfl⟩
    · exact h.earlier he hp
    · exact stored _ hp

/-- A later entry changes nothing for those whose parent stands before it. -/
theorem parentOf?_append {l : Ledger} {e : Entry} (body : Body) (parent : Option Nat)
    (stored : ∀ p, e.parent = some p → p < l.size) :
    (l.append body parent).parentOf? e = l.parentOf? e := by
  unfold parentOf?
  cases hp : e.parent with
  | none => rfl
  | some p => exact List.getElem?_append_left (stored p hp)

theorem mem_childPositions {l : Ledger} {p i : Nat} :
    i ∈ l.childPositions p ↔ ∃ e, l.entries[i]? = some e ∧ e.parent = some p := by
  simp [childPositions, List.mem_zipIdx_iff_getElem?]

theorem childPositions_append (l : Ledger) (body : Body) (parent : Option Nat) (p : Nat) :
    (l.append body parent).childPositions p =
      if parent = some p then l.childPositions p ++ [l.size] else l.childPositions p := by
  by_cases h : parent = some p
  · simp [childPositions, append, size, List.zipIdx_append, h]
  · have h' : (parent == some p) = false := by simpa using h
    simp [childPositions, append, List.zipIdx_append, h, h']

theorem childrenAt_eq_nil_iff (l : Ledger) (p : Nat) :
    l.childrenAt p = [] ↔ l.childPositions p = [] := by
  rw [childrenAt, childPositions, List.map_eq_nil_iff, List.map_eq_nil_iff]

/-- The position of the entry for a kind and a name. -/
theorem Orderly.findIdx?_eq_some_iff {l : Ledger} (h : l.Orderly) {k : Kind} {n : String}
    {i : Nat} : l.entries.findIdx? (Entry.isFor k n) = some i ↔
      ∃ e, l.entries[i]? = some e ∧ e.body.kind = k ∧ e.body.name = n := by
  rw [List.findIdx?_eq_some_iff_getElem]
  constructor
  · rintro ⟨hi, hfor, -⟩
    refine ⟨_, List.getElem?_eq_getElem hi, ?_⟩
    simpa [Entry.isFor] using hfor
  · rintro ⟨e, he, rfl, rfl⟩
    obtain ⟨hi, rfl⟩ := List.getElem?_eq_some_iff.mp he
    refine ⟨hi, by simp [Entry.isFor], ?_⟩
    intro j hj hfor
    simp only [Entry.isFor, Bool.and_eq_true, beq_iff_eq] at hfor
    have hd := List.getElem?_eq_getElem (Nat.lt_trans hj hi)
    exact absurd (h.unique hd he hfor.1 hfor.2) (Nat.ne_of_lt hj)

end Ledger

/-! ## §2  The relation -/

/-- The indexes of a catalog answer what the entries of an orderly ledger say. -/
structure Catalog.Mirrors (c : Catalog) (l : Ledger) : Prop where
  orderly : l.Orderly
  bodies : c.bodies = l.entries.map (·.body)
  lookup : ∀ k n, c.lookup? k n = l.entries.findIdx? (Entry.isFor k n)
  count : ∀ k, c.count k = l.count k
  names : ∀ k, c.listNames k = l.listNames k
  children : ∀ p, (c.childHandles? p).getD [] = l.childPositions p
  someChild : ∀ p, c.childHandles? p ≠ some []
  parents : (c.children.map (·.1)).Nodup

namespace Catalog

theorem mirrors_empty : Mirrors empty .empty where
  orderly := Ledger.orderly_empty
  bodies := rfl
  lookup k n := by simp [lookup?, empty, Ledger.empty]
  count k := by simp [count, empty, Ledger.count, Ledger.empty]
  names k := by simp [listNames, empty, Ledger.listNames, Ledger.empty]
  children p := by simp [childHandles?, empty, Ledger.childPositions, Ledger.empty]
  someChild p := by simp [childHandles?, empty]
  parents := List.nodup_nil

theorem lookup?_insert (c : Catalog) (body : Body) (parent : Option Nat) (k : Kind) (n : String) :
    (c.insert body parent).lookup? k n =
      if k = body.kind ∧ n = body.name then some c.size else c.lookup? k n := by
  by_cases hk : k = body.kind
  · subst hk
    by_cases hn : n = body.name
    · simp [lookup?, insert, hn]
    · have hn' : (n == body.name) = false := by simpa using hn
      simp [lookup?, insert, List.lookup_cons, hn, hn']
  · simp [lookup?, insert, ByKind.get_modify_of_ne _ hk, hk]

theorem childHandles?_insert (c : Catalog) (body : Body) (parent : Option Nat) (p : Nat) :
    (c.insert body parent).childHandles? p =
      if parent = some p then some ((c.childHandles? p).getD [] ++ [c.size])
      else c.childHandles? p := by
  cases parent with
  | none => simp [childHandles?, insert]
  | some q =>
      simp only [childHandles?, insert, lookup_linkChild, Option.some.injEq]
      by_cases h : p = q
      · simp [h]
      · rw [if_neg h, if_neg (Ne.symm h)]

namespace Mirrors

variable {c : Catalog} {l : Ledger}

theorem size_eq (h : c.Mirrors l) : c.size = l.size := by
  simp [size, Ledger.size, h.bodies]

theorem getElem?_bodies (h : c.Mirrors l) (i : Nat) :
    c.bodies[i]? = l.entries[i]?.map (·.body) := by
  rw [h.bodies, List.getElem?_map]

/-- **One insertion, made on both sides, keeps the mirror.** -/
theorem insert (h : c.Mirrors l) {body : Body} {parent : Option Nat}
    (fresh : c.lookup? body.kind body.name = none)
    (stored : ∀ p, parent = some p → p < c.size) :
    (c.insert body parent).Mirrors (l.append body parent) where
  orderly := h.orderly.append ((h.lookup _ _).symm.trans fresh) (h.size_eq ▸ stored)
  bodies := by simp [Catalog.insert, Ledger.append, h.bodies]
  lookup k n := by
    rw [lookup?_insert, Ledger.append, List.findIdx?_append, ← h.lookup k n]
    by_cases hkn : k = body.kind ∧ n = body.name
    · obtain ⟨rfl, rfl⟩ := hkn
      simp [fresh, Entry.isFor, h.size_eq, Ledger.size]
    · rw [if_neg hkn]
      have other : Entry.isFor k n ⟨body, parent⟩ = false := by
        simp only [Entry.isFor, Bool.and_eq_false_iff, beq_eq_false_iff_ne]
        exact (not_and_or.mp hkn).imp Ne.symm Ne.symm
      simp [other]
  count k := by
    have old := h.count k
    simp only [Catalog.count, Ledger.count] at old ⊢
    by_cases hk : k = body.kind
    · subst hk
      simp [Catalog.insert, Ledger.append, List.countP_append, old]
    · have hk' : (body.kind == k) = false := beq_false_of_ne (Ne.symm hk)
      simp [Catalog.insert, Ledger.append, List.countP_append, ByKind.get_modify_of_ne _ hk, old,
        hk']
  names k := by
    have old := h.names k
    simp only [listNames, Ledger.listNames] at old ⊢
    by_cases hk : k = body.kind
    · subst hk
      simp [Catalog.insert, Ledger.append, old, insertName_mergeSort]
    · have hk' : (body.kind == k) = false := beq_false_of_ne (Ne.symm hk)
      simp [Catalog.insert, Ledger.append, ByKind.get_modify_of_ne _ hk, old, hk']
  children p := by
    rw [childHandles?_insert, Ledger.childPositions_append, ← h.size_eq, ← h.children p]
    by_cases hp : parent = some p
    · rw [if_pos hp, if_pos hp, Option.getD_some]
    · rw [if_neg hp, if_neg hp]
  someChild p := by
    rw [childHandles?_insert]
    by_cases hp : parent = some p
    · rw [if_pos hp]
      simp
    · rw [if_neg hp]
      exact h.someChild p
  parents := by
    cases parent with
    | none => exact h.parents
    | some p => exact keys_linkChild_nodup h.parents

/-! ## §3  What the queries answer -/

theorem find?_eq (h : c.Mirrors l) (k : Kind) (n : String) : c.find? k n = l.find? k n := by
  unfold Catalog.find? Ledger.find?
  rw [h.lookup, List.find?_eq_bind_findIdx?_getElem?, Option.map_bind]
  congr 1
  funext i
  rw [h.getElem?_bodies]
  rfl

theorem handleOf?_eq (h : c.Mirrors l) (x : Held Body) : c.handleOf? x = l.position? x := by
  unfold Catalog.handleOf? Ledger.position?
  rw [h.lookup]
  congr 1
  funext i
  rw [h.getElem?_bodies]
  cases l.entries[i]? <;> rfl

theorem held?_eq (h : c.Mirrors l) (i : Nat) :
    c.held? i = l.entries[i]?.map fun e => ⟨e.body, some i⟩ := by
  unfold held?
  rw [h.getElem?_bodies, Option.map_map]
  rfl

theorem filterMap_childPositions (h : c.Mirrors l) (p : Nat) :
    (l.childPositions p).filterMap c.held? = l.childrenAt p := by
  unfold Ledger.childPositions Ledger.childrenAt
  rw [List.filterMap_map, ← List.filterMap_eq_map]
  apply List.filterMap_congr
  rintro ⟨e, i⟩ hm
  have he := List.mem_zipIdx_iff_getElem?.mp (List.mem_of_mem_filter hm)
  simp only [Function.comp_apply, h.held?_eq, he, Option.map_some]

theorem children?_eq (h : c.Mirrors l) (x : Held Body) : c.children? x = l.children? x := by
  unfold Catalog.children? Ledger.children?
  rw [h.handleOf?_eq]
  cases l.position? x with
  | none => rfl
  | some p =>
      have listed := h.filterMap_childPositions p
      rw [Option.bind_some, Option.map_some, ← listed, ← h.children p]
      cases hs : c.childHandles? p with
      | none => rfl
      | some hs' =>
          have none_listed := l.childrenAt_eq_nil_iff p
          rw [← listed, ← h.children p, hs] at none_listed
          have some_listed : hs'.filterMap c.held? ≠ [] := fun e =>
            h.someChild p (hs.trans (congrArg some (none_listed.mp e)))
          simp [Option.filter, some_listed]

/-- A handle is looked up by the kind and the name of the body that it stands for. -/
theorem lookup?_eq_some_iff (h : c.Mirrors l) {k : Kind} {n : String} {i : Nat} :
    c.lookup? k n = some i ↔ ∃ b, c.bodies[i]? = some b ∧ b.kind = k ∧ b.name = n := by
  rw [h.lookup, h.orderly.findIdx?_eq_some_iff]
  simp [h.getElem?_bodies]

/-- A name under which nothing is found is free. -/
theorem lookup?_eq_none (h : c.Mirrors l) {k : Kind} {n : String} (free : c.find? k n = none) :
    c.lookup? k n = none := by
  cases looked : c.lookup? k n with
  | none => rfl
  | some i =>
      obtain ⟨stored, at_i, -⟩ := h.lookup?_eq_some_iff.mp looked
      simp [Catalog.find?, looked, at_i] at free

theorem fetch?_eq_some_iff (h : c.Mirrors l) {k : Kind} {n : String} {x : Held Body} :
    c.fetch? k n = some x ↔
      ∃ i, x.origin = some i ∧ c.bodies[i]? = some x.value ∧ x.value.kind = k ∧
        x.value.name = n := by
  unfold Catalog.fetch?
  rw [Option.bind_eq_some_iff]
  constructor
  · rintro ⟨i, hi, hx⟩
    obtain ⟨b, hb, hk, hn⟩ := h.lookup?_eq_some_iff.mp hi
    rw [held?, hb, Option.map_some] at hx
    obtain rfl := Option.some.inj hx
    exact ⟨i, rfl, hb, hk, hn⟩
  · rintro ⟨i, hi, hb, hk, hn⟩
    refine ⟨i, h.lookup?_eq_some_iff.mpr ⟨_, hb, hk, hn⟩, ?_⟩
    rw [held?, hb, Option.map_some, ← hi]

theorem kind_name_of_isStoredAt {i : Nat} {b : Body} {x : Held Body}
    (h : isStoredAt i b x = true) : b.kind = x.value.kind ∧ b.name = x.value.name := by
  simp only [isStoredAt, Bool.or_eq_true, Bool.and_eq_true, beq_iff_eq] at h
  rcases h with ⟨-, rfl⟩ | h
  · exact ⟨rfl, rfl⟩
  · exact ⟨Body.kind_eq_of_agrees h, Body.name_eq_of_agrees h⟩

/-- A caller's body has the handle of the stored record that it is. -/
theorem handleOf?_eq_some_iff (h : c.Mirrors l) {x : Held Body} {i : Nat} :
    c.handleOf? x = some i ↔ ∃ b, c.bodies[i]? = some b ∧ isStoredAt i b x = true := by
  unfold Catalog.handleOf?
  rw [Option.filter_eq_some_iff]
  constructor
  · rintro ⟨hi, hx⟩
    obtain ⟨b, hb, -, -⟩ := h.lookup?_eq_some_iff.mp hi
    rw [hb] at hx
    exact ⟨b, hb, hx⟩
  · rintro ⟨b, hb, hx⟩
    obtain ⟨hk, hn⟩ := kind_name_of_isStoredAt hx
    refine ⟨h.lookup?_eq_some_iff.mpr ⟨b, hb, hk, hn⟩, ?_⟩
    rw [hb]
    exact hx

/-- What is taken out of a catalog is recognised by it, `nan` fields or not. -/
theorem handleOf?_of_held (h : c.Mirrors l) {x : Held Body} {i : Nat}
    (origin : x.origin = some i) (stored : c.bodies[i]? = some x.value) :
    c.handleOf? x = some i := by
  rw [h.handleOf?_eq_some_iff]
  exact ⟨x.value, stored, by simp [isStoredAt, origin]⟩

end Mirrors

end Catalog

end SkyCatalog
