import SkyCatalog.Catalog.History
import SkyCatalog.Execution
import SkyCatalog.Proofs.Catalog.Mirror

/-!
# Refinement — the catalog is its ledger

The indexed catalog and the plain ledger take the same histories. At every point they have
given the same outcomes, and whatever is asked of the catalog, the answer can be read off the
entries of the ledger. So no index ever drifts, neither in an accepted attempt nor in a refused
one.
-/

namespace SkyCatalog

namespace Catalog

/-! ## §1  What adding can do -/

/-- **What storing comes to**, the catalog that it leaves included: nothing is changed before all
checks are passed, and the changes together are one insertion. -/
theorem run_store (c : Catalog) (body : Body) (parent : Option (Held Body)) :
    (store body parent).run.run c =
      if (c.lookup? body.kind body.name).isSome then
        (.error (.duplicate body.kind body.name), c)
      else
        match c.parentHandle parent with
        | .ok p => (.ok c.size, c.insert body p)
        | .error fault => (.error fault, c) := by
  by_cases taken : (c.lookup? body.kind body.name).isSome = true
  · change StateT.run (ExceptT.run (if _ then _ else _)) c = _
    rw [if_pos taken, if_pos taken]
    rfl
  · change StateT.run (ExceptT.run (if _ then _ else _)) c = _
    rw [if_neg taken, if_neg taken]
    change StateT.run (ExceptT.run (ofExcept (c.parentHandle parent) >>= _)) c = _
    cases c.parentHandle parent with
    | error fault => rfl
    | ok p => cases p <;> rfl

/-- The three ends of an attempt: the name is taken, the parent is not stored, or the body goes
in at the next handle. Only the last one changes the catalog. -/
theorem put_cases (c : Catalog) (body : Body) (parent : Option (Held Body)) :
    (∃ h, c.lookup? body.kind body.name = some h ∧
      c.put body parent = (c, .error (.duplicate body.kind body.name))) ∨
    (c.lookup? body.kind body.name = none ∧ ∃ x, parent = some x ∧ c.handleOf? x = none ∧
      c.put body parent = (c, .error (.unknownParent x.value.kind x.value.name))) ∨
    (c.lookup? body.kind body.name = none ∧ ∃ p, c.parentHandle parent = .ok p ∧
      c.put body parent = (c.insert body p, .ok c.size)) := by
  unfold put
  rw [run_store]
  cases hn : c.lookup? body.kind body.name with
  | some h => exact .inl ⟨h, rfl, rfl⟩
  | none =>
      cases parent with
      | none => exact .inr (.inr ⟨rfl, none, rfl, rfl⟩)
      | some x =>
          cases hx : c.handleOf? x with
          | none => exact .inr (.inl ⟨rfl, x, rfl, hx, by simp [parentHandle, hx]⟩)
          | some p =>
              exact .inr (.inr ⟨rfl, some p, by simp [parentHandle, hx],
                by simp [parentHandle, hx]⟩)

theorem put_of_taken {c : Catalog} {body : Body} {i : Nat}
    (taken : c.lookup? body.kind body.name = some i) (parent : Option (Held Body)) :
    c.put body parent = (c, .error (.duplicate body.kind body.name)) := by
  unfold put
  rw [run_store, taken]
  rfl

theorem put_of_fresh {c : Catalog} {body : Body} {parent : Option (Held Body)} {p : Option Nat}
    (fresh : c.lookup? body.kind body.name = none) (under : c.parentHandle parent = .ok p) :
    c.put body parent = (c.insert body p, .ok c.size) := by
  unfold put
  rw [run_store, fresh, under]
  rfl

theorem add_eq_error_iff {c : Catalog} {body : Body} {parent : Option (Held Body)}
    {fault : AddFault} :
    c.add body parent = .error fault ↔ (c.put body parent).2 = .error fault := by
  unfold add
  cases outcome : (c.put body parent).2 <;> simp [Except.map, outcome]

/-- A parent that is accepted is stored. -/
theorem Mirrors.parentHandle_lt {c : Catalog} {l : Ledger} (h : c.Mirrors l)
    {parent : Option (Held Body)} {p : Option Nat} (accepted : c.parentHandle parent = .ok p) :
    ∀ i, p = some i → i < c.size := by
  rintro i rfl
  cases parent with
  | none => simp [parentHandle] at accepted
  | some x =>
      cases hx : c.handleOf? x with
      | none => simp [parentHandle, hx] at accepted
      | some j =>
          obtain rfl : j = i := by simpa [parentHandle, hx] using accepted
          obtain ⟨b, hb, -⟩ := h.handleOf?_eq_some_iff.mp hx
          exact lt_length_of_getElem? hb

/-- A name is taken on both sides or on neither. -/
theorem Mirrors.any_isFor {c : Catalog} {l : Ledger} (h : c.Mirrors l) (k : Kind) (n : String) :
    l.entries.any (Entry.isFor k n) = (c.lookup? k n).isSome := by
  rw [h.lookup, List.findIdx?_isSome]

/-- **An attempt made on both sides** has the same outcome, and the mirror is kept. -/
theorem Mirrors.step {c : Catalog} {l : Ledger} (h : c.Mirrors l) (a : Addition) :
    (c.put a.body a.parent).2 = (l.put a.body a.parent).2 ∧
      (c.put a.body a.parent).1.Mirrors (l.put a.body a.parent).1 := by
  obtain ⟨body, parent⟩ := a
  have taken := h.any_isFor body.kind body.name
  dsimp only
  rcases c.put_cases body parent with ⟨i, hn, he⟩ | ⟨hn, x, rfl, hx, he⟩ | ⟨hn, p, hp, he⟩
  · rw [hn, Option.isSome_some] at taken
    have refused : l.put body parent = (l, .error (.duplicate body.kind body.name)) := if_pos taken
    rw [he, refused]
    exact ⟨rfl, h⟩
  · rw [hn, Option.isSome_none] at taken
    have refused : l.put body (some x) =
        (l, .error (.unknownParent x.value.kind x.value.name)) := by
      simp [Ledger.put, taken, ← h.handleOf?_eq, hx]
    rw [he, refused]
    exact ⟨rfl, h⟩
  · rw [hn, Option.isSome_none] at taken
    have inserted := h.insert hn (h.parentHandle_lt hp)
    have accepted : l.put body parent = (l.append body p, .ok l.size) := by
      unfold Ledger.put
      rw [taken, if_neg Bool.false_ne_true]
      cases parent with
      | none =>
          obtain rfl : none = p := by simpa [parentHandle] using hp
          rfl
      | some x =>
          rw [parentHandle, h.handleOf?_eq] at hp
          cases hx : l.position? x with
          | none => simp [hx] at hp
          | some i =>
              obtain rfl : some i = p := by simpa [hx] using hp
              simp [hx]
    rw [he, accepted]
    exact ⟨by rw [h.size_eq], inserted⟩

/-- The same for a whole history. -/
theorem Mirrors.history {c : Catalog} {l : Ledger} (h : c.Mirrors l) (as : List Addition) :
    (attempts put c as).2 = (attempts Ledger.put l as).2 ∧
      (attempts put c as).1.Mirrors (attempts Ledger.put l as).1 := by
  induction as generalizing c l with
  | nil => exact ⟨rfl, h⟩
  | cons a as ih =>
      obtain ⟨outcome, next⟩ := h.step a
      obtain ⟨outcomes, last⟩ := ih next
      exact ⟨congrArg₂ List.cons outcome outcomes, last⟩

end Catalog

/-! ## §2  What the entries say -/

namespace Ledger

/-- No kind and name are those of two entries. -/
theorem Orderly.keys_nodup {l : Ledger} (h : l.Orderly) :
    (l.entries.map fun e => (e.body.kind, e.body.name)).Nodup := by
  rw [List.Nodup, List.pairwise_map, List.pairwise_iff_getElem]
  intro i j hi hj hij e
  obtain ⟨hkind, hname⟩ := Prod.mk.inj e
  have same := h.unique (List.getElem?_eq_getElem hi) (List.getElem?_eq_getElem hj) hkind hname
  exact absurd same (Nat.ne_of_lt hij)

/-- One entry at most for a kind and a name. -/
theorem Orderly.countP_isFor_le {l : Ledger} (h : l.Orderly) (k : Kind) (n : String) :
    l.entries.countP (Entry.isFor k n) ≤ 1 := by
  have once := List.nodup_iff_count_le_one.mp h.keys_nodup (k, n)
  rw [List.count, List.countP_map] at once
  refine le_of_eq_of_le (List.countP_congr ?_) once
  intro e _
  simp [Entry.isFor]

theorem mem_listNames {l : Ledger} {k : Kind} {n : String} :
    n ∈ l.listNames k ↔ ∃ e ∈ l.entries, e.body.kind = k ∧ e.body.name = n := by
  simp [listNames, and_assoc]

/-- The names of a kind ascend strictly: sorted, and none is there twice. -/
theorem Orderly.listNames_strict {l : Ledger} (h : l.Orderly) (k : Kind) :
    (l.listNames k).Pairwise (· < ·) := by
  have apart : ((l.entries.filter (·.body.kind == k)).map (·.body.name)).Nodup := by
    have keys := List.pairwise_map.mp h.keys_nodup
    refine List.pairwise_map.mpr ((keys.filter _).imp_of_mem ?_)
    intro d e hd he hne hname
    simp only [List.mem_filter, beq_iff_eq] at hd he
    exact hne (Prod.ext (hd.2.trans he.2.symm) hname)
  have nodup : (l.listNames k).Nodup := (List.mergeSort_perm ..).nodup_iff.mpr apart
  exact ((sorted_mergeSort _).and nodup).imp fun hlt => lt_of_le_of_ne hlt.1 hlt.2

/-- The kinds share the entries out among them. -/
theorem count_sum (l : Ledger) :
    l.count .galaxy + l.count .star + l.count .planet + l.count .moon = l.size := by
  obtain ⟨es⟩ := l
  simp only [count, size]
  induction es with
  | nil => rfl
  | cons e es ih =>
      simp only [List.countP_cons, List.length_cons]
      cases e.body.kind <;> simp <;> omega

end Ledger

/-! ## §3  The theorem -/

/-- A catalog answers every query from the entries of a ledger. -/
structure Catalog.AnswersFrom (c : Catalog) (l : Ledger) : Prop where
  size : c.size = l.size
  found : ∀ k n, c.find? k n = l.find? k n
  oneEntry : ∀ k n, l.entries.countP (Entry.isFor k n) ≤ 1
  names : ∀ k, c.listNames k = l.listNames k
  ascending : ∀ k, (c.listNames k).Pairwise (· < ·)
  named : ∀ k n, n ∈ c.listNames k ↔ ∃ e ∈ l.entries, e.body.kind = k ∧ e.body.name = n
  count : ∀ k, c.count k = l.count k
  counts : c.counts = ⟨l.count .galaxy, l.count .star, l.count .planet, l.count .moon⟩
  total : c.counts.galaxies + c.counts.stars + c.counts.planets + c.counts.moons = c.size
  handle : ∀ x, c.handleOf? x = l.position? x
  stored : ∀ x i, c.handleOf? x = some i ↔
    ∃ e, l.entries[i]? = some e ∧ Catalog.isStoredAt i e.body x = true
  children : ∀ x, c.children? x = l.children? x

theorem Catalog.Mirrors.answersFrom {c : Catalog} {l : Ledger} (h : c.Mirrors l) :
    c.AnswersFrom l := by
  have counts : c.counts = ⟨l.count .galaxy, l.count .star, l.count .planet, l.count .moon⟩ := by
    simp [Catalog.counts, h.count]
  refine
    { size := h.size_eq
      found := h.find?_eq
      oneEntry := h.orderly.countP_isFor_le
      names := h.names
      ascending := ?_
      named := ?_
      count := h.count
      counts := counts
      total := ?_
      handle := h.handleOf?_eq
      stored := ?_
      children := h.children?_eq }
  · intro k
    rw [h.names]
    exact h.orderly.listNames_strict k
  · intro k n
    rw [h.names]
    exact Ledger.mem_listNames
  · rw [counts, h.size_eq, ← l.count_sum]
    simp
  · intro x i
    rw [h.handleOf?_eq_some_iff]
    simp [h.getElem?_bodies]

/-- **The catalog refines its ledger.** After any history of attempts, with any bodies and any
parents, the outcomes so far are those of the ledger, handles among them, and every query is
answered from its entries: by the one entry for a kind and a name, by the names of a kind in
strictly ascending order, by the number of entries of a kind, by the position of the record that
a caller's body is, and by the entries that name this position as their parent's. -/
theorem catalog_refines_ledger (history : List Addition) :
    let (c, outcomes) := attempts Catalog.put .empty history
    let (l, expected) := attempts Ledger.put .empty history
    outcomes = expected ∧ c.AnswersFrom l := by
  obtain ⟨outcomes, h⟩ := Catalog.mirrors_empty.history history
  exact ⟨outcomes, h.answersFrom⟩

end SkyCatalog
