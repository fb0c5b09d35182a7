import Mathlib.Data.List.Perm.Basic
import SkyCatalog.Proofs.Catalog.Mirror

/-!
# Levels — the ledger as a forest, kind by kind

When every parent is of the kind above, the entries of one kind are all the children of the
entries of the kind above, each of them once. Walking down from the galaxies therefore meets
every entry exactly once: the walk changes the order of the ledger and nothing else.
-/

namespace SkyCatalog

/-! ## §1  Sorting out by a key -/

/-- Collecting the members of a list key by key leaves out only those with another key. -/
theorem flatMap_filter_perm {α β : Type} [BEq β] [LawfulBEq β] (f : α → β) (xs : List α)
    {ks : List β} (apart : ks.Nodup) :
    (ks.flatMap fun k => xs.filter (f · == k)).Perm (xs.filter fun x => ks.contains (f x)) := by
  induction ks with
  | nil => simp
  | cons k ks ih =>
      obtain ⟨fresh, apart⟩ := List.nodup_cons.mp apart
      have first : (xs.filter fun x => (k :: ks).contains (f x)).filter (f · == k) =
          xs.filter (f · == k) := by
        rw [List.filter_filter]
        refine List.filter_congr ?_
        intro x _
        by_cases hx : f x = k <;> simp [hx]
      have rest : (xs.filter fun x => (k :: ks).contains (f x)).filter (!f · == k) =
          xs.filter fun x => ks.contains (f x) := by
        rw [List.filter_filter]
        refine List.filter_congr ?_
        intro x _
        by_cases hx : f x = k
        · simp [hx, fresh]
        · simp [hx]
      have parted := List.filter_append_perm (f · == k)
        (xs.filter fun x => (k :: ks).contains (f x))
      rw [first, rest] at parted
      rw [List.flatMap_cons]
      exact ((ih apart).append_left _).trans parted

/-- No two kinds stand under the same one. -/
theorem Kind.eq_of_parent? {j k m : Kind} (hj : j.parent? = some m) (hk : k.parent? = some m) :
    j = k := by
  cases j <;> cases k <;> cases m <;> simp_all [parent?]

namespace Ledger

/-! ## §2  Levels -/

/-- An entry with its position, as a caller holds it. -/
def hold (e : Entry × Nat) : Held Body := ⟨e.1.body, some e.2⟩

/-- The entries of a kind, as a caller holds them. -/
def level (l : Ledger) (k : Kind) : List (Held Body) :=
  (l.entries.zipIdx.filter (·.1.body.kind == k)).map hold

/-- The positions of the entries of a kind. -/
def positions (l : Ledger) (k : Kind) : List Nat :=
  (l.entries.zipIdx.filter (·.1.body.kind == k)).map (·.2)

/-- The entries under the one that a caller holds. -/
def below (l : Ledger) (x : Held Body) : List (Held Body) := x.origin.elim [] l.childrenAt

variable {l : Ledger}

theorem mem_level {k : Kind} {x : Held Body} : x ∈ l.level k ↔
    ∃ i e, l.entries[i]? = some e ∧ e.body.kind = k ∧ x = ⟨e.body, some i⟩ := by
  simp only [level, List.mem_map, List.mem_filter, Prod.exists, List.mem_zipIdx_iff_getElem?,
    beq_iff_eq, hold]
  constructor
  · rintro ⟨e, i, ⟨he, hk⟩, rfl⟩
    exact ⟨i, e, he, hk, rfl⟩
  · rintro ⟨i, e, he, hk, rfl⟩
    exact ⟨e, i, ⟨he, hk⟩, rfl⟩

theorem mem_positions {k : Kind} {p : Nat} : p ∈ l.positions k ↔
    ∃ e, l.entries[p]? = some e ∧ e.body.kind = k := by
  simp [positions, List.mem_zipIdx_iff_getElem?]

/-- Positions are never met twice in going through the entries. -/
theorem filter_positions_nodup (f : Entry × Nat → Bool) :
    ((l.entries.zipIdx.filter f).map (·.2)).Nodup := by
  refine List.Nodup.sublist (List.filter_sublist.map _) ?_
  rw [List.zipIdx_map_snd]
  exact List.nodup_range' ..

/-- Positions ascend in going through the entries. -/
theorem zipIdx_ascending (l : Ledger) : l.entries.zipIdx.Pairwise (·.2 < ·.2) := by
  rw [← List.pairwise_map (f := Prod.snd) (R := (· < ·)), List.zipIdx_map_snd]
  exact List.pairwise_lt_range'

theorem childPositions_ascending (l : Ledger) (p : Nat) :
    (l.childPositions p).Pairwise (· < ·) :=
  List.pairwise_map.mpr (l.zipIdx_ascending.filter _)

theorem mem_childrenAt {p : Nat} {x : Held Body} : x ∈ l.childrenAt p ↔
    ∃ i e, l.entries[i]? = some e ∧ e.parent = some p ∧ x = ⟨e.body, some i⟩ := by
  simp only [childrenAt, List.mem_map, List.mem_filter, Prod.exists, List.mem_zipIdx_iff_getElem?,
    beq_iff_eq]
  constructor
  · rintro ⟨e, i, ⟨he, hp⟩, rfl⟩
    exact ⟨i, e, he, hp, rfl⟩
  · rintro ⟨i, e, he, hp, rfl⟩
    exact ⟨e, i, ⟨he, hp⟩, rfl⟩

theorem Orderly.parent_stored (h : l.Orderly) {i p : Nat} {e : Entry}
    (he : l.entries[i]? = some e) (hp : e.parent = some p) : ∃ d, l.entries[p]? = some d :=
  ⟨_, List.getElem?_eq_getElem (Nat.lt_trans (h.earlier he hp) (lt_length_of_getElem? he))⟩

theorem Ranked.kind_parent? (ranked : l.Ranked) {i p : Nat} {e d : Entry}
    (he : l.entries[i]? = some e) (hp : e.parent = some p) (hd : l.entries[p]? = some d) :
    e.body.kind.parent? = some d.body.kind := by
  have kinds := ranked e (List.mem_of_getElem? he)
  simp only [parentOf?, hp, Option.bind_some, hd, Option.map_some] at kinds
  exact kinds.symm

/-- The galaxies are the entries without a parent. -/
theorem Ranked.parent_eq_none_iff (ranked : l.Ranked) (h : l.Orderly) {i : Nat} {e : Entry}
    (he : l.entries[i]? = some e) : e.parent = none ↔ e.body.kind = .galaxy := by
  constructor
  · intro hp
    have kinds := ranked e (List.mem_of_getElem? he)
    rw [parentOf?, hp] at kinds
    cases hk : e.body.kind with
    | galaxy => rfl
    | _ => rw [hk] at kinds; cases kinds
  · intro hk
    cases hp : e.parent with
    | none => rfl
    | some p =>
        obtain ⟨d, hd⟩ := h.parent_stored he hp
        have kinds := ranked.kind_parent? he hp hd
        rw [hk] at kinds
        cases kinds

/-- What stands above an entry that is no galaxy. -/
theorem Ranked.above (ranked : l.Ranked) {i : Nat} {e : Entry} (he : l.entries[i]? = some e)
    {k : Kind} (hk : e.body.kind.parent? = some k) :
    ∃ p d, e.parent = some p ∧ l.entries[p]? = some d ∧ d.body.kind = k := by
  have kinds := ranked e (List.mem_of_getElem? he)
  rw [hk] at kinds
  obtain ⟨d, hd, rfl⟩ := Option.map_eq_some_iff.mp kinds
  obtain ⟨p, hp, hd⟩ := Option.bind_eq_some_iff.mp hd
  exact ⟨p, d, hp, hd, rfl⟩

/-- An entry is of a kind exactly when its parent is of the kind above. -/
theorem Ranked.kind_iff (ranked : l.Ranked) {i : Nat} {e : Entry} (he : l.entries[i]? = some e)
    {j k : Kind} (above : j.parent? = some k) :
    e.body.kind = j ↔ ∃ p d, e.parent = some p ∧ l.entries[p]? = some d ∧ d.body.kind = k := by
  constructor
  · rintro rfl
    exact ranked.above he above
  · rintro ⟨p, d, hp, hd, rfl⟩
    exact Kind.eq_of_parent? (ranked.kind_parent? he hp hd) above

/-- **The children of one level are the next level**, each of them once. -/
theorem Ranked.level_perm (ranked : l.Ranked) {j k : Kind} (above : j.parent? = some k) :
    ((l.level k).flatMap l.below).Perm (l.level j) := by
  -- the positions of the level above are the keys by which the level below is sorted out
  have apart : ((l.positions k).map some).Nodup :=
    (filter_positions_nodup _).map (Option.some_injective _)
  have walk : (l.level k).flatMap l.below = (((l.positions k).map some).flatMap fun p =>
      l.entries.zipIdx.filter (·.1.parent == p)).map hold := by
    simp only [level, positions, List.map_flatMap, List.flatMap_map]
    rfl
  have next : (l.entries.zipIdx.filter fun e => ((l.positions k).map some).contains e.1.parent) =
      l.entries.zipIdx.filter (·.1.body.kind == j) := by
    refine List.filter_congr ?_
    rintro ⟨e, i⟩ he
    have he := List.mem_zipIdx_iff_getElem?.mp he
    have mem : e.parent ∈ (l.positions k).map some ↔ e.body.kind = j := by
      rw [ranked.kind_iff he above]
      simp only [List.mem_map, mem_positions]
      constructor
      · rintro ⟨p, ⟨d, hd, hk⟩, hp⟩
        exact ⟨p, d, hp.symm, hd, hk⟩
      · rintro ⟨p, d, hp, hd, hk⟩
        exact ⟨p, ⟨d, hd, hk⟩, hp.symm⟩
    rw [Bool.eq_iff_iff, List.contains_iff_mem, beq_iff_eq]
    exact mem
  rw [walk, level, ← next]
  exact (flatMap_filter_perm (fun e : Entry × Nat => e.1.parent) _ apart).map hold

/-! ## §3  Branches -/

/-- The bodies of a branch from the one that a caller holds, so many levels down. -/
def branch (l : Ledger) : Nat → Held Body → List Body
  | 0, x => [x.value]
  | n + 1, x => x.value :: (l.below x).flatMap (l.branch n)

theorem flatMap_branch_zero (xs : List (Held Body)) :
    xs.flatMap (l.branch 0) = xs.map (·.value) := by
  rw [← List.flatMap_singleton' (xs.map _), List.flatMap_map]
  rfl

/-- The branches of a level begin with this level and go on with those of the next one. -/
theorem Ranked.branch_perm (ranked : l.Ranked) {j k : Kind} (above : j.parent? = some k) (n : Nat) :
    ((l.level k).flatMap (l.branch (n + 1))).Perm
      ((l.level k).map (·.value) ++ (l.level j).flatMap (l.branch n)) := by
  have parted := List.map_append_flatMap_perm (l.level k) (·.value)
    fun x => (l.below x).flatMap (l.branch n)
  rw [← List.flatMap_assoc] at parted
  exact parted.symm.trans (((ranked.level_perm above).flatMap_right _).append_left _)

/-- The levels share the entries out among them. -/
theorem levels_perm (l : Ledger) :
    (Kind.all.flatMap fun k => (l.level k).map (·.value)).Perm (l.entries.map (·.body)) := by
  have apart : Kind.all.Nodup := by decide
  have parted := flatMap_filter_perm (fun e : Entry × Nat => e.1.body.kind) l.entries.zipIdx apart
  have all : (l.entries.zipIdx.filter fun e => Kind.all.contains e.1.body.kind) =
      l.entries.zipIdx := by
    refine List.filter_eq_self.mpr ?_
    intro e _
    exact List.contains_iff_mem.mpr (Kind.mem_all _)
  rw [all] at parted
  have bodies := parted.map fun e => e.1.body
  rw [List.map_flatMap] at bodies
  have entries : l.entries.zipIdx.map (·.1.body) = l.entries.map (·.body) := by
    rw [← List.zipIdx_map_fst 0 l.entries, List.map_map, List.zipIdx_map_fst]
    rfl
  rw [entries] at bodies
  simpa [level, hold, Function.comp_def] using bodies

/-- **The branches of all galaxies are the whole ledger**, every body as often as it is there. -/
theorem Ranked.branches_perm (ranked : l.Ranked) :
    ((l.level .galaxy).flatMap (l.branch 3)).Perm (l.entries.map (·.body)) := by
  have stars := ranked.branch_perm (j := .star) (k := .galaxy) rfl 2
  have planets := ranked.branch_perm (j := .planet) (k := .star) rfl 1
  have moons := ranked.branch_perm (j := .moon) (k := .planet) rfl 0
  rw [flatMap_branch_zero] at moons
  refine (stars.trans ((planets.trans (moons.append_left _)).append_left _)).trans ?_
  simpa [Kind.all] using l.levels_perm

end Ledger

/-! ## §4  Links -/

namespace Catalog.Mirrors

variable {c : Catalog} {l : Ledger}

/-- The children of a body that is recognised are those at its handle. -/
theorem getD_children?_of_handleOf? (h : c.Mirrors l) {x : Held Body} {p : Nat}
    (known : c.handleOf? x = some p) : (c.children? x).getD [] = l.childrenAt p := by
  rw [h.handleOf?_eq] at known
  rw [h.children?_eq, Ledger.children?, known, Option.map_some]
  cases l.childrenAt p <;> rfl

/-- A child list holds the positions of the entries under its key. -/
theorem childPositions_of_mem (h : c.Mirrors l) {p : Nat} {hs : List Nat}
    (linked : (p, hs) ∈ c.children) : hs = l.childPositions p := by
  have found : c.childHandles? p = some hs := (lookup_eq_some_iff_mem h.parents).mpr linked
  rw [← h.children p, found, Option.getD_some]

/-- There is a child list for every position that an entry stands under. -/
theorem mem_parents (h : c.Mirrors l) {i p : Nat} {e : Entry} (he : l.entries[i]? = some e)
    (hp : e.parent = some p) : p ∈ c.children.map (·.1) := by
  have child : i ∈ l.childPositions p := Ledger.mem_childPositions.mpr ⟨e, he, hp⟩
  rw [← h.children p] at child
  cases found : c.childHandles? p with
  | none => simp [found] at child
  | some hs => exact List.mem_map.mpr ⟨(p, hs), (lookup_eq_some_iff_mem h.parents).mp found, rfl⟩

/-- **All child lists together** hold every entry that has a parent, each of them once. -/
theorem links_perm (h : c.Mirrors l) : (c.children.flatMap (·.2)).Perm
    ((l.entries.zipIdx.filter (·.1.parent.isSome)).map (·.2)) := by
  -- the keys of the child lists are the parents that occur, and each list is sorted out by its key
  have apart : ((c.children.map (·.1)).map some).Nodup :=
    h.parents.map (Option.some_injective _)
  have lists : c.children.flatMap (·.2) = (((c.children.map (·.1)).map some).flatMap fun p =>
      l.entries.zipIdx.filter (·.1.parent == p)).map (·.2) := by
    rw [List.map_map, List.flatMap_map, List.map_flatMap]
    refine List.flatMap_congr ?_
    rintro ⟨p, hs⟩ linked
    exact h.childPositions_of_mem linked
  have all : (l.entries.zipIdx.filter fun e =>
      ((c.children.map (·.1)).map some).contains e.1.parent) =
      l.entries.zipIdx.filter (·.1.parent.isSome) := by
    refine List.filter_congr ?_
    rintro ⟨e, i⟩ he
    have he := List.mem_zipIdx_iff_getElem?.mp he
    rw [Bool.eq_iff_iff, List.contains_iff_mem]
    cases hp : e.parent with
    | none => simp
    | some p =>
        have key := h.mem_parents he hp
        simpa using key
  rw [lists, ← all]
  exact (flatMap_filter_perm (fun e : Entry × Nat => e.1.parent) _ apart).map _

/-- A position is in the child lists once or not at all, as its entry has a parent or not. -/
theorem count_links (h : c.Mirrors l) {i : Nat} {e : Entry} (he : l.entries[i]? = some e) :
    (c.children.flatMap (·.2)).count i = if e.parent.isSome then 1 else 0 := by
  rw [h.links_perm.count_eq, (Ledger.filter_positions_nodup _).count]
  refine if_congr ?_ rfl rfl
  simp [List.mem_zipIdx_iff_getElem?, he]

end Catalog.Mirrors

end SkyCatalog
