import Mathlib.Data.List.Pairwise
import Mathlib.Logic.Relation
import SkyCatalog.Proofs.Catalog.Extension
import SkyCatalog.Proofs.Catalog.Levels

/-!
# Forest — the links between handles

The catalog asks nothing of the kind of a parent, and finds it by its value. All the same its links
are those of a forest, because a parent has to be there first: handles are given out in ascending
order, so every link leads from a smaller handle to a larger one, and a new handle is linked once,
when it is given out. Child lists are only ever continued.
-/

namespace SkyCatalog

open Relation (TransGen)

namespace Catalog

variable {c c' c'' : Catalog} {l : Ledger} {x : Held Body} {p q i : Nat} {hs : List Nat}

/-! ## §1  Links -/

/-- A handle stands in the child list of another one. -/
def Links (c : Catalog) (p i : Nat) : Prop := ∃ hs, (p, hs) ∈ c.children ∧ i ∈ hs

/-- The child lists of a catalog: one for each key, none empty, each ascending, from handles to
larger handles that are given out, and no handle twice in all of them. -/
structure Forest (c : Catalog) : Prop where
  keys : (c.children.map (·.1)).Nodup
  nonempty : ∀ p hs, (p, hs) ∈ c.children → hs ≠ []
  ascending : ∀ p hs, (p, hs) ∈ c.children → hs.Pairwise (· < ·)
  upward : ∀ p hs, (p, hs) ∈ c.children → ∀ i ∈ hs, p < i ∧ i < c.size
  once : (c.children.flatMap (·.2)).Nodup

/-- The links are those from the parents of the ledger to the entries under them. -/
theorem Mirrors.links_iff (h : c.Mirrors l) :
    c.Links p i ↔ ∃ e, l.entries[i]? = some e ∧ e.parent = some p := by
  constructor
  · rintro ⟨hs, linked, hi⟩
    rw [h.childPositions_of_mem linked] at hi
    exact Ledger.mem_childPositions.mp hi
  · rintro ⟨e, he, under⟩
    obtain ⟨⟨p, hs⟩, linked, rfl⟩ := List.mem_map.mp (h.mem_parents he under)
    refine ⟨hs, linked, ?_⟩
    rw [h.childPositions_of_mem linked]
    exact Ledger.mem_childPositions.mpr ⟨e, he, under⟩

/-- **The links of a catalog form a forest.** -/
theorem Mirrors.forest (h : c.Mirrors l) : c.Forest where
  keys := h.parents
  nonempty := by
    rintro p hs linked rfl
    exact h.someChild p ((lookup_eq_some_iff_mem h.parents).mpr linked)
  ascending := by
    intro p hs linked
    rw [h.childPositions_of_mem linked]
    exact l.childPositions_ascending p
  upward := by
    intro p hs linked i hi
    obtain ⟨e, he, under⟩ := h.links_iff.mp ⟨hs, linked, hi⟩
    exact ⟨h.orderly.earlier he under, h.size_eq ▸ lt_length_of_getElem? he⟩
  once := by
    rw [h.links_perm.nodup_iff]
    exact Ledger.filter_positions_nodup _

namespace Forest

/-- A key is a handle that was given out, as it is smaller than a child. -/
theorem key_lt (h : c.Forest) (linked : (p, hs) ∈ c.children) : p < c.size := by
  obtain ⟨i, hi⟩ := List.exists_mem_of_ne_nil hs (h.nonempty p hs linked)
  obtain ⟨above, below⟩ := h.upward p hs linked i hi
  exact Nat.lt_trans above below

theorem lt_of_path (h : c.Forest) (path : TransGen c.Links p i) : p < i := by
  induction path with
  | single link =>
      obtain ⟨hs, linked, hi⟩ := link
      exact (h.upward _ hs linked _ hi).1
  | tail _ link ih =>
      obtain ⟨hs, linked, hi⟩ := link
      exact Nat.lt_trans ih (h.upward _ hs linked _ hi).1

/-- Two child lists with a common member are one. -/
theorem parent_unique (h : c.Forest) (link : c.Links p i) (link' : c.Links q i) : p = q := by
  obtain ⟨hs, linked, hi⟩ := link
  obtain ⟨ks, linked', hi'⟩ := link'
  by_contra different
  have apart := (List.nodup_flatMap.mp h.once).2
  have : Std.Symm (Function.onFun List.Disjoint fun link : Nat × List Nat => link.2) :=
    ⟨fun _ _ => List.disjoint_symm⟩
  exact apart.forall linked linked' (fun same => different (congrArg Prod.fst same)) hi hi'

end Forest

/-! ## §2  Children of children -/

/-- What is left after asking so many times for the children, of a body and then of each body that
was answered. -/
def generation (c : Catalog) : Nat → Held Body → List (Held Body)
  | 0, x => [x]
  | n + 1, x => ((c.children? x).getD []).flatMap (c.generation n)

/-- A child is recognised at a handle that its parent's handle is linked to. -/
theorem Mirrors.link_of_child (h : c.Mirrors l) {y : Held Body}
    (child : y ∈ (c.children? x).getD []) :
    ∃ p i, c.handleOf? x = some p ∧ c.handleOf? y = some i ∧ c.Links p i := by
  cases known : c.handleOf? x with
  | none => simp [children?, known] at child
  | some p =>
      rw [h.getD_children?_of_handleOf? known] at child
      obtain ⟨i, e, he, under, rfl⟩ := Ledger.mem_childrenAt.mp child
      have stored : c.bodies[i]? = some e.body := by rw [h.getElem?_bodies, he, Option.map_some]
      exact ⟨p, i, rfl, h.handleOf?_of_held rfl stored, h.links_iff.mpr ⟨e, he, under⟩⟩

/-- Handles only grow on the way down, so there are no more generations than handles left. -/
theorem Mirrors.generation_eq_nil_of_handleOf? (h : c.Mirrors l) {n : Nat}
    (known : c.handleOf? x = some p) (deep : c.size ≤ p + n) : c.generation n x = [] := by
  induction n generalizing x p with
  | zero =>
      obtain ⟨b, stored, -⟩ := h.handleOf?_eq_some_iff.mp known
      have within : p < c.size := lt_length_of_getElem? stored
      omega
  | succ n ih =>
      refine List.flatMap_eq_nil_iff.mpr ?_
      intro y child
      obtain ⟨p', i, known', childKnown, hs, linked, hi⟩ := h.link_of_child child
      obtain rfl := Option.some.inj (known.symm.trans known')
      have above := (h.forest.upward p hs linked i hi).1
      exact ih childKnown (by omega)

/-- **Asking for children of children comes to an end**, whoever is asked about. -/
theorem Mirrors.generation_eq_nil (h : c.Mirrors l) {n : Nat} (deep : c.size < n)
    (x : Held Body) : c.generation n x = [] := by
  cases known : c.handleOf? x with
  | some p => exact h.generation_eq_nil_of_handleOf? known (by omega)
  | none =>
      cases n with
      | zero => exact absurd deep (Nat.not_lt_zero _)
      | succ n => simp [generation, children?, known]

/-- Nobody is answered with an empty list of children. -/
theorem Mirrors.children?_ne_nil (h : c.Mirrors l) (x : Held Body) : c.children? x ≠ some [] := by
  rw [h.children?_eq, Ledger.children?]
  intro answered
  have full := (Option.filter_eq_some_iff.mp answered).2
  cases full

/-- A stored body without children is one whose handle is linked to nothing. -/
theorem Mirrors.children?_eq_none_iff (h : c.Mirrors l) (known : c.handleOf? x = some p) :
    c.children? x = none ↔ ∀ i, ¬c.Links p i := by
  rw [children?, known, Option.bind_some, Option.map_eq_none_iff]
  constructor
  · rintro missing i ⟨hs, linked, -⟩
    cases missing.symm.trans ((lookup_eq_some_iff_mem h.parents).mpr linked)
  · intro alone
    rw [Option.eq_none_iff_forall_ne_some]
    intro hs found
    have linked := (lookup_eq_some_iff_mem h.parents).mp found
    obtain ⟨i, hi⟩ := List.exists_mem_of_ne_nil hs (h.forest.nonempty p hs linked)
    exact alone i ⟨hs, linked, hi⟩

/-! ## §3  Growth -/

/-- Every child list of a catalog `c` is the beginning of one of a catalog `c'`. -/
def Prolongs (c c' : Catalog) : Prop :=
  ∀ p hs, c.childHandles? p = some hs → ∃ later, c'.childHandles? p = some (hs ++ later)

theorem Prolongs.refl (c : Catalog) : c.Prolongs c := by
  intro p hs linked
  exact ⟨[], by rw [List.append_nil, linked]⟩

theorem Prolongs.trans (h : c.Prolongs c') (h' : c'.Prolongs c'') : c.Prolongs c'' := by
  intro p hs linked
  obtain ⟨later, linked'⟩ := h p hs linked
  obtain ⟨last, linked''⟩ := h' p (hs ++ later) linked'
  exact ⟨later ++ last, by rw [linked'', List.append_assoc]⟩

/-- One body more is put at the end of the one child list that it belongs to. -/
theorem Gains.prolongs {b : Body} {under : Option Nat} (gains : c.Gains b under c') :
    c.Prolongs c' := by
  intro p hs linked
  rw [gains.links p, linked]
  by_cases own : under = some p
  · exact ⟨[c.size], by rw [if_pos own, Option.getD_some]⟩
  · exact ⟨[], by rw [if_neg own, List.append_nil]⟩

/-- An attempt takes nothing away and rearranges nothing. -/
theorem Mirrors.put_grows (h : c.Mirrors l) (body : Body) (parent : Option (Held Body)) :
    c.Extends (c.put body parent).1 ∧ c.Prolongs (c.put body parent).1 := by
  refine ⟨h.extends_put body parent, ?_⟩
  rcases h.gains_of_put body parent with same | ⟨p, -, gains⟩
  · rw [same]
    exact .refl c
  · exact gains.prolongs

/-- **Neither does a history.** -/
theorem Mirrors.attempts_grow (h : c.Mirrors l) (as : List Addition) :
    c.Extends (attempts put c as).1 ∧ c.Prolongs (attempts put c as).1 := by
  induction as generalizing c l with
  | nil => exact ⟨.refl c, .refl c⟩
  | cons a as ih =>
      obtain ⟨extended, prolonged⟩ := h.put_grows a.body a.parent
      obtain ⟨extended', prolonged'⟩ := ih (h.step a).2
      exact ⟨extended.trans extended', prolonged.trans prolonged'⟩

/-- Whoever has children keeps them, as the first ones. -/
theorem Mirrors.children?_of_grown (h : c.Mirrors l) (extended : c.Extends c')
    (prolonged : c.Prolongs c') {ys : List (Held Body)} (answered : c.children? x = some ys) :
    ∃ later, c'.children? x = some (ys ++ later) := by
  obtain ⟨p, known, listed⟩ := Option.bind_eq_some_iff.mp answered
  obtain ⟨hs, linked, rfl⟩ := Option.map_eq_some_iff.mp listed
  obtain ⟨later, linked'⟩ := prolonged p hs linked
  have kept : hs.filterMap c'.held? = hs.filterMap c.held? := by
    refine List.filterMap_congr ?_
    intro i hi
    have mem := (lookup_eq_some_iff_mem h.parents).mp linked
    have within := (h.forest.upward p hs mem i hi).2
    obtain ⟨new, same⟩ := extended.bodies
    rw [held?, held?, ← same, List.getElem?_append_left within]
  refine ⟨later.filterMap c'.held?, ?_⟩
  rw [children?, extended.recognised x p known, Option.bind_some, linked', Option.map_some,
    List.filterMap_append, kept]

end Catalog

/-! ## §4  The theorem -/

/-- What the links of a catalog are, besides child lists: those of a forest, which bodies are asked
about by going down from a body to its children. -/
structure Catalog.Descends (c : Catalog) : Prop extends c.Forest where
  given : ∀ p hs, (p, hs) ∈ c.children → p < c.size
  acyclic : ∀ i, ¬TransGen c.Links i i
  oneParent : ∀ p q i, c.Links p i → c.Links q i → p = q
  ends : ∀ x n, c.size < n → c.generation n x = []
  nonemptyAnswer : ∀ x, c.children? x ≠ some []
  noAnswer : ∀ x p, c.handleOf? x = some p → (c.children? x = none ↔ ∀ i, ¬c.Links p i)

/-- The child lists of a catalog `c`, and what it answers when asked for children, are the
beginnings of those of a catalog `c'`. -/
structure Catalog.Begins (c c' : Catalog) : Prop where
  lists : ∀ p hs, (p, hs) ∈ c.children → ∃ later, (p, hs ++ later) ∈ c'.children
  answers : ∀ x ys, c.children? x = some ys → ∃ later, c'.children? x = some (ys ++ later)

theorem Catalog.Mirrors.descends {c : Catalog} {l : Ledger} (h : c.Mirrors l) : c.Descends where
  toForest := h.forest
  given _ _ linked := h.forest.key_lt linked
  acyclic i path := Nat.lt_irrefl i (h.forest.lt_of_path path)
  oneParent _ _ _ := h.forest.parent_unique
  ends x _ deep := h.generation_eq_nil deep x
  nonemptyAnswer := h.children?_ne_nil
  noAnswer _ _ := h.children?_eq_none_iff

/-- **The links form a forest that grows at its ends.** Let bodies be added to the empty catalog in
any way, under parents of any kinds, accepted or not. Keys and members of child lists are handles
that were given out; there is one list for a key, none is empty, each ascends strictly, each member
is larger than its key, and none stands in two lists or twice in one. So no way along links leads
back to where it began, and one handle at most is linked to another. Asked again and again for
children, whoever comes first, the catalog has none left after as many rounds as there are bodies;
it never answers with an empty list, and with none when nothing was added under a body. Whatever is
added afterwards, every child list is the beginning of the later one, and so is every answer. -/
theorem links_form_forest (history more : List Addition) :
    let c := (attempts Catalog.put .empty history).1
    let c' := (attempts Catalog.put c more).1
    c.Descends ∧ c.Begins c' := by
  have m := (Catalog.mirrors_empty.history history).2
  intro c c'
  have m' := (m.history more).2
  obtain ⟨extended, prolonged⟩ := m.attempts_grow more
  refine ⟨m.descends, ?_, fun x ys => m.children?_of_grown extended prolonged⟩
  intro p hs linked
  obtain ⟨later, linked'⟩ := prolonged p hs ((lookup_eq_some_iff_mem m.parents).mpr linked)
  exact ⟨later, (lookup_eq_some_iff_mem m'.parents).mp linked'⟩

/-- A galaxy at the end of a line of descent that began with a galaxy, by way of a planet and a
moon, with a duplicate refused on the way; a star is added under the first galaxy later. -/
theorem links_form_forest_of_wrong_kinds :
    let stored : Held Body := ⟨.galaxy ⟨"A", .spiral, .nan, .billion⟩, some 0⟩
    let planet : Body := .planet ⟨"P", .iceGiant, true⟩
    let last : Body := .galaxy ⟨"B", .elliptical, 1.0, .million⟩
    let c := (attempts Catalog.put .empty [⟨stored.value, none⟩, ⟨planet, some stored⟩,
      ⟨planet, none⟩, ⟨.moon ⟨"M"⟩, some ⟨planet, none⟩⟩, ⟨last, some ⟨.moon ⟨"M"⟩, none⟩⟩]).1
    let c' := (attempts Catalog.put c [⟨.star ⟨"S", 1.0, 2.0, 5500, 1.0, .g⟩, some stored⟩]).1
    c.children = [(0, [1]), (1, [2]), (2, [3])] ∧
      c.generation 3 stored = [⟨last, some 3⟩] ∧ c.generation 5 stored = [] ∧
      ¬TransGen c.Links 3 3 ∧ ∃ later, (0, [1] ++ later) ∈ c'.children := by
  intro stored planet last c c'
  have forest : c.Descends ∧ c.Begins c' := links_form_forest
    [⟨stored.value, none⟩, ⟨planet, some stored⟩, ⟨planet, none⟩,
      ⟨.moon ⟨"M"⟩, some ⟨planet, none⟩⟩, ⟨last, some ⟨.moon ⟨"M"⟩, none⟩⟩]
    [⟨.star ⟨"S", 1.0, 2.0, 5500, 1.0, .g⟩, some stored⟩]
  refine ⟨by decide +kernel, by decide +kernel, forest.1.ends stored 5 (by decide +kernel),
    forest.1.acyclic 3, ?_⟩
  exact forest.2.lists 0 [1] (by decide +kernel)

end SkyCatalog
