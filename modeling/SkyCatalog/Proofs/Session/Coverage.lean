import SkyCatalog.Proofs.Catalog.Levels
import SkyCatalog.Proofs.Session.Growth
import SkyCatalog.Report.Contents

/-!
# Coverage — the reports on all galaxies show the whole catalog

The catalog does not ask of what kind a parent is, and the reports skip children of the wrong
kind. In a session there are none: parents were looked up among the bodies of the kind above. So
a report is the branch of its galaxy, nothing is skipped in it, and the branches of all galaxies
are the whole ledger.
-/

namespace SkyCatalog

open Grammar

variable {c : Catalog} {l : Ledger}

/-! ## §1  Children that are shown -/

/-- A body that a caller took out of the ledger. -/
def Ledger.Holds (l : Ledger) (x : Held Body) : Prop :=
  ∃ i e, l.entries[i]? = some e ∧ x = ⟨e.body, some i⟩

namespace Ledger

/-- A child stands where it is held, and its kind is below that of its parent. -/
theorem Ranked.holds_of_mem_below (ranked : l.Ranked) {x y : Held Body} (hx : l.Holds x)
    (hy : y ∈ l.below x) : l.Holds y ∧ y.value.kind.parent? = some x.value.kind := by
  obtain ⟨p, d, hd, rfl⟩ := hx
  obtain ⟨i, e, he, hp, rfl⟩ := mem_childrenAt.mp hy
  exact ⟨⟨i, e, he, rfl⟩, ranked.kind_parent? he hp hd⟩

/-- An entry is a child of the one that it stands under. -/
theorem mem_below {i p : Nat} {e d : Entry} (he : l.entries[i]? = some e)
    (hp : e.parent = some p) : ⟨e.body, some i⟩ ∈ l.below ⟨d.body, some p⟩ :=
  mem_childrenAt.mpr ⟨i, e, he, hp, rfl⟩

end Ledger

namespace Catalog.Mirrors

/-- The children of a stored body are those of its entry. -/
theorem getD_children? (h : c.Mirrors l) {x : Held Body} (hx : l.Holds x) :
    (c.children? x).getD [] = l.below x := by
  obtain ⟨p, d, hd, rfl⟩ := hx
  have stored : c.bodies[p]? = some d.body := by rw [h.getElem?_bodies, hd, Option.map_some]
  exact h.getD_children?_of_handleOf? (h.handleOf?_of_held rfl stored)

/-- A view that every child has shows all children. -/
theorem childrenOfKind_map {α : Type} (h : c.Mirrors l) {x : Held Body} (hx : l.Holds x)
    (view : Body → Option α) (inject : α → Body)
    (seen : ∀ y ∈ l.below x, ∃ v, view y.value = some v ∧ inject v = y.value) :
    (c.childrenOfKind view x).map (Held.map inject) = l.below x := by
  have kept : ∀ y ∈ l.below x, (y.filterMap view).map (Held.map inject) = some (id y) := by
    intro y hy
    obtain ⟨v, hv, back⟩ := seen y hy
    obtain ⟨value, origin⟩ := y
    obtain rfl : inject v = value := back
    simp [Held.filterMap, Held.map, hv]
  rw [childrenOfKind, h.getD_children? hx, List.map_filterMap,
    List.filterMap_eq_map_iff_forall_eq_some.mpr kept, List.map_id]

/-! ## §2  Reports as branches -/

variable (h : c.Mirrors l) (ranked : l.Ranked)

include h ranked

/-- When a view shows every body of the kind below, what is shown of the children of a body, each
with its own branch, is the branch of the body. -/
theorem flatMap_childrenOfKind {α : Type} {x : Held Body} (hx : l.Holds x)
    (view : Body → Option α) (inject : α → Body)
    (seen : ∀ b : Body, b.kind.parent? = some x.value.kind → ∃ v, view b = some v ∧ inject v = b)
    {n : Nat} {f : Held α → List Body}
    (branches : ∀ y : Held α, l.Holds (y.map inject) → f y = l.branch n (y.map inject)) :
    x.value :: (c.childrenOfKind view x).flatMap f = l.branch (n + 1) x := by
  have all : (c.childrenOfKind view x).map (Held.map inject) = l.below x :=
    h.childrenOfKind_map hx view inject fun y hy =>
      seen y.value (ranked.holds_of_mem_below hx hy).2
  rw [Ledger.branch, ← all, List.flatMap_map]
  refine congrArg (x.value :: ·) (List.flatMap_congr ?_)
  intro y hy
  exact branches y (ranked.holds_of_mem_below hx (all ▸ List.mem_map_of_mem hy)).1

/-- The moons of a planet are its branch: nothing under it is skipped. -/
theorem bodies_planetBranch (p : Held Planet) (hp : l.Holds (p.map .planet)) :
    (c.planetBranch p).bodies = l.branch 1 (p.map .planet) := by
  rw [← h.flatMap_childrenOfKind ranked hp Body.moon? .moon ?_ fun _ _ => rfl]
  · show _ :: List.map Body.moon (List.map Held.value _) = _ :: _
    rw [List.map_map, List.map_eq_flatMap]
    rfl
  · rintro (_ | _ | _ | m) below
    case moon => exact ⟨m, rfl, rfl⟩
    all_goals cases below

/-- The same for the planets of a star, with their branches. -/
theorem bodies_starBranch (s : Held Star) (hs : l.Holds (s.map .star)) :
    (c.starBranch s).bodies = l.branch 2 (s.map .star) := by
  rw [← h.flatMap_childrenOfKind ranked hs Body.planet? .planet ?_ (h.bodies_planetBranch ranked)]
  · show _ :: List.flatMap PlanetBranch.bodies (List.map c.planetBranch _) = _
    rw [List.flatMap_map]
    rfl
  · rintro (_ | _ | p | _) below
    case planet => exact ⟨p, rfl, rfl⟩
    all_goals cases below

/-- **A report is the branch of its galaxy.** -/
theorem bodies_report (g : Held Galaxy) (hg : l.Holds (g.map .galaxy)) :
    (c.report g).bodies = l.branch 3 (g.map .galaxy) := by
  rw [← h.flatMap_childrenOfKind ranked hg Body.star? .star ?_ (h.bodies_starBranch ranked)]
  · show _ :: List.flatMap StarBranch.bodies (List.map c.starBranch _) = _
    rw [List.flatMap_map]
    rfl
  · rintro (_ | s | _ | _) below
    case star => exact ⟨s, rfl, rfl⟩
    all_goals cases below

end Catalog.Mirrors

/-! ## §3  Where a body is shown -/

namespace Catalog.Mirrors

variable {i p : Nat} {e d : Entry}

/-- An entry is shown in the branch of the one that it stands under, of whichever kind this is. -/
theorem mem_shown {α : Type} (h : c.Mirrors l) (he : l.entries[i]? = some e)
    (hp : e.parent = some p) (hd : l.entries[p]? = some d) {view : Body → Option α} {v : α}
    (seen : view e.body = some v) : ⟨v, some i⟩ ∈ c.childrenOfKind view ⟨d.body, some p⟩ := by
  rw [childrenOfKind, h.getD_children? ⟨p, d, hd, rfl⟩]
  refine List.mem_filterMap.mpr ⟨⟨e.body, some i⟩, Ledger.mem_below he hp, ?_⟩
  rw [Held.filterMap, seen, Option.map_some]

theorem mem_stars (h : c.Mirrors l) {s : Star} {g : Galaxy} {q : Option Nat}
    (he : l.entries[i]? = some ⟨.star s, some p⟩) (hd : l.entries[p]? = some ⟨.galaxy g, q⟩) :
    c.starBranch ⟨s, some i⟩ ∈ (c.report ⟨g, some p⟩).stars :=
  List.mem_map_of_mem (h.mem_shown he rfl hd rfl)

theorem mem_planets (h : c.Mirrors l) {a : Planet} {s : Star} {q : Option Nat}
    (he : l.entries[i]? = some ⟨.planet a, some p⟩) (hd : l.entries[p]? = some ⟨.star s, q⟩) :
    c.planetBranch ⟨a, some i⟩ ∈ (c.starBranch ⟨s, some p⟩).planets :=
  List.mem_map_of_mem (h.mem_shown he rfl hd rfl)

theorem mem_moons (h : c.Mirrors l) {m : Moon} {a : Planet} {q : Option Nat}
    (he : l.entries[i]? = some ⟨.moon m, some p⟩) (hd : l.entries[p]? = some ⟨.planet a, q⟩) :
    m ∈ (c.planetBranch ⟨a, some p⟩).moons :=
  List.mem_map.mpr ⟨⟨m, some i⟩, h.mem_shown he rfl hd rfl, rfl⟩

/-- **Every body but a galaxy is shown** in the report on some galaxy, right under the body that
its entry stands under. -/
theorem shown (h : c.Mirrors l) (ranked : l.Ranked) (he : l.entries[i]? = some e) {k : Kind}
    (above : e.body.kind.parent? = some k) :
    ∃ d, l.parentOf? e = some d ∧ ∃ g q parent, l.entries[q]? = some ⟨.galaxy g, parent⟩ ∧
      (c.report ⟨g, some q⟩).Shows d.body.name e.body := by
  -- at most three steps up from a moon to the galaxy; each step finds a body of the kind above
  obtain ⟨p, d, hp, hd, rfl⟩ := ranked.above he above
  refine ⟨d, by rw [Ledger.parentOf?, hp, Option.bind_some, hd], ?_⟩
  obtain ⟨body, parent⟩ := e
  obtain rfl : parent = some p := hp
  obtain ⟨body', q⟩ := d
  cases body with
  | galaxy => cases above
  | star s =>
      cases body' with
      | galaxy g => exact ⟨g, p, q, hd, .star (h.mem_stars he hd)⟩
      | _ => cases above
  | planet a =>
      cases body' with
      | star s =>
          obtain ⟨q, ⟨body, parent⟩, rfl, hg, kind⟩ := ranked.above hd rfl
          cases body with
          | galaxy g =>
              exact ⟨g, q, parent, hg, .planet (h.mem_stars hd hg) (h.mem_planets he hd)⟩
          | _ => cases kind
      | _ => cases above
  | moon m =>
      cases body' with
      | planet a =>
          obtain ⟨q, ⟨body, parent⟩, rfl, hs, kind⟩ := ranked.above hd rfl
          cases body with
          | star s =>
              obtain ⟨r, ⟨body, parent⟩, rfl, hg, kind⟩ := ranked.above hs rfl
              cases body with
              | galaxy g =>
                  exact ⟨g, r, parent, hg, .moon (h.mem_stars hs hg) (h.mem_planets hd hs)
                    (h.mem_moons he hd)⟩
              | _ => cases kind
          | _ => cases kind
      | _ => cases above

end Catalog.Mirrors

/-! ## §4  All galaxies -/

/-- What every member has for itself, they have as a list. -/
theorem exists_forall₂ {α β : Type} {R : α → β → Prop} {xs : List α} (h : ∀ x ∈ xs, ∃ y, R x y) :
    ∃ ys, List.Forall₂ R xs ys := by
  induction xs with
  | nil => exact ⟨[], .nil⟩
  | cons x xs ih =>
      obtain ⟨y, hy⟩ := h x List.mem_cons_self
      obtain ⟨ys, hys⟩ := ih fun z hz => h z (List.mem_cons_of_mem _ hz)
      exact ⟨y :: ys, .cons hy hys⟩

theorem filterMap_eq_of_forall₂ {α β γ : Type} {f : α → Option γ} {g : β → γ} {xs : List α}
    {ys : List β} (h : List.Forall₂ (fun x y => f x = some (g y)) xs ys) :
    xs.filterMap f = ys.map g := by
  induction h with
  | nil => rfl
  | cons hx _ ih => rw [List.filterMap_cons_some hx, ih, List.map_cons]

namespace Catalog.Mirrors

/-- Looking up all names of a kind gives all bodies of the kind. -/
theorem fetch?_listNames (h : c.Mirrors l) (k : Kind) :
    ((c.listNames k).filterMap (c.fetch? k)).Perm (l.level k) := by
  have names : (c.listNames k).Perm ((l.level k).map (·.value.name)) := by
    rw [h.names k, Ledger.listNames, Ledger.level, List.map_map]
    refine (List.mergeSort_perm ..).trans (List.Perm.of_eq ?_)
    rw [← List.zipIdx_map_fst 0 l.entries, List.filter_map, List.map_map, List.zipIdx_map_fst]
    rfl
  have found : ∀ x ∈ l.level k, (c.fetch? k ∘ (·.value.name)) x = some (id x) := by
    intro x hx
    obtain ⟨i, e, he, hk, rfl⟩ := Ledger.mem_level.mp hx
    refine h.fetch?_eq_some_iff.mpr ⟨i, rfl, ?_, hk, rfl⟩
    rw [h.getElem?_bodies, he]
    rfl
  refine (names.filterMap _).trans (List.Perm.of_eq ?_)
  rw [List.filterMap_map, List.filterMap_eq_map_iff_forall_eq_some.mpr found, List.map_id]

/-- The galaxies of a catalog in the order of their names, each as it is looked up. -/
theorem galaxies (h : c.Mirrors l) : ∃ gs : List (Held Galaxy),
    List.Forall₂ (fun n g => c.fetch? .galaxy n = some (g.map .galaxy)) (c.listNames .galaxy) gs ∧
    (gs.map (Held.map .galaxy)).Perm (l.level .galaxy) := by
  have each : ∀ n ∈ c.listNames .galaxy, ∃ g : Held Galaxy,
      c.fetch? .galaxy n = some (g.map .galaxy) := by
    intro n hn
    rw [h.names, Ledger.mem_listNames] at hn
    obtain ⟨e, he, kind, rfl⟩ := hn
    obtain ⟨i, hi⟩ := List.mem_iff_getElem?.mp he
    obtain ⟨body, parent⟩ := e
    cases body with
    | galaxy g =>
        refine ⟨⟨g, some i⟩, h.fetch?_eq_some_iff.mpr ⟨i, rfl, ?_, rfl, rfl⟩⟩
        rw [h.getElem?_bodies, hi]
        rfl
    | _ => cases kind
  obtain ⟨gs, found⟩ := exists_forall₂ each
  exact ⟨gs, found, filterMap_eq_of_forall₂ found ▸ h.fetch?_listNames .galaxy⟩

/-- **The reports on all galaxies show every body**, as often as it is stored. -/
theorem reports_perm (h : c.Mirrors l) (ranked : l.Ranked) {gs : List (Held Galaxy)}
    (all : (gs.map (Held.map .galaxy)).Perm (l.level .galaxy)) :
    ((gs.map c.report).flatMap GalaxyReport.bodies).Perm c.bodies := by
  have branches : (gs.map c.report).flatMap GalaxyReport.bodies =
      (gs.map (Held.map .galaxy)).flatMap (l.branch 3) := by
    rw [List.flatMap_map, List.flatMap_map]
    refine List.flatMap_congr ?_
    intro g hg
    obtain ⟨i, e, he, -, eq⟩ := Ledger.mem_level.mp (all.mem_iff.mp (List.mem_map_of_mem hg))
    exact h.bodies_report ranked g ⟨i, e, he, eq⟩
  rw [branches, h.bodies]
  exact (all.flatMap_right _).trans ranked.branches_perm

end Catalog.Mirrors

/-! ## §5  Printing -/

/-- The line that asks for the report on a galaxy. -/
theorem parse_print {n : String} (named : IsName n) {g : Held Galaxy}
    (found : c.fetch? .galaxy n = some (g.map .galaxy)) :
    Command.parse c (some s!"print [{n}]") = .print g := by
  have last : Spaced [bracketed n] ([' '] ++ bracketed n ++ []) := .cons rfl rfl (.nil rfl)
  have all : Spaced ["print".toList, bracketed n]
      ([] ++ "print".toList ++ ([' '] ++ bracketed n ++ [])) := .cons rfl rfl last
  have text : (s!"print [{n}]").toList =
      [] ++ "print".toList ++ ([' '] ++ bracketed n ++ []) := by
    show ("print [" ++ n ++ "]").toList = _
    simp [bracketed]
  have accepted := Reading.ofLine_eq_accepted_iff.mpr
    ⟨_, _, .print named, text ▸ all, .print found⟩
  exact congrArg Reading.command accepted

/-- A galaxy is printed without a change to the catalog. -/
theorem Session.step_print {n : String} (named : IsName n) {g : Held Galaxy}
    (found : c.fetch? .galaxy n = some (g.map .galaxy)) :
    ∃ s, step c (some s!"print [{n}]") = .ok s ∧ s.effect.catalog = c ∧
      s.effect.payload = some (.report (c.report g)) := by
  have executed : (Command.parse c (some s!"print [{n}]")).execute c =
      .ok { catalog := c, payload := some (.report (c.report g)) } := by
    rw [parse_print named found]
    rfl
  exact ⟨_, step_eq_ok executed, rfl, rfl⟩

/-! ## §6  The theorem -/

/-- **The reports cover the catalog.** After any lines, or ends of input, the child lists hold
every star, planet and moon once, under a body of the kind above, and no galaxy. When each galaxy
is then printed, in the order of the names, the reports together show every stored body as often
as it is stored, which is once; and one of them shows it in the branch of the body that the line
which added it names as its parent. -/
theorem reports_cover_catalog (lines : List (Option String)) :
    ∃ c reports, Session.run .empty lines = .ok c ∧
      (c.children.map (·.1)).Nodup ∧
      (∀ i b, c.bodies[i]? = some b →
        (c.children.flatMap (·.2)).count i = if b.kind = .galaxy then 0 else 1) ∧
      (∀ p hs, (p, hs) ∈ c.children → ∀ i ∈ hs, ∃ parent child, c.bodies[p]? = some parent ∧
        c.bodies[i]? = some child ∧ child.kind.parent? = some parent.kind) ∧
      List.Forall₂ (fun n r => ∃ s, Session.step c (some s!"print [{n}]") = .ok s ∧
        s.effect.catalog = c ∧ s.effect.payload = some (.report r)) (c.listNames .galaxy) reports ∧
      (reports.flatMap GalaxyReport.bodies).Perm c.bodies ∧
      (c.bodies.map fun b => (b.kind, b.name)).Nodup ∧
      ∀ i b k, c.bodies[i]? = some b → b.kind.parent? = some k →
        ∃ ph name, Session.AddedBy lines i b ph ∧ ph.parentName? = some name ∧
          ∃ r ∈ reports, r.Shows name b := by
  obtain ⟨c, l, h⟩ := Session.grown lines
  have m := h.mirrors
  obtain ⟨gs, found, all⟩ := m.galaxies
  refine ⟨c, gs.map c.report, h.reached, m.parents, ?_, ?_, ?_, m.reports_perm h.ranked all, ?_, ?_⟩
  · intro i b hb
    rw [m.getElem?_bodies] at hb
    obtain ⟨e, he, rfl⟩ := Option.map_eq_some_iff.mp hb
    rw [m.count_links he]
    cases hp : e.parent with
    | none => rw [if_pos ((h.ranked.parent_eq_none_iff m.orderly he).mp hp)]; rfl
    | some p =>
        have below := mt (h.ranked.parent_eq_none_iff m.orderly he).mpr (by simp [hp])
        rw [if_neg below]
        rfl
  · intro p hs linked i hi
    rw [m.childPositions_of_mem linked] at hi
    obtain ⟨e, he, hp⟩ := Ledger.mem_childPositions.mp hi
    obtain ⟨d, hd⟩ := m.orderly.parent_stored he hp
    refine ⟨d.body, e.body, ?_, ?_, h.ranked.kind_parent? he hp hd⟩
    · rw [m.getElem?_bodies, hd, Option.map_some]
    · rw [m.getElem?_bodies, he, Option.map_some]
  · rw [List.forall₂_map_right_iff]
    refine found.imp ?_
    intro n g hn
    obtain ⟨i, -, stored, -, rfl⟩ := m.fetch?_eq_some_iff.mp hn
    exact Session.step_print (h.described (List.mem_of_getElem? stored)).named hn
  · rw [m.bodies, List.map_map]
    exact m.orderly.keys_nodup
  · intro i b k hb above
    rw [m.getElem?_bodies] at hb
    obtain ⟨e, he, rfl⟩ := Option.map_eq_some_iff.mp hb
    obtain ⟨ph, added, named⟩ := h.traced he
    obtain ⟨d, hd, g, q, parent, hg, shows⟩ := m.shown h.ranked he above
    rw [hd, Option.map_some] at named
    refine ⟨ph, d.body.name, added, named.symm, c.report ⟨g, some q⟩, ?_, shows⟩
    obtain ⟨⟨g', _⟩, hg', same⟩ := List.mem_map.mp
      (all.mem_iff.mpr (Ledger.mem_level.mpr ⟨q, _, hg, rfl, rfl⟩))
    cases same
    exact List.mem_map_of_mem hg'

end SkyCatalog
