import Mathlib.Logic.Relation
import SkyCatalog.Proofs.Catalog.Levels
import SkyCatalog.Proofs.Catalog.Refinement
import SkyCatalog.Report.Contents
import SkyCatalog.Report.Descent

/-!
# Descent — a report shows what was added, where it was added

The program makes a report by looking every body up again, by its name, before it asks for its
children. This always comes back to the entry that the body stands for, so the report is the one
that is read off the ledger by following positions; whatever has been added under bodies of the
wrong kind is beside the way.
-/

namespace SkyCatalog

open Relation (TransGen)

variable {c : Catalog} {l : Ledger}

/-! ## §1  Views -/

namespace Body

theorem isPartialInv_star : Function.IsPartialInv Body.star Body.star? := by
  rintro s (_ | _ | _ | _) <;> simp [star?, eq_comm]

theorem isPartialInv_planet : Function.IsPartialInv Body.planet Body.planet? := by
  rintro p (_ | _ | _ | _) <;> simp [planet?, eq_comm]

theorem isPartialInv_moon : Function.IsPartialInv Body.moon Body.moon? := by
  rintro m (_ | _ | _ | _) <;> simp [moon?, eq_comm]

end Body

/-! ## §2  Members -/

namespace Ledger

variable {α : Type} {view : Body → Option α} {p : Nat}

/-- A member is an entry under the position that has the view. -/
theorem mem_membersAt {inject : α → Body} (inverse : Function.IsPartialInv inject view)
    {x : α × Nat} :
    x ∈ l.membersAt view p ↔ l.entries[x.2]? = some ⟨inject x.1, some p⟩ := by
  obtain ⟨v, i⟩ := x
  simp only [membersAt, List.mem_filterMap, List.mem_filter, Prod.exists,
    List.mem_zipIdx_iff_getElem?, beq_iff_eq, Option.map_eq_some_iff, Prod.mk.injEq]
  constructor
  · rintro ⟨⟨body, parent⟩, j, ⟨he, rfl⟩, w, hw, rfl, rfl⟩
    rw [(inverse _ _).mp hw]
    exact he
  · intro he
    exact ⟨_, i, ⟨he, rfl⟩, v, (inverse _ _).mpr rfl, rfl, rfl⟩

/-- Members come in the order in which they were added. -/
theorem membersAt_ascending : (l.membersAt view p).Pairwise (·.2 < ·.2) := by
  unfold membersAt
  rw [List.pairwise_filterMap]
  refine (l.zipIdx_ascending.filter _).imp ?_
  intro d e before x hx y hy
  obtain ⟨v, -, rfl⟩ := Option.map_eq_some_iff.mp hx
  obtain ⟨w, -, rfl⟩ := Option.map_eq_some_iff.mp hy
  exact before

end Ledger

namespace Catalog.Mirrors

/-- The children that are shown of a body that is recognised are the members at its handle. -/
theorem childrenOfKind_eq {α : Type} (h : c.Mirrors l) {x : Held Body} {p : Nat}
    (known : c.handleOf? x = some p) (view : Body → Option α) :
    c.childrenOfKind view x = (l.membersAt view p).map fun y => ⟨y.1, some y.2⟩ := by
  unfold childrenOfKind
  rw [h.getD_children?_of_handleOf? known, Ledger.childrenAt, Ledger.membersAt,
    List.filterMap_map, List.map_filterMap]
  congr 1
  funext e
  simp only [Function.comp_apply, Held.filterMap, Option.map_map]
  rfl

/-- Going down one level: what is made of the children is made of the members, when each member
is a body that is stored at its position. -/
theorem map_childrenOfKind {α β : Type} (h : c.Mirrors l) {x : Held Body} {p : Nat}
    (known : c.handleOf? x = some p) {view : Body → Option α} {inject : α → Body}
    (inverse : Function.IsPartialInv inject view) {f : Held α → β} {f' : α × Nat → β}
    (same : ∀ y : α × Nat, c.bodies[y.2]? = some (inject y.1) → f ⟨y.1, some y.2⟩ = f' y) :
    (c.childrenOfKind view x).map f = (l.membersAt view p).map f' := by
  rw [h.childrenOfKind_eq known, List.map_map]
  apply List.map_congr_left
  intro y hy
  apply same
  rw [h.getElem?_bodies, (Ledger.mem_membersAt inverse).mp hy, Option.map_some]

theorem planetBranch_eq (h : c.Mirrors l) (y : Planet × Nat)
    (stored : c.bodies[y.2]? = some (.planet y.1)) :
    c.planetBranch ⟨y.1, some y.2⟩ = l.planetBranchAt y :=
  congrArg (PlanetBranch.mk y.1) <|
    h.map_childrenOfKind (h.handleOf?_of_held rfl stored) Body.isPartialInv_moon fun _ _ => rfl

theorem starBranch_eq (h : c.Mirrors l) (y : Star × Nat)
    (stored : c.bodies[y.2]? = some (.star y.1)) :
    c.starBranch ⟨y.1, some y.2⟩ = l.starBranchAt y :=
  congrArg (StarBranch.mk y.1) <|
    h.map_childrenOfKind (h.handleOf?_of_held rfl stored) Body.isPartialInv_planet
      h.planetBranch_eq

/-- **A report is read off the ledger.** -/
theorem stars_eq (h : c.Mirrors l) {g : Held Galaxy} {p : Nat}
    (known : c.handleOf? (g.map .galaxy) = some p) : (c.report g).stars = l.starsAt p :=
  h.map_childrenOfKind known Body.isPartialInv_star h.starBranch_eq

/-- A galaxy is recognised at the position where the ledger knows it. -/
theorem handleOf?_eq_some_iff_knows (h : c.Mirrors l) {g : Held Galaxy} {p : Nat} :
    c.handleOf? (g.map .galaxy) = some p ↔ l.Knows p g := by
  have same : ∀ stored, isStoredAt p (.galaxy stored) (g.map .galaxy) = true ↔
      (g.origin = some p ∧ g.value = stored) ∨
        (stored.name = g.value.name ∧ stored.type = g.value.type ∧
          stored.age.agrees g.value.age = true ∧ stored.units = g.value.units) := by
    intro stored
    simp [isStoredAt, Held.map, Body.agrees, and_assoc]
  rw [h.handleOf?_eq_some_iff, h.getElem?_bodies]
  constructor
  · rintro ⟨b, hb, known⟩
    obtain ⟨⟨body, parent⟩, he, rfl⟩ := Option.map_eq_some_iff.mp hb
    obtain ⟨kind, -⟩ := kind_name_of_isStoredAt known
    cases body with
    | galaxy stored => exact ⟨stored, parent, he, (same stored).mp known⟩
    | _ => cases kind
  · rintro ⟨stored, parent, he, known⟩
    exact ⟨.galaxy stored, by rw [he, Option.map_some], (same stored).mpr known⟩

/-- A galaxy that is not recognised has no stars to show. -/
theorem stars_eq_nil {g : Held Galaxy} (unknown : c.handleOf? (g.map .galaxy) = none) :
    (c.report g).stars = [] := by
  show (c.childrenOfKind _ _).map _ = []
  rw [childrenOfKind, children?, unknown]
  rfl

end Catalog.Mirrors

/-! ## §3  Everything below a galaxy -/

namespace Ledger

variable {p : Nat}

def starsUnder (l : Ledger) (p : Nat) : List (Star × Nat) := l.membersAt Body.star? p

def planetsUnder (l : Ledger) (p : Nat) : List (Planet × Nat) :=
  (l.starsUnder p).flatMap fun s => l.membersAt Body.planet? s.2

def moonsUnder (l : Ledger) (p : Nat) : List (Moon × Nat) :=
  (l.planetsUnder p).flatMap fun q => l.membersAt Body.moon? q.2

/-- What is shown below the galaxy at a position, level by level, each body with its position. -/
def shownUnder (l : Ledger) (p : Nat) : List (Body × Nat) :=
  (l.starsUnder p).map (Prod.map .star id) ++
    ((l.planetsUnder p).map (Prod.map .planet id) ++ (l.moonsUnder p).map (Prod.map .moon id))

/-- The branches of some planets show the planets and their moons. -/
theorem bodies_planets_perm (qs : List (Planet × Nat)) :
    ((qs.map l.planetBranchAt).flatMap PlanetBranch.bodies).Perm
      (qs.map (.planet ·.1) ++
        (qs.flatMap fun q => l.membersAt Body.moon? q.2).map (.moon ·.1)) := by
  rw [List.flatMap_map, List.map_flatMap]
  refine .trans (.of_eq ?_) (List.map_append_flatMap_perm qs _ _).symm
  apply List.flatMap_congr
  intro q _
  simp [planetBranchAt, PlanetBranch.bodies]

/-- The branches of some stars show the stars and the branches of all their planets. -/
theorem bodies_stars_perm (ss : List (Star × Nat)) :
    ((ss.map l.starBranchAt).flatMap StarBranch.bodies).Perm (ss.map (.star ·.1) ++
      ((ss.flatMap fun s => l.membersAt Body.planet? s.2).map l.planetBranchAt).flatMap
        PlanetBranch.bodies) := by
  rw [List.flatMap_map, List.map_flatMap, List.flatMap_assoc]
  exact (List.map_append_flatMap_perm ss _ _).symm

/-- **A report shows the bodies below its galaxy**, each as often as it is there. -/
theorem bodies_starsAt_perm (l : Ledger) (p : Nat) :
    ((l.starsAt p).flatMap StarBranch.bodies).Perm ((l.shownUnder p).map (·.1)) := by
  have planets := bodies_planets_perm (l := l) (l.planetsUnder p)
  refine (bodies_stars_perm (l.starsUnder p)).trans ((planets.append_left _).trans (.of_eq ?_))
  simp [shownUnder, moonsUnder, Function.comp_def]

theorem mem_shownUnder {b : Body} {i : Nat} : (b, i) ∈ l.shownUnder p ↔
    (∃ s, b = .star s ∧ (s, i) ∈ l.starsUnder p) ∨
    (∃ q, b = .planet q ∧ (q, i) ∈ l.planetsUnder p) ∨
    ∃ m, b = .moon m ∧ (m, i) ∈ l.moonsUnder p := by
  simp [shownUnder, eq_comm, and_comm]

/-! ## §4  Ways down -/

section Paths

variable {g : Galaxy} {above : Option Nat} (root : l.entries[p]? = some ⟨.galaxy g, above⟩)

include root

theorem path_of_mem_starsUnder {s : Star × Nat} (hs : s ∈ l.starsUnder p) :
    ∃ parent, l.entries[s.2]? = some ⟨.star s.1, parent⟩ ∧ TransGen l.Bears p s.2 := by
  have stored := (mem_membersAt Body.isPartialInv_star).mp hs
  exact ⟨some p, stored, .single ⟨_, _, root, stored, rfl, rfl⟩⟩

theorem path_of_mem_planetsUnder {q : Planet × Nat} (hq : q ∈ l.planetsUnder p) :
    ∃ parent, l.entries[q.2]? = some ⟨.planet q.1, parent⟩ ∧ TransGen l.Bears p q.2 := by
  obtain ⟨s, hs, hq⟩ := List.mem_flatMap.mp hq
  obtain ⟨parent, star, path⟩ := path_of_mem_starsUnder root hs
  have stored := (mem_membersAt Body.isPartialInv_planet).mp hq
  exact ⟨some s.2, stored, path.tail ⟨_, _, star, stored, rfl, rfl⟩⟩

theorem path_of_mem_moonsUnder {m : Moon × Nat} (hm : m ∈ l.moonsUnder p) :
    ∃ parent, l.entries[m.2]? = some ⟨.moon m.1, parent⟩ ∧ TransGen l.Bears p m.2 := by
  obtain ⟨q, hq, hm⟩ := List.mem_flatMap.mp hm
  obtain ⟨parent, planet, path⟩ := path_of_mem_planetsUnder root hq
  have stored := (mem_membersAt Body.isPartialInv_moon).mp hm
  exact ⟨some q.2, stored, path.tail ⟨_, _, planet, stored, rfl, rfl⟩⟩

/-- What is shown is stored, and there is a way down to it. -/
theorem path_of_mem_shownUnder {b : Body} {i : Nat} (shown : (b, i) ∈ l.shownUnder p) :
    ∃ parent, l.entries[i]? = some ⟨b, parent⟩ ∧ TransGen l.Bears p i := by
  rcases mem_shownUnder.mp shown with ⟨s, rfl, hs⟩ | ⟨q, rfl, hq⟩ | ⟨m, rfl, hm⟩
  · exact path_of_mem_starsUnder root hs
  · exact path_of_mem_planetsUnder root hq
  · exact path_of_mem_moonsUnder root hm

/-- A way down meets a star first, then a planet, and ends at a moon at the latest. -/
theorem mem_shownUnder_of_path {i : Nat} (path : TransGen l.Bears p i) :
    ∃ b, (b, i) ∈ l.shownUnder p := by
  induction path with
  | single bears =>
      obtain ⟨d, ⟨body, parent⟩, hd, he, rfl, kind⟩ := bears
      obtain rfl := Option.some.inj (hd.symm.trans root)
      cases body with
      | star s =>
          have below := (mem_membersAt Body.isPartialInv_star (x := (s, _))).mpr he
          exact ⟨_, mem_shownUnder.mpr (.inl ⟨s, rfl, below⟩)⟩
      | _ => cases kind
  | @tail j i _ bears ih =>
      obtain ⟨b, shown⟩ := ih
      obtain ⟨d, ⟨body, parent⟩, hd, he, rfl, kind⟩ := bears
      obtain ⟨above, stored, -⟩ := path_of_mem_shownUnder root shown
      obtain rfl := Option.some.inj (hd.symm.trans stored)
      rcases mem_shownUnder.mp shown with ⟨s, rfl, hs⟩ | ⟨q, rfl, hq⟩ | ⟨m, rfl, -⟩
      · cases body with
        | planet q =>
            have below := (mem_membersAt Body.isPartialInv_planet (x := (q, i))).mpr he
            exact ⟨_, mem_shownUnder.mpr (.inr (.inl ⟨q, rfl, List.mem_flatMap_of_mem hs below⟩))⟩
        | _ => cases kind
      · cases body with
        | moon m =>
            have below := (mem_membersAt Body.isPartialInv_moon (x := (m, i))).mpr he
            exact ⟨_, mem_shownUnder.mpr (.inr (.inr ⟨m, rfl, List.mem_flatMap_of_mem hq below⟩))⟩
        | _ => cases kind
      · cases body <;> cases kind

/-- **What is shown is what there is a way down to**, past bodies of the right kinds only. -/
theorem mem_shownUnder_iff {b : Body} {i : Nat} : (b, i) ∈ l.shownUnder p ↔
    ∃ parent, l.entries[i]? = some ⟨b, parent⟩ ∧ TransGen l.Bears p i := by
  constructor
  · exact path_of_mem_shownUnder root
  · rintro ⟨parent, stored, path⟩
    obtain ⟨b', shown⟩ := mem_shownUnder_of_path root path
    obtain ⟨parent', stored', -⟩ := path_of_mem_shownUnder root shown
    obtain ⟨rfl, -⟩ := Entry.mk.inj (Option.some.inj (stored'.symm.trans stored))
    exact shown

end Paths

/-! ## §5  Nothing twice -/

/-- Members of different positions are different: a body is under one position only. -/
theorem positions_nodup {α β : Type} {view : Body → Option α} {inject : α → Body}
    (inverse : Function.IsPartialInv inject view) {xs : List (β × Nat)}
    (apart : (xs.map (·.2)).Nodup) :
    ((xs.flatMap fun x => l.membersAt view x.2).map (·.2)).Nodup := by
  rw [List.map_flatMap, List.nodup_flatMap]
  constructor
  · intro x _
    exact List.pairwise_map.mpr (membersAt_ascending.imp Nat.ne_of_lt)
  · refine (List.pairwise_map.mp apart).imp ?_
    intro x y different i hx hy
    obtain ⟨⟨v, i⟩, hv, rfl⟩ := List.mem_map.mp hx
    obtain ⟨⟨w, j⟩, hw, same⟩ := List.mem_map.mp hy
    obtain rfl : j = i := same
    have stored := (mem_membersAt inverse).mp hv
    have stored' := (mem_membersAt inverse).mp hw
    obtain ⟨-, parent⟩ := Entry.mk.inj (Option.some.inj (stored.symm.trans stored'))
    exact different (Option.some.inj parent)

theorem shownUnder_nodup (l : Ledger) (p : Nat) : (l.shownUnder p).Nodup := by
  have stars : ((l.starsUnder p).map (·.2)).Nodup :=
    List.pairwise_map.mpr (membersAt_ascending.imp Nat.ne_of_lt)
  have planets : ((l.planetsUnder p).map (·.2)).Nodup :=
    positions_nodup Body.isPartialInv_planet stars
  have moons : ((l.moonsUnder p).map (·.2)).Nodup := positions_nodup Body.isPartialInv_moon planets
  have level : ∀ {α : Type} (inject : α → Body) (xs : List (α × Nat)), (xs.map (·.2)).Nodup →
      (xs.map (Prod.map inject id)).Nodup := by
    intro α inject xs apart
    apply List.Nodup.of_map (·.2)
    rw [List.map_map]
    exact apart
  refine (level .star _ stars).append ((level .planet _ planets).append (level .moon _ moons) ?_) ?_
  -- the levels are of different kinds
  · intro x hq hm
    obtain ⟨q, -, rfl⟩ := List.mem_map.mp hq
    obtain ⟨m, -, same⟩ := List.mem_map.mp hm
    cases congrArg Prod.fst same
  · intro x hs below
    obtain ⟨s, -, rfl⟩ := List.mem_map.mp hs
    rcases List.mem_append.mp below with hq | hm
    · obtain ⟨q, -, same⟩ := List.mem_map.mp hq
      cases congrArg Prod.fst same
    · obtain ⟨m, -, same⟩ := List.mem_map.mp hm
      cases congrArg Prod.fst same

/-- The kinds and names of what is shown are all different, since those of the entries are. -/
theorem Orderly.shownUnder_keys_nodup (h : l.Orderly) {p : Nat} {g : Galaxy} {above : Option Nat}
    (root : l.entries[p]? = some ⟨.galaxy g, above⟩) :
    ((l.shownUnder p).map fun x => (x.1.kind, x.1.name)).Nodup := by
  refine List.pairwise_map.mpr ((l.shownUnder_nodup p).imp_of_mem ?_)
  rintro ⟨b, i⟩ ⟨d, j⟩ hb hd different same
  obtain ⟨parent, stored, -⟩ := path_of_mem_shownUnder root hb
  obtain ⟨parent', stored', -⟩ := path_of_mem_shownUnder root hd
  obtain ⟨kind, name⟩ := Prod.mk.inj same
  obtain rfl := h.unique stored stored' kind name
  obtain ⟨rfl, -⟩ := Entry.mk.inj (Option.some.inj (stored.symm.trans stored'))
  exact different rfl

end Ledger

/-! ## §6  Reports -/

namespace Catalog.Mirrors

variable {g : Held Galaxy} {p : Nat}

/-- The bodies of a report are its galaxy and what is shown under the position of the galaxy. -/
theorem bodies_perm (h : c.Mirrors l) (known : l.Knows p g) :
    (c.report g).bodies.Perm (.galaxy g.value :: (l.shownUnder p).map (·.1)) := by
  have stars := h.stars_eq (h.handleOf?_eq_some_iff_knows.mpr known)
  rw [GalaxyReport.bodies, stars]
  exact (l.bodies_starsAt_perm p).cons _

theorem mem_bodies_iff (h : c.Mirrors l) (known : l.Knows p g) {b : Body} :
    b ∈ (c.report g).bodies ↔ b = .galaxy g.value ∨
      ∃ i e, l.entries[i]? = some e ∧ e.body = b ∧ TransGen l.Bears p i := by
  obtain ⟨stored, above, root, -⟩ := id known
  rw [(h.bodies_perm known).mem_iff, List.mem_cons, List.mem_map]
  apply or_congr_right
  constructor
  · rintro ⟨⟨b, i⟩, shown, rfl⟩
    obtain ⟨parent, stored, path⟩ := (Ledger.mem_shownUnder_iff root).mp shown
    exact ⟨i, _, stored, rfl, path⟩
  · rintro ⟨i, ⟨body, parent⟩, stored, rfl, path⟩
    exact ⟨(body, i), (Ledger.mem_shownUnder_iff root).mpr ⟨parent, stored, path⟩, rfl⟩

/-- A galaxy that the ledger does not know has no stars to show. -/
theorem stars_of_unknown (h : c.Mirrors l) (unknown : ∀ p, ¬l.Knows p g) :
    (c.report g).stars = [] := by
  apply stars_eq_nil
  rw [Option.eq_none_iff_forall_ne_some]
  intro p known
  exact unknown p (h.handleOf?_eq_some_iff_knows.mp known)

/-- **Nothing is shown twice.** -/
theorem bodies_keys_nodup (h : c.Mirrors l) (g : Held Galaxy) :
    ((c.report g).bodies.map fun b => (b.kind, b.name)).Nodup := by
  by_cases known : ∃ p, l.Knows p g
  · obtain ⟨p, known⟩ := known
    obtain ⟨stored, above, root, -⟩ := id known
    rw [((h.bodies_perm known).map _).nodup_iff, List.map_cons, List.map_map, List.nodup_cons]
    refine ⟨?_, h.orderly.shownUnder_keys_nodup root⟩
    -- no galaxy is shown below another body
    intro again
    obtain ⟨⟨b, i⟩, shown, same⟩ := List.mem_map.mp again
    rcases Ledger.mem_shownUnder.mp shown with ⟨s, rfl, -⟩ | ⟨q, rfl, -⟩ | ⟨m, rfl, -⟩
    all_goals cases congrArg Prod.fst same
  · rw [GalaxyReport.bodies, h.stars_of_unknown (not_exists.mp known)]
    exact List.nodup_singleton _

end Catalog.Mirrors

/-- A galaxy described afresh whose age is no number is not known, whatever is stored. -/
theorem Ledger.not_knows_of_nan {g : Held Galaxy} (fresh : g.origin = none)
    (unnumbered : g.value.age = .nan) (p : Nat) : ¬l.Knows p g := by
  rintro ⟨stored, parent, -, ⟨origin, -⟩ | ⟨-, -, ages, -⟩⟩
  · rw [fresh] at origin
    cases origin
  · rw [unnumbered, Binary64.agrees_comm] at ages
    cases ages

/-! ## §7  The theorem -/

/-- **A report shows what was added below its galaxy, and nothing else.** Let bodies be added to
the empty catalog in any way, with parents of any kinds, accepted or not. A galaxy, stored or not,
is printed without a fault and without a change to the catalog. When it is stored, the report has
the stars that were added under it, with the planets that were added under each of them and the
moons that were added under each of those, all in the order of adding; its bodies are the galaxy
and those that are reached from it by going down to bodies of the kind below only. When it is not
stored, or differs from the stored one in a field, the report has no stars; so it is for a galaxy
described afresh whose age is no number. No kind and name are those of two bodies in a report. -/
theorem report_shows_descent (history : List Addition) :
    let c := (attempts Catalog.put .empty history).1
    let l := (attempts Ledger.put .empty history).1
    ∀ g : Held Galaxy,
      (Command.print g).execute c =
        .ok { catalog := c, payload := some (.report (c.report g)) } ∧
      (c.report g).galaxy = g.value ∧
      (∀ p, l.Knows p g → (c.report g).stars = l.starsAt p ∧
        ∀ b, b ∈ (c.report g).bodies ↔ b = .galaxy g.value ∨
          ∃ i e, l.entries[i]? = some e ∧ e.body = b ∧ TransGen l.Bears p i) ∧
      ((∀ p, ¬l.Knows p g) → (c.report g).stars = []) ∧
      (g.origin = none → g.value.age = .nan → (c.report g).stars = []) ∧
      ((c.report g).bodies.map fun b => (b.kind, b.name)).Nodup := by
  have m := (Catalog.mirrors_empty.history history).2
  intro c l g
  refine ⟨rfl, rfl, ?_, m.stars_of_unknown, ?_, m.bodies_keys_nodup g⟩
  · intro p known
    exact ⟨m.stars_eq (m.handleOf?_eq_some_iff_knows.mpr known), fun b => m.mem_bodies_iff known⟩
  · intro fresh unnumbered
    exact m.stars_of_unknown (Ledger.not_knows_of_nan fresh unnumbered)

/-- A galaxy whose age is no number has a moon, a planet and a star under it, the moon a planet, the
star a planet, and this planet a planet and a moon. The way down goes by the star to the one moon;
to the same galaxy described afresh it is closed. -/
theorem report_shows_descent_past_wrong_kinds :
    let galaxy : Galaxy := ⟨"A", .spiral, .nan, .billion⟩
    let star : Star := ⟨"A", 1.0, 2.0, 5500, 1.0, .g⟩
    let planet (name : String) : Planet := ⟨name, .iceGiant, false⟩
    let stored : Held Body := ⟨.galaxy galaxy, some 0⟩
    let history : List Addition :=
      [⟨.galaxy galaxy, none⟩, ⟨.moon ⟨"A"⟩, some stored⟩, ⟨.planet (planet "A"), some stored⟩,
        ⟨.planet (planet "B"), some ⟨.moon ⟨"A"⟩, none⟩⟩, ⟨.star star, some stored⟩,
        ⟨.planet (planet "C"), some ⟨.star star, none⟩⟩,
        ⟨.planet (planet "D"), some ⟨.planet (planet "C"), none⟩⟩,
        ⟨.moon ⟨"B"⟩, some ⟨.planet (planet "C"), none⟩⟩]
    let c := (attempts Catalog.put .empty history).1
    c.size = 8 ∧ (c.report ⟨galaxy, some 0⟩).stars = [⟨star, [⟨planet "C", [⟨"B"⟩]⟩]⟩] ∧
      (c.report ⟨galaxy, none⟩).stars = [] := by
  intro galaxy star planet stored history c
  have descent := report_shows_descent history
  have known : ((attempts Ledger.put .empty history).1).Knows 0 ⟨galaxy, some 0⟩ :=
    ⟨galaxy, none, by decide +kernel, .inl ⟨rfl, rfl⟩⟩
  refine ⟨by decide +kernel, ?_, ?_⟩
  · rw [((descent ⟨galaxy, some 0⟩).2.2.1 0 known).1]
    decide +kernel
  · exact (descent ⟨galaxy, none⟩).2.2.2.2.1 rfl rfl

end SkyCatalog
