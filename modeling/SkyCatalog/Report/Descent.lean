import SkyCatalog.Catalog.Ledger
import SkyCatalog.Report.Basic

/-!
# Descent — the report on a galaxy, read off the ledger

An entry of the ledger says under which position it was added. Here a report is made by following
these positions alone: no name is looked up and no body is compared on the way down. Of what was
added under a position only the bodies of the kind that belongs there are taken, so a body below
one of the wrong kind is out of reach.
-/

namespace SkyCatalog.Ledger

/-- The bodies added under a position of which a view exists, in the order they were added, each
with its own position. -/
def membersAt {α : Type} (l : Ledger) (view : Body → Option α) (position : Nat) : List (α × Nat) :=
  (l.entries.zipIdx.filter (·.1.parent == some position)).filterMap fun e =>
    (view e.1.body).map (·, e.2)

def planetBranchAt (l : Ledger) (p : Planet × Nat) : PlanetBranch :=
  ⟨p.1, (l.membersAt Body.moon? p.2).map (·.1)⟩

def starBranchAt (l : Ledger) (s : Star × Nat) : StarBranch :=
  ⟨s.1, (l.membersAt Body.planet? s.2).map l.planetBranchAt⟩

/-- The stars added under a position, each with what was added under it. -/
def starsAt (l : Ledger) (position : Nat) : List StarBranch :=
  (l.membersAt Body.star? position).map l.starBranchAt

/-- A caller's galaxy is the one at a position: it was taken out there, or it is equal in every
field, with the ages compared as numbers. -/
def Knows (l : Ledger) (position : Nat) (g : Held Galaxy) : Prop :=
  ∃ stored parent, l.entries[position]? = some ⟨.galaxy stored, parent⟩ ∧
    ((g.origin = some position ∧ g.value = stored) ∨
      (stored.name = g.value.name ∧ stored.type = g.value.type ∧
        stored.age.agrees g.value.age = true ∧ stored.units = g.value.units))

/-- The body at a position was added under the one at another, and its kind is the one below. -/
def Bears (l : Ledger) (above below : Nat) : Prop :=
  ∃ d e, l.entries[above]? = some d ∧ l.entries[below]? = some e ∧ e.parent = some above ∧
    e.body.kind.parent? = some d.body.kind

end SkyCatalog.Ledger
