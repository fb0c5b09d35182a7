import SkyCatalog.Body.Check
import SkyCatalog.Catalog.Basic

/-!
# Descriptions — how a caller names a body

A caller gives a body by describing it afresh, field by field, or by pointing at the one
that the catalog has stored. A description is checked; what is pointed at may be absent.
-/

namespace SkyCatalog

/-- A body as a caller gives it. -/
inductive Description where
  | fresh (draft : Body.Draft)
  | stored (kind : Kind) (name : String)
deriving DecidableEq, Repr

/-- The body that is meant, if there is one. -/
def Description.resolve (c : Catalog) : Description → Checked (Option (Held Body))
  | fresh draft => draft.check.map fun b => some ⟨b, none⟩
  | stored kind name => .ok (c.fetch? kind name)

end SkyCatalog
