import SkyCatalog.Catalog.Description
import SkyCatalog.Command.Basic

/-!
# Command records — commands given field by field

Commands can be given as records instead of lines. The bodies in a record are checked
first, in the order body, parent, galaxy; then the tag says which fields the command has.
-/

namespace SkyCatalog

structure Command.Draft where
  tag : Field String := .absent
  message : Field String := .absent
  body : Field Description := .absent
  parent : Field Description := .absent
  kind : Field String := .absent
  label : Field String := .absent
  galaxy : Field Description := .absent
deriving DecidableEq, Repr

namespace Command

namespace Draft

/-- The body in a field. A pointer to an absent body counts as null. -/
def resolve (c : Catalog) : Field Description → Checked (Field (Held Body))
  | .absent => .ok .absent
  | .null => .ok .null
  | .given d => (d.resolve c).map fun
    | some x => .given x
    | none => .null

def optionalBody : Field (Held Body) → Option (Held Body)
  | .given x => some x
  | _ => none

def checkGalaxy (x : Held Body) : Checked (Held Galaxy) :=
  match x.filterMap Body.galaxy? with
  | some g => .ok g
  | none => .fail (.notOfKind .galaxy)

def ofTag (d : Draft) (body parent galaxy : Field (Held Body)) : Tag → Checked Command
  | .nothing => .ok .nothing
  | .complain => .complain <$> d.message.text "message"
  | .add => (body.require "body" .notRecord .ok).map fun b => .add b.value (optionalBody parent)
  | .list =>
    .list <$> d.kind.word "kind" (Kind.all.map (·.word)) Kind.ofWord? <*> d.label.text "label"
  | .stats => .ok .stats
  | .print => .print <$> galaxy.require "galaxy" (.notOfKind .galaxy) checkGalaxy
  | .exit => .ok .exit

/-- Checks a record that may be a command of any kind. -/
def check (c : Catalog) (d : Draft) : Checked Command :=
  (resolve c d.body).andThen fun body =>
  (resolve c d.parent).andThen fun parent =>
  (resolve c d.galaxy).andThen fun galaxy =>
  (d.tag.tag "command" (Tag.all.map fun t => inQuotes t.word) Tag.ofWord?).andThen fun tag =>
  (d.ofTag body parent galaxy tag).under tag.word

end Draft

end Command

end SkyCatalog
