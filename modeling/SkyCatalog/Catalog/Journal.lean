import SkyCatalog.Execution

/-!
# The catalog's own journal — what a catalog tells of its making

A catalog that only ever grows determines how it was made: its bodies are in the order of
their adding, and its links say under which parent. The journal of a catalog lists what
must have been logged, read off the finished catalog alone.
-/

namespace SkyCatalog.Catalog

/-- The handle under which a handle is linked. -/
def parentOf? (c : Catalog) (handle : Nat) : Option Nat :=
  (c.children.find? fun link => link.2.contains handle).map (·.1)

/-- How the log names what is stored at a handle. -/
def mentionAt? (c : Catalog) (handle : Nat) : Option Mention :=
  c.bodies[handle]?.map (mention · handle)

/-- What was logged when the body at a handle was added. -/
def addedAt? (c : Catalog) (handle : Nat) : Option Event :=
  (c.mentionAt? handle).map fun m => .added m ((c.parentOf? handle).bind c.mentionAt?)

/-- What was logged of all adding, in order. -/
def journal (c : Catalog) : List Event := (List.range c.size).filterMap c.addedAt?

end SkyCatalog.Catalog
