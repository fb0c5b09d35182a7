import SkyCatalog.Catalog.Basic

/-!
# The ledger — the catalog as a plain list

The same store without any index: the accepted bodies in order, each with the position of
its parent. Every question is answered by going through the list, so there is nothing that
could fall out of step. The ledger is what the catalog is measured against; no command runs
on it.
-/

namespace SkyCatalog

/-- An accepted body and the position of the body that it was added under. -/
structure Entry where
  body : Body
  parent : Option Nat
deriving DecidableEq, Repr

/-- The accepted bodies, the first one first. -/
structure Ledger where
  entries : List Entry
deriving DecidableEq, Repr

/-- An entry for a kind and a name. -/
def Entry.isFor (kind : Kind) (name : String) (e : Entry) : Bool :=
  e.body.kind == kind && e.body.name == name

namespace Ledger

def empty : Ledger := ⟨[]⟩

def size (l : Ledger) : Nat := l.entries.length

/-- The body of the first entry for a kind and a name. -/
def find? (l : Ledger) (kind : Kind) (name : String) : Option Body :=
  (l.entries.find? (Entry.isFor kind name)).map (·.body)

/-- The position of the entry that a caller's body is. -/
def position? (l : Ledger) (x : Held Body) : Option Nat :=
  (l.entries.findIdx? (Entry.isFor x.value.kind x.value.name)).filter fun i =>
    (l.entries[i]?).any fun e => Catalog.isStoredAt i e.body x

/-- The bodies whose parent stands at a position, each with its own position. -/
def childrenAt (l : Ledger) (position : Nat) : List (Held Body) :=
  (l.entries.zipIdx.filter (·.1.parent == some position)).map fun e => ⟨e.1.body, some e.2⟩

/-- The children of a caller's body; nothing when it is not in the ledger or has none. -/
def children? (l : Ledger) (x : Held Body) : Option (List (Held Body)) :=
  ((l.position? x).map l.childrenAt).filter (!·.isEmpty)

/-- The names of a kind in ascending order. -/
def listNames (l : Ledger) (kind : Kind) : List String :=
  ((l.entries.filter (·.body.kind == kind)).map (·.body.name)).mergeSort fun a b => decide (a ≤ b)

def count (l : Ledger) (kind : Kind) : Nat := l.entries.countP (·.body.kind == kind)

def append (l : Ledger) (body : Body) (parent : Option Nat) : Ledger :=
  ⟨l.entries ++ [⟨body, parent⟩]⟩

/-- Appends a body, unless an earlier entry has its kind and name, or its parent is not in the
ledger; then nothing is appended. -/
def put (l : Ledger) (body : Body) (parent : Option (Held Body)) : Ledger × Except AddFault Nat :=
  if l.entries.any (Entry.isFor body.kind body.name) then
    (l, .error (.duplicate body.kind body.name))
  else
    match parent with
    | none => (l.append body none, .ok l.size)
    | some p =>
      match l.position? p with
      | some i => (l.append body (some i), .ok l.size)
      | none => (l, .error (.unknownParent p.value.kind p.value.name))

end Ledger

end SkyCatalog
