import SkyCatalog.Body.Basic

/-!
# The catalog — bodies in order, three indexes over them

A body's handle is its position in the order of acceptance, and it never changes. Three
indexes are kept beside the bodies: per kind, the handle of each name and the names in
order; and, per parent handle, the handles of its children in the order they were added.
Links are between handles, so equal names of different kinds do not meet.

The catalog refuses a name that its kind already has, and a parent that it does not
recognise. It does not ask whether the parent is of the right kind: whoever names the
parent sees to that.
-/

namespace SkyCatalog

/-! ## §1  A value per kind -/

/-- One value for each kind. -/
structure ByKind (α : Type) where
  galaxy : α
  star : α
  planet : α
  moon : α
deriving DecidableEq, Repr

namespace ByKind

def get {α : Type} (t : ByKind α) : Kind → α
  | .galaxy => t.galaxy
  | .star => t.star
  | .planet => t.planet
  | .moon => t.moon

def modify {α : Type} (t : ByKind α) (k : Kind) (f : α → α) : ByKind α :=
  match k with
  | .galaxy => { t with galaxy := f t.galaxy }
  | .star => { t with star := f t.star }
  | .planet => { t with planet := f t.planet }
  | .moon => { t with moon := f t.moon }

/-- The same value for every kind. -/
def all {α : Type} (a : α) : ByKind α := ⟨a, a, a, a⟩

@[simp] theorem get_all {α : Type} (a : α) (k : Kind) : (all a).get k = a := by cases k <;> rfl

@[simp] theorem get_modify_self {α : Type} (t : ByKind α) (k : Kind) (f : α → α) :
    (t.modify k f).get k = f (t.get k) := by cases k <;> rfl

theorem get_modify_of_ne {α : Type} (t : ByKind α) {k l : Kind} (h : l ≠ k) (f : α → α) :
    (t.modify k f).get l = t.get l := by cases k <;> cases l <;> first | rfl | exact absurd rfl h

end ByKind

/-! ## §2  The indexes -/

/-- Insertion into an ascending list of names. -/
def insertName (name : String) : List String → List String
  | [] => [name]
  | n :: ns => if name < n then name :: n :: ns else n :: insertName name ns

/-- One more child under a parent handle, after the earlier ones. -/
def linkChild (parent child : Nat) : List (Nat × List Nat) → List (Nat × List Nat)
  | [] => [(parent, [child])]
  | (p, cs) :: rest =>
    if p = parent then (p, cs ++ [child]) :: rest else (p, cs) :: linkChild parent child rest

/-- The store of bodies with its indexes. -/
structure Catalog where
  bodies : List Body
  handles : ByKind (List (String × Nat))
  names : ByKind (List String)
  children : List (Nat × List Nat)
deriving DecidableEq, Repr

/-- Why a body is not added. -/
inductive AddFault where
  | duplicate (kind : Kind) (name : String)
  | unknownParent (kind : Kind) (name : String)
deriving DecidableEq, Repr

def AddFault.message : AddFault → String
  | duplicate kind name => s!"{kind.displayName} {name} already exists."
  | unknownParent kind name => s!"{kind.displayName} {name} is not in the catalog"

namespace Catalog

def empty : Catalog := ⟨[], .all [], .all [], []⟩

def size (c : Catalog) : Nat := c.bodies.length

/-! ## §3  Queries -/

/-- The handle of the body with a kind and a name. -/
def lookup? (c : Catalog) (kind : Kind) (name : String) : Option Nat :=
  (c.handles.get kind).lookup name

def find? (c : Catalog) (kind : Kind) (name : String) : Option Body :=
  (c.lookup? kind name).bind (c.bodies[·]?)

/-- The stored body at a handle, as a caller takes it out. -/
def held? (c : Catalog) (handle : Nat) : Option (Held Body) :=
  c.bodies[handle]?.map fun b => ⟨b, some handle⟩

/-- The stored body with a kind and a name, as a caller takes it out. -/
def fetch? (c : Catalog) (kind : Kind) (name : String) : Option (Held Body) :=
  (c.lookup? kind name).bind c.held?

/-- Whether a caller's body is the one stored at a handle: it was taken from there, or it agrees
with the stored record in every field. -/
def isStoredAt (handle : Nat) (stored : Body) (x : Held Body) : Bool :=
  (x.origin == some handle && x.value == stored) || stored.agrees x.value

/-- The handle of a caller's body, if it is stored. -/
def handleOf? (c : Catalog) (x : Held Body) : Option Nat :=
  (c.lookup? x.value.kind x.value.name).filter fun h =>
    match c.bodies[h]? with
    | some stored => isStoredAt h stored x
    | none => false

/-- The handles of the children of a handle; nothing when it never had a child. -/
def childHandles? (c : Catalog) (handle : Nat) : Option (List Nat) := c.children.lookup handle

/-- The children of a caller's body in the order they were added; nothing when it is not stored
or never had a child. -/
def children? (c : Catalog) (x : Held Body) : Option (List (Held Body)) :=
  (c.handleOf? x).bind fun h => (c.childHandles? h).map fun hs => hs.filterMap c.held?

/-- The names of a kind in ascending order of their characters. -/
def listNames (c : Catalog) (kind : Kind) : List String := c.names.get kind

def count (c : Catalog) (kind : Kind) : Nat := (c.handles.get kind).length

/-! ## §4  Adding -/

/-- The catalog with one more body, linked under a parent handle if one is given. -/
def insert (c : Catalog) (body : Body) (parent : Option Nat) : Catalog where
  bodies := c.bodies ++ [body]
  handles := c.handles.modify body.kind ((body.name, c.size) :: ·)
  names := c.names.modify body.kind (insertName body.name)
  children :=
    match parent with
    | some p => linkChild p c.size c.children
    | none => c.children

/-- The handle that a body is to be linked under, if any; a parent must be stored. -/
def parentHandle (c : Catalog) : Option (Held Body) → Except AddFault (Option Nat)
  | none => .ok none
  | some p =>
    match c.handleOf? p with
    | some h => .ok (some h)
    | none => .error (.unknownParent p.value.kind p.value.name)

/-- Work on a catalog that may break off. What it has changed by then stays changed. -/
abbrev Work := ExceptT AddFault (StateM Catalog)

/-- Stores a body under a parent, if one is given: first the checks, a name that is taken before a
parent that is not stored, and then one change after another. -/
def store (body : Body) (parent : Option (Held Body)) : Work Nat := do
  let c ← get
  if (c.lookup? body.kind body.name).isSome then throw (.duplicate body.kind body.name)
  let under ← ofExcept (c.parentHandle parent)
  -- all checks are passed
  let handle := c.size
  modify fun c => { c with bodies := c.bodies ++ [body] }
  modify fun c => { c with handles := c.handles.modify body.kind ((body.name, handle) :: ·) }
  modify fun c => { c with names := c.names.modify body.kind (insertName body.name) }
  if let some p := under then
    modify fun c => { c with children := linkChild p handle c.children }
  return handle

/-- The catalog as storing a body leaves it, whatever came of it, and what did: the handle of the
body, or a fault. -/
def put (c : Catalog) (body : Body) (parent : Option (Held Body)) : Catalog × Except AddFault Nat :=
  ((store body parent).run.run c).swap

/-- The catalog with a body added, and the handle of the body, for callers that stop at a fault. -/
def add (c : Catalog) (body : Body) (parent : Option (Held Body)) :
    Except AddFault (Catalog × Nat) :=
  let (c', outcome) := c.put body parent
  outcome.map (c', ·)

end Catalog

end SkyCatalog
