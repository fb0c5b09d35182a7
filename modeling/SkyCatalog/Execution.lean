import SkyCatalog.Catalog.Basic
import SkyCatalog.Command.Basic
import SkyCatalog.Journal
import SkyCatalog.Report.Basic

/-!
# Execution — a command's effect on a catalog

A command is answered with the catalog after it, whether to go on, what it has to say, and
what is logged. A name that is already taken is an answer, a warning. A parent that is not
stored is a fault of whoever made the command, and the command is not answered. Each kind of
command has a handler, which is looked up in a table.

The report on a galaxy follows the links three levels down and keeps, of the children at
each level, those of the kind that belongs there.
-/

namespace SkyCatalog

/-- What a command did. -/
structure Effect where
  catalog : Catalog
  keepRunning : Bool := true
  payload : Option Payload := none
  events : List Event := []
deriving DecidableEq, Repr

namespace Catalog

/-- The children of a caller's body of which a view exists, in order; the others are skipped. -/
def childrenOfKind {α : Type} (c : Catalog) (view : Body → Option α) (x : Held Body) :
    List (Held α) :=
  ((c.children? x).getD []).filterMap (Held.filterMap view)

def planetBranch (c : Catalog) (p : Held Planet) : PlanetBranch :=
  ⟨p.value, (c.childrenOfKind Body.moon? (p.map .planet)).map (·.value)⟩

def starBranch (c : Catalog) (s : Held Star) : StarBranch :=
  ⟨s.value, (c.childrenOfKind Body.planet? (s.map .star)).map c.planetBranch⟩

def report (c : Catalog) (g : Held Galaxy) : GalaxyReport :=
  ⟨g.value, (c.childrenOfKind Body.star? (g.map .galaxy)).map c.starBranch⟩

def counts (c : Catalog) : Counts :=
  ⟨c.count .galaxy, c.count .star, c.count .planet, c.count .moon⟩

/-- How the log names a body with a handle. -/
def mention (body : Body) (handle : Nat) : Mention := ⟨body.kind, body.name, handle⟩

/-- How the log names the parent of a new body. -/
def parentMention (c : Catalog) (parent : Option (Held Body)) : Option Mention :=
  parent.bind fun p => (c.handleOf? p).map (mention p.value)

end Catalog

namespace Command

/-! ## §1  What is done about each kind of command -/

/-- Puts a body into a catalog; a name that is taken makes a warning. The catalog after it is the
one that storing leaves, also after a warning. -/
def executeAdd (c : Catalog) (body : Body) (parent : Option (Held Body)) : Except AddFault Effect :=
  match c.put body parent with
  | (c', .ok handle) =>
    .ok { catalog := c', events := [.added (Catalog.mention body handle) (c.parentMention parent)] }
  | (c', .error (.duplicate kind name)) =>
    .ok
      { catalog := c'
        payload := some (.notice (AddFault.duplicate kind name).message .warning)
        events := [.duplicate kind name] }
  | (_, .error fault) => .error fault

/-- What is done about the commands of one kind. It does not know any others. -/
abbrev Handler := Catalog → Command → Option (Except AddFault Effect)

namespace Handler

def nothing : Handler
  | c, .nothing => some (.ok { catalog := c })
  | _, _ => none

def complain : Handler
  | c, .complain message => some (.ok { catalog := c, payload := some (.notice message .error) })
  | _, _ => none

def add : Handler
  | c, .add body parent => some (executeAdd c body parent)
  | _, _ => none

def list : Handler
  | c, .list kind label =>
    some <| .ok
      { catalog := c
        payload := some (.listing label (c.listNames kind))
        events := [.listed kind] }
  | _, _ => none

def stats : Handler
  | c, .stats => some (.ok { catalog := c, payload := some (.stats c.counts) })
  | _, _ => none

def print : Handler
  | c, .print galaxy => some (.ok { catalog := c, payload := some (.report (c.report galaxy)) })
  | _, _ => none

def exit : Handler
  | c, .exit => some (.ok { catalog := c, keepRunning := false, events := [.exitRequested] })
  | _, _ => none

end Handler

/-! ## §2  Dispatch -/

/-- The handlers by the kinds of commands that they are for. -/
def handlers : List (Tag × Handler) := [
  (.nothing, .nothing), (.complain, .complain), (.add, .add), (.list, .list), (.stats, .stats),
  (.print, .print), (.exit, .exit)]

/-- What the handler for a command makes of it, if there is one and it knows the command. -/
def handled? (c : Catalog) (cmd : Command) : Option (Except AddFault Effect) :=
  (handlers.lookup cmd.tag).bind fun handler => handler c cmd

/-- No kind of command lacks its handler. -/
theorem isSome_handled? (c : Catalog) (cmd : Command) : (handled? c cmd).isSome := by
  cases cmd <;> rfl

/-- The effect of a command on a catalog. -/
def execute (c : Catalog) (cmd : Command) : Except AddFault Effect :=
  (handled? c cmd).get (isSome_handled? c cmd)

theorem handled?_eq (c : Catalog) (cmd : Command) : handled? c cmd = some (cmd.execute c) :=
  (Option.some_get (isSome_handled? c cmd)).symm

theorem execute_add (c : Catalog) (body : Body) (parent : Option (Held Body)) :
    (add body parent).execute c = executeAdd c body parent := rfl

end Command

end SkyCatalog
