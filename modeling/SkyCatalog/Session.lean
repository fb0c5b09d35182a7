import SkyCatalog.Command.Reading
import SkyCatalog.Execution
import SkyCatalog.Report.Lines

/-!
# Sessions — one line after another on one catalog

A step reads a line against the catalog and executes the command; a session is the fold of
steps over its lines. A session goes on after an `exit`: ending a conversation is the
console's affair.
-/

namespace SkyCatalog

/-- What reading a line logs. Only a fault met after the first word of a command is logged as
rejected; blank lines, unknown commands, extra input and the end of input are passed over. -/
def Reading.events (line : Option String) : Reading → List Event
  | accepted command => [.parsed command.tag]
  | refused fault => [.rejected (line.getD "") fault]
  | _ => []

/-- One step of a session. -/
structure Step where
  command : Command
  effect : Effect
  events : List Event
deriving DecidableEq, Repr

/-- Whether a step added a body: this was its command, and no warning came of it. -/
def Step.adds (s : Step) : Bool := s.command.tag == .add && s.effect.payload.isNone

namespace Session

/-- Reads a line, or the end of the input, and executes what it says. -/
def step (c : Catalog) (line : Option String) : Except AddFault Step :=
  let reading := Reading.of c line
  (reading.command.execute c).map fun effect =>
    ⟨reading.command, effect, reading.events line ++ effect.events⟩

/-- The catalog after a line. -/
def next (c : Catalog) (line : Option String) : Except AddFault Catalog :=
  (step c line).map (·.effect.catalog)

/-- The catalog after some lines. -/
def run (c : Catalog) (lines : List (Option String)) : Except AddFault Catalog :=
  lines.foldlM next c

/-- The steps of a session, one for each line. -/
def steps (c : Catalog) : List (Option String) → Except AddFault (List Step)
  | [] => .ok []
  | line :: rest => do
    let s ← step c line
    let later ← steps s.effect.catalog rest
    return s :: later

/-- The lines of a session that add a body. -/
def accepted (c : Catalog) : List (Option String) → List (Option String)
  | [] => []
  | line :: rest =>
    match step c line with
    | .ok s =>
      if s.adds then line :: accepted s.effect.catalog rest else accepted s.effect.catalog rest
    | .error _ => accepted c rest

@[simp] theorem run_nil (c : Catalog) : run c [] = .ok c := rfl

/-- A session over two lists of lines goes through the first and then through the second. -/
theorem run_append (c : Catalog) (xs ys : List (Option String)) :
    run c (xs ++ ys) = run c xs >>= (run · ys) := by
  simp [run, List.foldlM_append]

end Session

/-- The catalogs that can come about: from the empty one, by bodies that are put in, accepted or
not, and by lines, in any order. -/
inductive Catalog.Reachable : Catalog → Prop where
  | empty : Reachable .empty
  | put {c : Catalog} (before : Reachable c) (body : Body) (parent : Option (Held Body)) :
      Reachable (c.put body parent).1
  | line {c c' : Catalog} {line : Option String} (before : Reachable c)
      (stepped : Session.next c line = .ok c') : Reachable c'

/-- The catalogs that a catalog can become, by the same two ways of going on. -/
inductive Catalog.LeadsTo (c : Catalog) : Catalog → Prop where
  | refl : LeadsTo c c
  | put {d : Catalog} (before : LeadsTo c d) (body : Body) (parent : Option (Held Body)) :
      LeadsTo c (d.put body parent).1
  | line {d e : Catalog} {line : Option String} (before : LeadsTo c d)
      (stepped : Session.next d line = .ok e) : LeadsTo c e

end SkyCatalog
