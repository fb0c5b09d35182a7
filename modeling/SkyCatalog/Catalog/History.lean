import SkyCatalog.Catalog.Ledger

/-!
# Histories — one attempt at adding after another

Whoever adds bodies keeps going after a refusal, with the store as the refusal has left it. A
history is a list of attempts, made in order; its outcomes are the handles given and the refusals
met. The catalog and the ledger take the same histories.
-/

namespace SkyCatalog

/-- An attempt: a body, and the parent that it is to be added under, if any. -/
structure Addition where
  body : Body
  parent : Option (Held Body) := none
deriving DecidableEq, Repr

/-- How a store takes a body: the store after it, and what came of it. -/
abbrev Putting (σ : Type) := σ → Body → Option (Held Body) → σ × Except AddFault Nat

/-- The store after a history, and what came of each attempt. -/
def attempts {σ : Type} (put : Putting σ) (s : σ) : List Addition → σ × List (Except AddFault Nat)
  | [] => (s, [])
  | a :: rest =>
    let (s', outcome) := put s a.body a.parent
    let (s'', outcomes) := attempts put s' rest
    (s'', outcome :: outcomes)

end SkyCatalog
