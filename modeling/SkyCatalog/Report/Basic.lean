import SkyCatalog.Body.Basic

/-!
# Payloads — what a command has to say

A payload is the outcome of a command as data: a notice, a list of names, the counts, or the
report on one galaxy as a tree of three levels. How it is written is another matter.
-/

namespace SkyCatalog

inductive Severity where
  | error
  | warning
deriving DecidableEq, Repr

namespace Severity

def all : List Severity := [error, warning]

def word : Severity → String
  | error => "error"
  | warning => "warning"

def ofWord? (w : String) : Option Severity := all.find? (·.word == w)

end Severity

structure PlanetBranch where
  planet : Planet
  moons : List Moon
deriving DecidableEq, Repr

structure StarBranch where
  star : Star
  planets : List PlanetBranch
deriving DecidableEq, Repr

/-- A galaxy with its stars, their planets and the moons of these. -/
structure GalaxyReport where
  galaxy : Galaxy
  stars : List StarBranch
deriving DecidableEq, Repr

structure Counts where
  galaxies : Int
  stars : Int
  planets : Int
  moons : Int
deriving DecidableEq, Repr

/-- What a command has to say. -/
inductive Payload where
  | notice (message : String) (severity : Severity)
  | listing (label : String) (names : List String)
  | stats (counts : Counts)
  | report (report : GalaxyReport)
deriving DecidableEq, Repr

namespace Payload

/-- What a payload is about, without its content. -/
inductive Tag where
  | notice
  | listing
  | stats
  | report
deriving DecidableEq, Repr

namespace Tag

def all : List Tag := [notice, listing, stats, report]

def word : Tag → String
  | notice => "notice"
  | listing => "listing"
  | stats => "stats"
  | report => "galaxy_report"

def ofWord? (w : String) : Option Tag := all.find? (·.word == w)

end Tag

def tag : Payload → Tag
  | notice .. => .notice
  | listing .. => .listing
  | stats _ => .stats
  | report _ => .report

end Payload

end SkyCatalog
