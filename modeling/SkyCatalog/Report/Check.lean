import SkyCatalog.Body.Check
import SkyCatalog.Report.Basic

/-!
# Payload records — payloads given field by field

A payload can be given as a record, down to the moons of a report. What is left out has a
default wherever a payload can do without it: a notice is an error, a list is empty, a count
is zero.
-/

namespace SkyCatalog

namespace Payload

structure PlanetBranchDraft where
  planet : Field Body.Draft := .absent
  moons : Field (List (Field Body.Draft)) := .absent
deriving DecidableEq, Repr

structure StarBranchDraft where
  star : Field Body.Draft := .absent
  planets : Field (List (Field PlanetBranchDraft)) := .absent
deriving DecidableEq, Repr

structure Draft where
  tag : Field String := .absent
  message : Field String := .absent
  severity : Field String := .absent
  label : Field String := .absent
  names : Field (List (Field String)) := .absent
  galaxies : Field Int := .absent
  stars : Field Int := .absent
  planets : Field Int := .absent
  moons : Field Int := .absent
  galaxy : Field Body.Draft := .absent
  branches : Field (List (Field StarBranchDraft)) := .absent
deriving DecidableEq, Repr

namespace Draft

/-- A body whose kind is fixed: its kind, if given, then its other fields. -/
def checkOfKind {α : Type} (k : Kind) (rest : Body.Draft → Checked α) (d : Body.Draft) :
    Checked α :=
  (fun _ a => a) <$> d.checkKind k <*> rest d

/-- A member of a list, which must be given. -/
def checkMember {α β : Type} (ofNull : Problem) (check : α → Checked β) : Field α → Checked β
  | .given a => check a
  | _ => .fail ofNull

def checkPlanetBranch (d : PlanetBranchDraft) : Checked PlanetBranch :=
  PlanetBranch.mk
    <$> d.planet.require "planet" (.notOfKind .planet) (checkOfKind .planet (·.planet))
    <*> d.moons.optional "moons" [] .notList
      (Checked.each (checkMember (.notOfKind .moon) (checkOfKind .moon (·.moon))))

def checkStarBranch (d : StarBranchDraft) : Checked StarBranch :=
  StarBranch.mk
    <$> d.star.require "star" (.notOfKind .star) (checkOfKind .star (·.star))
    <*> d.planets.optional "planets" [] .notList
      (Checked.each (checkMember (.notBranch .planet) checkPlanetBranch))

def checkSeverity (w : String) : Checked Severity :=
  match Severity.ofWord? w with
  | some s => .ok s
  | none => .fail (.notLiteral (Severity.all.map (·.word)))

def ofTag (d : Draft) : Tag → Checked Payload
  | .notice =>
    .notice <$> d.message.text "message"
      <*> d.severity.optional "severity" .error (.notLiteral (Severity.all.map (·.word)))
        checkSeverity
  | .listing =>
    .listing <$> d.label.text "label"
      <*> d.names.optional "names" [] .notList (Checked.each (checkMember .notText .ok))
  | .stats =>
    .stats <$> (Counts.mk <$> d.galaxies.optional "galaxies" 0 .notWhole .ok
      <*> d.stars.optional "stars" 0 .notWhole .ok
      <*> d.planets.optional "planets" 0 .notWhole .ok
      <*> d.moons.optional "moons" 0 .notWhole .ok)
  | .report =>
    .report <$> (GalaxyReport.mk
      <$> d.galaxy.require "galaxy" (.notOfKind .galaxy) (checkOfKind .galaxy (·.galaxy))
      <*> d.branches.optional "stars" [] .notList
        (Checked.each (checkMember (.notBranch .star) checkStarBranch)))

/-- Checks a record that may be a payload of any kind. -/
def check (d : Draft) : Checked Payload :=
  (d.tag.tag "payload" (Tag.all.map fun t => inQuotes t.word) Tag.ofWord?).andThen fun tag =>
    (d.ofTag tag).under tag.word

end Draft

end Payload

end SkyCatalog
