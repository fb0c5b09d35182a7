import SkyCatalog.Console.Settings
import SkyCatalog.Journal

/-!
# Logging — which events are written, and how

A threshold is set by the name of a level. Names are compared in capitals, and a name that
is not known stands for the level of warnings. An event is written when it weighs at least
as much as the threshold.
-/

namespace SkyCatalog.Console

/-- The levels that a threshold can be named by, with their weights. -/
def levelWeights : List (String × Nat) := [
  ("CRITICAL", 50), ("FATAL", 50), ("ERROR", 40), ("WARN", 30), ("WARNING", 30), ("INFO", 20),
  ("DEBUG", 10), ("NOTSET", 0)]

/-- The threshold for a level that is not known. -/
def defaultThreshold : Nat := LogLevel.warning.weight

/-- A capital letter. The dotless i and the long s have capitals among the letters A to Z too. -/
def capital (c : Char) : Char :=
  if c = 'ı' then 'I' else if c = 'ſ' then 'S' else c.toUpper

/-- The threshold that a level name sets. -/
def threshold (name : String) : Nat :=
  (levelWeights.lookup (name.map capital)).getD defaultThreshold

namespace LogFormat

/-- The layout with a name; any other than the simple one is the detailed one. -/
def ofName (name : String) : LogFormat := if name = simple.word then simple else detailed

def pattern : LogFormat → String
  | simple => "%(levelname)s: %(message)s"
  | detailed => "%(asctime)s - %(name)s - %(levelname)s - %(message)s"

/-- The line of an event that was logged at a time. -/
def line (format : LogFormat) (time : String) (e : Event) : String :=
  match format with
  | simple => s!"{e.level.word}: {e.message}"
  | detailed => s!"{time} - {e.channel.name} - {e.level.word} - {e.message}"

end LogFormat

/-- Whether an event is written at a threshold. -/
def isWritten (threshold : Nat) (e : Event) : Bool := threshold ≤ e.level.weight

/-- The log of some events. -/
def logText (format : LogFormat) (threshold : Nat) (time : String) (events : List Event) : String :=
  String.join ((events.filter (isWritten threshold)).map fun e => format.line time e ++ "\n")

end SkyCatalog.Console
