import SkyCatalog.Command.Basic
import SkyCatalog.Command.SyntaxFault
import SkyCatalog.Numeral.Integer
import SkyCatalog.Text.Quoted

/-!
# The journal — what is logged, and by which part

Every part of the program logs on a channel of its own. An event is kept as data; its
severity and its wording follow from it. Which events reach a log is decided by a threshold
when they are written.
-/

namespace SkyCatalog

/-- Where an event comes from. -/
inductive Channel where
  | parser
  | catalog
  | executor
  | console
deriving DecidableEq, Repr

def Channel.name : Channel → String
  | parser => "galaxy_db.parser"
  | catalog => "galaxy_db.catalog"
  | executor => "galaxy_db.executor"
  | console => "galaxy_db.console"

/-- How much an event matters. -/
inductive LogLevel where
  | debug
  | info
  | warning
deriving DecidableEq, Repr

namespace LogLevel

def word : LogLevel → String
  | debug => "DEBUG"
  | info => "INFO"
  | warning => "WARNING"

/-- The weight that thresholds compare. -/
def weight : LogLevel → Nat
  | debug => 10
  | info => 20
  | warning => 30

end LogLevel

/-- A body as the log names it. -/
structure Mention where
  kind : Kind
  name : String
  handle : Nat
deriving DecidableEq, Repr

/-- A kind, a name and a handle. -/
def Mention.text (m : Mention) : String :=
  s!"{m.kind.word} {m.name} (#{Numeral.written m.handle})"

/-- What can be logged. -/
inductive Event where
  | parsed (tag : Command.Tag)
  | rejected (line : String) (fault : SyntaxFault)
  | added (body : Mention) (parent : Option Mention)
  | duplicate (kind : Kind) (name : String)
  | listed (kind : Kind)
  | exitRequested
  | started
  | stopped (size : Nat)
deriving DecidableEq, Repr

namespace Event

def channel : Event → Channel
  | parsed _ | rejected .. => .parser
  | added .. | duplicate .. | listed _ => .catalog
  | exitRequested => .executor
  | started | stopped _ => .console

def level : Event → LogLevel
  | started | stopped _ => .info
  | duplicate .. => .warning
  | _ => .debug

def message : Event → String
  | parsed tag => s!"Parsed {tag.word} command"
  | rejected line fault => s!"Rejected input {Text.quoted line}: {fault.message}"
  | added body none => s!"Added {body.text}"
  | added body (some parent) => s!"Added {body.text} under {parent.text}"
  | duplicate kind name => s!"Rejected duplicate {kind.word}: {name}"
  | listed kind => s!"list_names() called with {kind.word}"
  | exitRequested => "Exit requested"
  | started => "Console started"
  | stopped size => s!"Console stopped with {Numeral.written size} bodies recorded"

end Event

end SkyCatalog
