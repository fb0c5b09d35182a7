import SkyCatalog.Body.Basic

/-!
# Commands — what a line asks for

A command carries everything that its execution needs besides the catalog: bodies, not
names. Those that were looked up in a catalog are held, so that execution recognises them.
-/

namespace SkyCatalog

inductive Command where
  | nothing
  | complain (message : String)
  | add (body : Body) (parent : Option (Held Body))
  | list (kind : Kind) (label : String)
  | stats
  | print (galaxy : Held Galaxy)
  | exit
deriving DecidableEq, Repr

namespace Command

/-- What a command does, without what it does it with. -/
inductive Tag where
  | nothing
  | complain
  | add
  | list
  | stats
  | print
  | exit
deriving DecidableEq, Repr

namespace Tag

def all : List Tag := [nothing, complain, add, list, stats, print, exit]

def word : Tag → String
  | nothing => "noop"
  | complain => "show_error"
  | add => "add"
  | list => "list"
  | stats => "stats"
  | print => "print"
  | exit => "exit"

def ofWord? (w : String) : Option Tag := all.find? (·.word == w)

end Tag

def tag : Command → Tag
  | nothing => .nothing
  | complain _ => .complain
  | add .. => .add
  | list .. => .list
  | stats => .stats
  | print _ => .print
  | exit => .exit

end Command

end SkyCatalog
