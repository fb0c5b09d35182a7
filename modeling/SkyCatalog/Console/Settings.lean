import SkyCatalog.Body.Check

/-!
# Settings — how the console is set up

A setting is taken from the values given by the program, else from the environment, else
from its default, each setting by itself. Taking them is a function of what is given and of
the environment, or fails with all faults.

One set of settings is shared by the whole process. It is built when first asked for and
kept until it is replaced; a failure keeps nothing. Sets are numbered as they are made, so
that a kept set can be told from a new one with equal values.
-/

namespace SkyCatalog.Console

/-! ## §1  The settings -/

inductive LogFormat where
  | simple
  | detailed
deriving DecidableEq, Repr

namespace LogFormat

def all : List LogFormat := [simple, detailed]

def word : LogFormat → String
  | simple => "simple"
  | detailed => "detailed"

def ofWord? (w : String) : Option LogFormat := all.find? (·.word == w)

end LogFormat

structure Settings where
  prompt : String := "> "
  logLevel : String := "WARNING"
  logFormat : LogFormat := .simple
  color : Bool := true
deriving DecidableEq, Repr

/-- The variables of the process, with their values. -/
abbrev Environment := List (String × String)

/-- A flag as it is given: as such, or as a word for it. -/
inductive RawFlag where
  | flag (value : Bool)
  | word (text : String)
deriving DecidableEq, Repr

/-- The values given by the program. -/
structure Settings.Draft where
  prompt : Field String := .absent
  logLevel : Field String := .absent
  logFormat : Field String := .absent
  color : Field RawFlag := .absent
deriving DecidableEq, Repr

/-! ## §2  Taking them -/

/-- The words for yes and no, in lower case. -/
def flagWords : List (String × Bool) := [
  ("true", true), ("t", true), ("yes", true), ("y", true), ("on", true), ("1", true),
  ("false", false), ("f", false), ("no", false), ("n", false), ("off", false), ("0", false)]

/-- A text with the letters A to Z in lower case. -/
def lowered (s : String) : String := s.map Char.toLower

/-- What the names of all variables begin with, in lower case. -/
def variableStem : String := "galaxydb_"

/-- The value of the variable for a setting. Case does not matter in names, and of several
spellings the last one counts. -/
def Environment.value? (env : Environment) (setting : String) : Option String :=
  (env.reverse.find? fun v => lowered v.1 == variableStem ++ setting).map (·.2)

/-- What is given, or else what the environment has. -/
def Environment.orValue {α : Type} (env : Environment) (setting : String) (read : String → α)
    (given : Field α) : Field α :=
  match given with
  | .absent =>
    match env.value? setting with
    | some v => .given (read v)
    | none => .absent
  | f => f

def checkFlag : RawFlag → Checked Bool
  | .flag b => .ok b
  | .word w =>
    match flagWords.lookup (lowered w) with
    | some b => .ok b
    | none => .fail .unreadableFlag

def noLogFormat : Problem := .notLiteral (LogFormat.all.map (·.word))

def checkLogFormat (w : String) : Checked LogFormat :=
  match LogFormat.ofWord? w with
  | some f => .ok f
  | none => .fail noLogFormat

namespace Settings

/-- The settings for given values and an environment. -/
def make (env : Environment) (given : Draft) : Checked Settings :=
  let defaults : Settings := {}
  Settings.mk
    <$> (env.orValue "prompt" id given.prompt).optional "prompt" defaults.prompt .notText .ok
    <*> (env.orValue "log_level" id given.logLevel).optional "log_level" defaults.logLevel
      .notText .ok
    <*> (env.orValue "log_format" id given.logFormat).optional "log_format" defaults.logFormat
      noLogFormat checkLogFormat
    <*> (env.orValue "color" .word given.color).optional "color" defaults.color .notFlag checkFlag

/-! ## §3  The shared set -/

/-- A set of settings with its number. -/
structure Numbered where
  number : Nat
  settings : Settings
deriving DecidableEq, Repr

/-- How sets come about: from an environment and what is given, or not at all. -/
abbrev Construction := Environment → Draft → Checked Settings

/-- The set that the process shares, if any, how many sets have been made, and how one is made. -/
structure Cache where
  held : Option Numbered := none
  made : Nat := 0
  construct : Construction := Settings.make

namespace Cache

/-- Makes a set, which changes nothing but the count. -/
def make (cache : Cache) (env : Environment) (given : Draft) : Checked (Cache × Numbered) :=
  (cache.construct env given).map fun s =>
    ({ cache with made := cache.made + 1 }, ⟨cache.made, s⟩)

/-- Shares this set from now on, or none. -/
def share (cache : Cache) (set : Option Numbered) : Cache := { cache with held := set }

/-- The shared set; it is made from the environment when there is none. -/
def get (cache : Cache) (env : Environment) : Checked (Cache × Numbered) :=
  match cache.held with
  | some n => .ok (cache, n)
  | none => (cache.make env {}).map fun (cache, n) => (cache.share (some n), n)

/-- Shares a new set from now on. -/
def replace (cache : Cache) (env : Environment) (given : Draft) : Checked (Cache × Numbered) :=
  (cache.make env given).map fun (cache, n) => (cache.share (some n), n)

/-- Forgets the shared set. -/
def clear (cache : Cache) : Cache := cache.share none

end Cache

end Settings

end SkyCatalog.Console
