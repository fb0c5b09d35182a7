import SkyCatalog.Console.Start
import SkyCatalog.Text.ControlSequence
import SkyCatalog.Text.Quoted
import SkyCatalog.Text.Similar

/-!
# Options — what the program is called with

One way to understand arguments, and the one that the program is run with. There are two options
with a value and one for help. A value follows its option, or is joined to it by `=`; given twice,
the last one counts. After `--` nothing is an option. All arguments are read before any value is
judged: an option that does not exist, or one whose value is missing, is reported first, then help
is given, then values are judged, and arguments that belong to no option come last.

A spelling that comes close to an option is taken for a slip, and the option is named.
-/

namespace SkyCatalog.Console

/-- The options with a value. -/
inductive Valued where
  | prompt
  | logLevel
deriving DecidableEq, Repr

def Valued.spelling : Valued → String
  | prompt => "--prompt"
  | logLevel => "--log-level"

def helpSpelling : String := "--help"

/-- The spellings of all options, in ascending order. -/
def optionSpellings : List String :=
  [helpSpelling, Valued.logLevel.spelling, Valued.prompt.spelling]

/-- What may have been meant by a spelling that is no option. -/
def hint (spelling : String) : String :=
  let close := optionSpellings.filter fun o => Text.isClose o.toList spelling.toList
  match close.map Text.quoted with
  | [] => ""
  | [meant] => s!" Did you mean {meant}?"
  | several =>
    let listed := ", ".intercalate several
    s!" (Did you mean one of: {listed}?)"

def levelChoices : List String := ["debug", "info", "warning", "error"]

/-- Why the arguments are not understood. -/
inductive UsageFault where
  | unknownOption (spelling : String)
  | missingValue (spelling : String)
  | needlessValue (spelling : String)
  | unknownLevel (word : String)
  | extraArguments (arguments : List String)
deriving DecidableEq, Repr

namespace UsageFault

def message : UsageFault → String
  | unknownOption spelling => s!"No such option {Text.quoted spelling}.{hint spelling}"
  | missingValue spelling => s!"Option {Text.quoted spelling} requires an argument."
  | needlessValue spelling => s!"Option {Text.quoted spelling} does not take a value."
  | unknownLevel word =>
    let choices := ", ".intercalate (levelChoices.map Text.quoted)
    s!"Invalid value for '{Valued.logLevel.spelling}': {Text.quoted word} is not one of {choices}."
  | extraArguments arguments =>
    let noun := if arguments.length = 1 then "argument" else "arguments"
    let listed := " ".intercalate arguments
    s!"Got unexpected extra {noun} ({listed})"

/-- Whether a reminder of the usage goes before the wording. -/
def showsUsage : UsageFault → Bool
  | missingValue _ | needlessValue _ => false
  | _ => true

def usage : String := "Usage: main [OPTIONS]\nTry 'main --help' for help.\n\n"

/-- What is shown for a fault. -/
def text (f : UsageFault) : String :=
  (if f.showsUsage then usage else "") ++ s!"Error: {f.message}\n"

/-- What is shown for a fault where no terminal shows it. -/
def plainText (f : UsageFault) : String := String.ofList (Text.dropSequences f.text.toList)

end UsageFault

def helpText : String :=
  "Usage: main [OPTIONS]\n\n" ++
  "  Record and browse galaxies, stars, planets and moons.\n\n" ++
  "Options:\n" ++
  "  --prompt TEXT                   Prompt shown before each line\n" ++
  "  --log-level [debug|info|warning|error]\n" ++
  "                                  Logging level\n" ++
  "  --help                          Show this message and exit.\n"

/-- What an argument is by itself. -/
inductive Argument where
  | plain
  | endOfOptions
  | help
  | valued (option : Valued) (value : Option String)
  | bad (fault : UsageFault)
deriving DecidableEq, Repr

namespace Argument

/-- An argument cut at its first `=`, if it has one. -/
def cut (arg : String) : String × Option String :=
  let s := arg.toList
  let name := String.ofList (s.takeWhile (· != '='))
  match s.dropWhile (· != '=') with
  | [] => (name, none)
  | _ :: value => (name, some (String.ofList value))

/-- What an argument that begins with a dash is. -/
def ofDashed (arg : String) : Argument :=
  let (name, value) := cut arg
  if name = Valued.prompt.spelling then valued .prompt value
  else if name = Valued.logLevel.spelling then valued .logLevel value
  else if name = helpSpelling then
    match value with
    | none => help
    | some _ => bad (.needlessValue name)
  else
    match arg.toList with
    | '-' :: '-' :: _ => bad (.unknownOption name)
    | s => bad (.unknownOption (String.ofList (s.take 2)))

/-- What an argument is. -/
def of (arg : String) : Argument :=
  if arg = "--" then endOfOptions
  else
    match arg.toList with
    | '-' :: _ :: _ => ofDashed arg
    | _ => plain

end Argument

/-- What has been read of the arguments. -/
structure Seen where
  prompt : Option String := none
  logLevel : Option String := none
  help : Bool := false
  extra : List String := []
deriving DecidableEq, Repr

namespace Seen

def put (seen : Seen) (option : Valued) (value : String) : Seen :=
  match option with
  | .prompt => { seen with prompt := some value }
  | .logLevel => { seen with logLevel := some value }

/-- Reads arguments from left to right. -/
def read (seen : Seen) : List String → Except UsageFault Seen
  | [] => .ok seen
  | arg :: rest =>
    match Argument.of arg with
    | .plain => read { seen with extra := seen.extra ++ [arg] } rest
    | .endOfOptions => .ok { seen with extra := seen.extra ++ rest }
    | .help => read { seen with help := true } rest
    | .bad fault => .error fault
    | .valued option (some value) => read (seen.put option value) rest
    | .valued option none =>
      match rest with
      | [] => .error (.missingValue option.spelling)
      | value :: rest => read (seen.put option value) rest

end Seen

/-- The level that is asked for, in capitals. -/
def checkLevel (word : String) : Except UsageFault String :=
  if levelChoices.contains (lowered word) then .ok (word.map Char.toUpper)
  else .error (.unknownLevel word)

/-- What arguments ask for. -/
def Request.ofArguments (args : List String) : Except UsageFault Request := do
  let seen ← Seen.read {} args
  if seen.help then pure (.help helpText)
  else
    let logLevel ← seen.logLevel.mapM checkLevel
    if seen.extra.isEmpty then pure (.run ⟨seen.prompt, logLevel⟩)
    else throw (.extraArguments seen.extra)

end SkyCatalog.Console
