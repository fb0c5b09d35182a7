import SkyCatalog.Console.Program
import Std.Time

/-!
# The command — the program at a terminal

This is the outer layer: it reads arguments, variables and portions of the input, shows what the
library answers, and writes the log as things happen. Everything that is decided is decided by
`Libraries.plan` before the conversation, and by `Display.attend` in it.
-/

namespace SkyCatalog.Console

/-- The variables of the process that settings are taken from. -/
def readEnvironment : IO Environment := do
  let names := ["prompt", "log_level", "log_format", "color"].map (variableStem ++ ·)
  let spelled := names ++ names.map String.toUpper
  let values ← spelled.mapM fun name => do return (name, ← IO.getEnv name)
  return values.filterMap fun (name, value) => value.map (name, ·)

/-- The present time, as log lines show it. -/
def presentTime : IO String := do
  return (← Std.Time.PlainDateTime.now).format "uuuu-MM-dd HH:mm:ss,SSS"

def writeLog (s : Settings) (events : List Event) : IO Unit := do
  let text := logText s.logFormat (threshold s.logLevel) (← presentTime) events
  unless text.isEmpty do (← IO.getStderr).putStr text

def write (text : String) : IO Unit := do
  let stdout ← IO.getStdout
  stdout.putStr text
  stdout.flush

/-- Attends to one portion of the input after another. A portion ends with a line feed, the last one
perhaps without, and is empty at the end of the input. -/
partial def attendToUser (s : Settings) (d : Display) (m : Manner) (c : Catalog) : IO Catalog := do
  let portion ← (← IO.getStdin).getLine
  match d.attend m c portion.toList with
  | .error _ => throw (IO.userError "the line could not be answered")
  | .ok heard =>
    writeLog s heard.events
    write heard.output
    if heard.goesOn then attendToUser s d m heard.catalog else return heard.catalog

/-- The conversation at a terminal, its beginning and its end logged too. -/
def start (s : Settings) (d : Display) : IO Unit := do
  let m : Manner := ⟨s.prompt, s.color⟩
  writeLog s [.started]
  write (d.writePrompt m)
  let c ← attendToUser s d m .empty
  writeLog s [.stopped c.size]

/-- Ends the program before any conversation. -/
def finish (o : Outcome) : IO UInt32 := do
  write o.output
  let stderr ← IO.getStderr
  stderr.putStr o.errors
  for f in o.faults do
    let place := ".".intercalate f.path
    stderr.putStr s!"{place}: {f.problem.message}\n"
  return o.exitCode.toUInt32

/-- Does what arguments ask for. -/
def obey (args : List String) : IO UInt32 := do
  let lib := Libraries.own (← (← IO.getStdout).isTty) (← (← IO.getStderr).isTty)
  match lib.plan args (← readEnvironment) with
  | .error outcome => finish outcome
  | .ok settings =>
    start settings (lib.display settings.color)
    return 0

end SkyCatalog.Console

/-- Starts the program with the arguments of the command line. -/
def main (args : List String) : IO UInt32 := SkyCatalog.Console.obey args
