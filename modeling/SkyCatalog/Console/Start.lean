import SkyCatalog.Console.Logging
import SkyCatalog.Console.Loop
import SkyCatalog.Console.Settings

/-!
# The start — from arguments and an environment to a conversation

The arguments are judged before the environment, and the environment before any input is read. Who
judges them is left open: how arguments are understood, how settings are made and what the display
is like are affairs of libraries, and the program is the same for all of them. Its input is text;
bytes that stand for no text are not its concern. Every line ending of the input counts as a line
feed. What is logged goes to the error output, apart from the answers.
-/

namespace SkyCatalog.Console

/-- What the program is asked to override. -/
structure Options where
  prompt : Option String := none
  logLevel : Option String := none
deriving DecidableEq, Repr

/-- The settings with what the options override. -/
def Options.override (o : Options) (s : Settings) : Settings :=
  { s with prompt := o.prompt.getD s.prompt, logLevel := o.logLevel.getD s.logLevel }

/-- What the program is asked to do. -/
inductive Request where
  | help (text : String)
  | run (options : Options)
deriving DecidableEq, Repr

/-- How the program ended. -/
structure Outcome where
  exitCode : Nat
  output : String := ""
  errors : String := ""
  faults : List Fault := []
deriving DecidableEq, Repr

/-- The libraries around the program: how arguments are understood, or how the program ends when
they are not; how settings are made; and which display is used when notices are to be colored or
not. -/
structure Libraries where
  understand : List String → Except Outcome Request
  construct : Settings.Construction
  display : Bool → Display

namespace Libraries

/-- What the program does before it reads any input: it ends, or it goes on with some settings. -/
def plan (lib : Libraries) (args : List String) (env : Environment) : Except Outcome Settings :=
  match lib.understand args with
  | .error outcome => .error outcome
  | .ok (.help text) => .error { exitCode := 0, output := text }
  | .ok (.run options) =>
    match lib.construct env {} with
    | .faulty faults => .error { exitCode := 1, faults }
    | .ok settings => .ok (options.override settings)

/-- What a conversation with given settings prints and logs. -/
def converse (lib : Libraries) (s : Settings) (time : String) (input : List Char) : Outcome :=
  match (lib.display s.color).run ⟨s.prompt, s.color⟩ .empty (normalizeLineEnds input) with
  | .ok t =>
    { exitCode := 0
      output := t.output
      errors := logText s.logFormat (threshold s.logLevel) time t.events }
  | .error _ => { exitCode := 1 }

/-- The program, started with arguments in an environment. Log lines show `time`. -/
def program (lib : Libraries) (args : List String) (env : Environment) (time input : String) :
    Outcome :=
  match lib.plan args env with
  | .error outcome => outcome
  | .ok settings => lib.converse settings time input.toList

end Libraries

end SkyCatalog.Console
