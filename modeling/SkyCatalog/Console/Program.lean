import SkyCatalog.Console.Options
import SkyCatalog.Console.Screen

/-!
# The program — run with libraries of its own

Arguments are understood as in `Console.Options`, settings are made as in `Console.Settings`, and
the display is the screen.
-/

namespace SkyCatalog.Console

/-- A carriage return right before a line feed left out. -/
def joinLineEnds : List Char → List Char
  | [] => []
  | '\r' :: '\n' :: s => '\n' :: joinLineEnds s
  | c :: s => c :: joinLineEnds s

/-- The program ended by a usage fault. Lines of what it wrote end with a line feed alone. -/
def Outcome.ofUsage (terminal : Bool) (fault : UsageFault) : Outcome :=
  let text := if terminal then fault.text else fault.plainText
  { exitCode := 2, errors := String.ofList (joinLineEnds text.toList) }

/-- The libraries that the program is run with, when its output and its errors go to a terminal or
not. -/
def Libraries.own (outTerminal errTerminal : Bool) : Libraries where
  understand args := (Request.ofArguments args).mapError (.ofUsage errTerminal)
  construct := Settings.make
  display colored := Screen.display (colored && outTerminal)

/-- The program, started with arguments in an environment. Log lines show `time`. -/
def program (args : List String) (env : Environment) (terminal : Bool) (time input : String) :
    Outcome :=
  (Libraries.own terminal terminal).program args env time input

/-- The conversation over a text, shown on a screen with colors. -/
def run (m : Manner) (c : Catalog) (input : List Char) : Except Breakdown Transcript :=
  (Screen.display true).run m c input

end SkyCatalog.Console
