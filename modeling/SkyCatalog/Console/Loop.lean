import SkyCatalog.Console.Display
import SkyCatalog.Session
import SkyCatalog.Text.Cut

/-!
# The loop — prompt, read, answer, until told to stop

Input is read line by line; a line ends at a line feed and nowhere else, and the carriage
returns and line feeds at its end do not belong to what it says. Before each reading the
prompt is shown, also before the one that finds the input at its end. The loop stops at an
`exit` or at the end of the input, and leaves what it has not read.

Input that arrives bit by bit is answered portion by portion (`Display.attend`): the answers to the
lines of a portion, with the prompts between them, are known before the next portion is.
-/

namespace SkyCatalog.Console

/-! ## §1  Lines of input -/

/-- Every line ending as a line feed. -/
def normalizeLineEnds : List Char → List Char
  | [] => []
  | '\r' :: '\n' :: s => '\n' :: normalizeLineEnds s
  | '\r' :: s => '\n' :: normalizeLineEnds s
  | c :: s => c :: normalizeLineEnds s

/-- The lines of a text, each with the line feed that ends it; the last may have none. -/
def rawLines (s : List Char) : List (List Char) := Text.cutAfter '\n' s

/-- Nothing is lost in cutting a text into lines. -/
theorem flatten_rawLines (s : List Char) : (rawLines s).flatten = s := Text.flatten_cutAfter '\n' s

def isLineEnd (c : Char) : Bool := c == '\r' || c == '\n'

/-- What a line says. -/
def content (line : List Char) : String :=
  String.ofList (line.reverse.dropWhile isLineEnd).reverse

/-! ## §2  Answers -/

/-- How the console looks: the prompt, and whether notices are colored. -/
structure Manner where
  prompt : String
  colored : Bool
deriving DecidableEq, Repr

/-- The color of the lines of a payload. -/
def Manner.color? (m : Manner) : Payload → Option Color
  | .notice _ severity => if m.colored then some (.ofSeverity severity) else none
  | _ => none

/-- What is written for a payload, if it can be, when its lines are written in some way. -/
def answer? (write : Payload → String → String) : Option Payload → Option String
  | none => some ""
  | some p => p.lines?.map fun ls => String.join (ls.map (write p))

namespace Display

/-- What is written for the prompt. An empty one is not handed to the display. -/
def writePrompt (d : Display) (m : Manner) : String :=
  if m.prompt = "" then "" else d.prompt m.prompt

/-- What is written for a line of a payload. -/
def writeLine (d : Display) (m : Manner) (p : Payload) (line : String) : String :=
  d.line (m.color? p) line

end Display

/-! ## §3  The loop -/

/-- Why a conversation breaks off. Input alone never makes it. -/
inductive Breakdown where
  | notAdded (fault : AddFault)
  | notWritten
deriving DecidableEq, Repr

/-- A conversation: what was written, the catalog after it, the input that was not read, and what
was logged. -/
structure Transcript where
  output : String
  catalog : Catalog
  unread : List Char
  events : List Event
deriving DecidableEq, Repr

namespace Display

/-- One round: the effect of a line, and what is written for it. -/
def round (d : Display) (m : Manner) (c : Catalog) (line : Option String) :
    Except Breakdown (Step × String) :=
  match Session.step c line with
  | .error fault => .error (.notAdded fault)
  | .ok step =>
    match answer? (d.writeLine m) step.effect.payload with
    | some written => .ok (step, written)
    | none => .error .notWritten

/-- The conversation over some lines. -/
def converse (d : Display) (m : Manner) (c : Catalog) :
    List (List Char) → Except Breakdown Transcript
  | [] => do
    let (step, written) ← d.round m c none
    pure ⟨d.writePrompt m ++ written, step.effect.catalog, [], step.events⟩
  | line :: rest => do
    let (step, written) ← d.round m c (some (content line))
    if step.effect.keepRunning then
      let t ← d.converse m step.effect.catalog rest
      let output := d.writePrompt m ++ written ++ t.output
      pure { t with output, events := step.events ++ t.events }
    else pure ⟨d.writePrompt m ++ written, step.effect.catalog, rest.flatten, step.events⟩

/-- The conversation over a text, its beginning and its end logged too. -/
def run (d : Display) (m : Manner) (c : Catalog) (input : List Char) :
    Except Breakdown Transcript := do
  let t ← d.converse m c (rawLines input)
  pure { t with events := [.started] ++ t.events ++ [.stopped t.catalog.size] }

end Display

/-! ## §4  Input in portions -/

/-- What came of a part of the input, and whether the conversation goes on after it. -/
structure Hearing extends Transcript where
  goesOn : Bool
deriving DecidableEq, Repr

namespace Display

/-- What comes of some lines when the prompt for the first of them has been shown. If the
conversation goes on after them, the prompt for the next line is shown too. -/
def hear (d : Display) (m : Manner) (c : Catalog) :
    List (List Char) → Except Breakdown Hearing
  | [] => .ok ⟨⟨"", c, [], []⟩, true⟩
  | line :: rest => do
    let (step, written) ← d.round m c (some (content line))
    if step.effect.keepRunning then
      let h ← d.hear m step.effect.catalog rest
      let output := written ++ d.writePrompt m ++ h.output
      pure { h with output, events := step.events ++ h.events }
    else pure ⟨⟨written, step.effect.catalog, rest.flatten, step.events⟩, false⟩

/-- What comes of the end of the input. -/
def hearEnd (d : Display) (m : Manner) (c : Catalog) : Except Breakdown Hearing := do
  let (step, written) ← d.round m c none
  pure ⟨⟨written, step.effect.catalog, [], step.events⟩, false⟩

/-- What comes of a portion of the input; an empty one stands for its end. -/
def attend (d : Display) (m : Manner) (c : Catalog) (portion : List Char) :
    Except Breakdown Hearing :=
  if portion.isEmpty then d.hearEnd m c else d.hear m c (rawLines (normalizeLineEnds portion))

end Display

end SkyCatalog.Console
