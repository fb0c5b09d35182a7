import SkyCatalog.Report.Basic
import SkyCatalog.Text.Blank

/-!
# Displays — what is written of a text that is to be shown

The console writes nothing by itself. It hands its prompt to a display as it is, and every line as
a text with a color or with none. What a display writes for them is the affair of the library that
it comes from and of the terminal behind it, so displays are a parameter, and `Display.Laws` says
what is relied on: plain texts are written as they are, and colors are switched around a line.
Nothing is assumed of characters that only move the cursor or ring the bell, of tabs, of the codes
by which a prompt can name an emoji, and of white space at the end of a line that is too long.
-/

namespace SkyCatalog.Console

/-! ## §1  Colors -/

inductive Color where
  | red
  | yellow
deriving DecidableEq, Repr

namespace Color

/-- The code that switches to a color. -/
def code : Color → String
  | red => "\x1b[31m"
  | yellow => "\x1b[33m"

/-- The code that switches back. -/
def plainCode : String := "\x1b[0m"

/-- The color of a notice. -/
def ofSeverity : Severity → Color
  | .error => red
  | .warning => yellow

end Color

/-- A line as it is, in its color if it has one and colors are shown. -/
def tinted (colors : Bool) (color : Option Color) (line : String) : String :=
  match color with
  | some c => if colors then c.code ++ line ++ Color.plainCode else line
  | none => line

/-! ## §2  Plain texts -/

/-- The characters that nothing is shown for: bell, backspace, vertical tab, form feed and carriage
return. -/
def isSilent (c : Char) : Bool :=
  c == '\x07' || c == '\x08' || c == '\x0b' || c == '\x0c' || c == '\r'

/-- A text without tabs and without silent characters. -/
def Plain (s : String) : Prop := ∀ c ∈ s.toList, isSilent c = false ∧ c ≠ '\t'

instance : DecidablePred Plain := fun s =>
  decidable_of_iff ((s.toList.all fun c => !isSilent c && c != '\t') = true) (by simp [Plain])

/-- A text without an emoji code, that is a word between two colons. -/
def Codeless (s : String) : Prop :=
  ∀ u v w, s.toList = u ++ ':' :: v ++ ':' :: w → ∃ c ∈ v, Text.isBlank c = true

theorem codeless_of_no_colon {s : String} (h : ':' ∉ s.toList) : Codeless s := by
  intro u v w whole
  rw [whole] at h
  exact absurd (List.mem_append_right _ List.mem_cons_self) h

/-! ## §3  Displays -/

/-- How many columns a display has, whether it shows colors, and what it writes for a prompt and for
a line, the end of the line included. -/
structure Display where
  columns : Nat
  colors : Bool
  prompt : String → String
  line : Option Color → String → String

namespace Display

/-- A text with nothing at its end that a display could cut off: it is short enough whatever the
width of its characters, which is two columns at most, or one line that does not end with white
space. -/
def Holds (d : Display) (s : String) : Prop :=
  2 * s.length ≤ d.columns ∨ '\n' ∉ s.toList ∧ ∀ c ∈ s.toList.getLast?, Text.isBlank c = false

/-- A prompt that a display has no reason to change. -/
structure KeepsPrompt (d : Display) (s : String) : Prop where
  plain : Plain s
  codeless : Codeless s
  held : d.Holds s

/-- A line that a display has no reason to change. -/
structure KeepsLine (d : Display) (s : String) : Prop where
  plain : Plain s
  oneLine : '\n' ∉ s.toList
  held : d.Holds s

/-- What is relied on: a prompt and a line are written as they are when there is no reason to change
them, a line in its color if it is not empty. -/
structure Laws (d : Display) : Prop where
  prompt : ∀ {s : String}, d.KeepsPrompt s → d.prompt s = s
  line : ∀ {color : Option Color} {s : String}, d.KeepsLine s → (color.isSome → s ≠ "") →
    d.line color s = tinted d.colors color s ++ "\n"

end Display

end SkyCatalog.Console
