import SkyCatalog.Console.Display
import SkyCatalog.Text.Cut
import SkyCatalog.Text.Width

/-!
# The screen — a display to run the program with

Silent characters are left out. A tab is shown as the spaces up to the next stop, at least one of
them, and stops stand every eight columns of a line. What stands before a tab and the spaces for it
make one piece, and colors are switched piece by piece. A text without any of these characters is
shown as it is. Codes for emoji are shown as they are spelled, and nothing is cut off at the end of
a line.

Other displays choose otherwise in these matters. Results about conversations rest on the laws of
displays alone, and `Screen.laws` says that this one keeps them.
-/

namespace SkyCatalog.Console.Screen

open SkyCatalog.Text (cutAfter width)

/-- The number of columns between two stops. -/
def tabStep : Nat := 8

/-- The number of columns up to the next stop; none are left at a stop. -/
def toStop (column : Nat) : Nat := (tabStep - column % tabStep) % tabStep

/-- A piece that begins at a column, its tab shown as spaces, and the column that it ends at. -/
def spread (column : Nat) (piece : List Char) : List Char × Nat :=
  if piece.getLast? = some '\t' then
    let body := piece.dropLast ++ [' ']
    let reached := column + width body
    (body ++ List.replicate (toStop reached) ' ', reached + toStop reached)
  else (piece, column + width piece)

/-- Pieces that follow one another from a column on. -/
def spreadAll (column : Nat) : List (List Char) → List (List Char)
  | [] => []
  | piece :: rest =>
    let (shown, column) := spread column piece
    shown :: spreadAll column rest

/-- The pieces that a text is shown in, line by line. -/
def pieces (s : String) : List String :=
  let lines := cutAfter '\n' (s.toList.filter fun c => !isSilent c)
  (lines.flatMap fun line => spreadAll 0 (cutAfter '\t' line)).map String.ofList

/-- What is shown of a text. -/
def shown (s : String) : String := String.join (pieces s)

/-- What is shown of a text in a color. -/
def painted (color : Color) (s : String) : String :=
  String.join ((pieces s).map fun piece => color.code ++ piece ++ Color.plainCode)

/-- A screen of the usual width. -/
def display (colors : Bool) : Display where
  columns := 80
  colors := colors
  prompt := shown
  line color s :=
    (match color with
    | some c => if colors then painted c s else shown s
    | none => shown s) ++ "\n"

theorem spreadAll_of_no_tab {column : Nat} {ps : List (List Char)} (h : ∀ p ∈ ps, '\t' ∉ p) :
    spreadAll column ps = ps := by
  induction ps generalizing column with
  | nil => rfl
  | cons p ps ih =>
    have hp : p.getLast? ≠ some '\t' := fun e => h p (List.mem_cons_self ..)
      (List.mem_of_getLast? e)
    simp only [spreadAll, spread, if_neg hp]
    rw [ih fun q hq => h q (List.mem_cons_of_mem _ hq)]

theorem join_map_ofList (ps : List (List Char)) :
    String.join (ps.map String.ofList) = String.ofList ps.flatten := by
  apply String.toList_injective
  simp [String.toList_join, List.flatMap_def, Function.comp_def]

theorem flatten_spreadLines {lines : List (List Char)} (h : ∀ line ∈ lines, '\t' ∉ line) :
    (lines.flatMap fun line => spreadAll 0 (cutAfter '\t' line)).flatten = lines.flatten := by
  induction lines with
  | nil => rfl
  | cons line lines ih =>
    have first : spreadAll 0 (cutAfter '\t' line) = cutAfter '\t' line :=
      spreadAll_of_no_tab fun p hp hc =>
        h line (List.mem_cons_self ..) (Text.mem_of_mem_cutAfter hp hc)
    rw [List.flatMap_cons, List.flatten_append, List.flatten_cons, first,
      Text.flatten_cutAfter, ih fun l hl => h l (List.mem_cons_of_mem _ hl)]

theorem filter_of_plain {s : String} (plain : Plain s) :
    (s.toList.filter fun c => !isSilent c) = s.toList :=
  List.filter_eq_self.2 fun c hc => by simp [(plain c hc).1]

theorem not_tab_of_plain {s : String} (plain : Plain s) : '\t' ∉ s.toList :=
  fun tab => (plain '\t' tab).2 rfl

/-- A plain text is shown as it is. -/
theorem shown_of_plain {s : String} (plain : Plain s) : shown s = s := by
  have noTab : ∀ line ∈ cutAfter '\n' s.toList, '\t' ∉ line := fun line hl ht =>
    not_tab_of_plain plain (Text.mem_of_mem_cutAfter hl ht)
  simp only [shown, pieces, filter_of_plain plain]
  rw [join_map_ofList, flatten_spreadLines noTab, Text.flatten_cutAfter, String.ofList_toList]

/-- A plain line is one piece. -/
theorem pieces_of_plain {s : String} (plain : Plain s) (oneLine : '\n' ∉ s.toList) (ne : s ≠ "") :
    pieces s = [s] := by
  have full : s.toList ≠ [] := by
    intro empty
    exact ne (String.toList_eq_nil_iff.mp empty)
  have noTab := not_tab_of_plain plain
  have noTabs : ∀ p ∈ cutAfter '\t' s.toList, '\t' ∉ p := by
    intro p hp hc
    exact noTab (Text.mem_of_mem_cutAfter hp hc)
  simp only [pieces, filter_of_plain plain, Text.cutAfter_of_not_mem oneLine full,
    List.flatMap_cons, List.flatMap_nil, List.append_nil]
  rw [spreadAll_of_no_tab noTabs, Text.cutAfter_of_not_mem noTab full, List.map_singleton,
    String.ofList_toList]

/-- **A screen keeps the laws of displays.** -/
theorem laws (colors : Bool) : (display colors).Laws where
  prompt kept := shown_of_plain kept.plain
  line := by
    intro color s kept full
    have plainly := shown_of_plain kept.plain
    cases color with
    | none => simp only [display, tinted, plainly]
    | some c =>
      cases colors with
      | false => simp only [display, tinted, plainly, Bool.false_eq_true, if_false]
      | true =>
        have whole := pieces_of_plain kept.plain kept.oneLine (full rfl)
        simp [display, tinted, painted, whole, String.join]

example : shown "a\tb" = "a       b" := by decide +kernel
example : shown "1234567\tb" = "1234567 b" := by decide +kernel
example : pieces "x\t\ty\x07" = ["x       ", "        ", "y"] := by decide +kernel
example : shown "日本\t語" = "日本    語" := by decide +kernel

end SkyCatalog.Console.Screen
