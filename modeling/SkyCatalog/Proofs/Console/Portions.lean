import SkyCatalog.Console.Loop
import SkyCatalog.Proofs.Text.Parts

/-!
# Portions — input that arrives bit by bit

A terminal hands out its input in portions, which end with a line feed, and the program answers each
before it asks for the next. What it writes and logs on the way is the conversation over the whole
input: a conversation over some lines and then others is heard in two parts, and a portion holds
whole lines, even though a carriage return may end a line inside it.
-/

namespace SkyCatalog.Console

/-! ## §1  Portions -/

/-- Texts as a terminal hands them out: none is empty, and all but the last end with a line feed. -/
structure Arrives (portions : List (List Char)) : Prop where
  full : ∀ p ∈ portions, p ≠ []
  ended : ∀ p ∈ portions.dropLast, p.getLast? = some '\n'

/-- Every text can arrive, in the portions that its line feeds end. -/
theorem arrives_cutAfter (s : List Char) : Arrives (Text.cutAfter '\n' s) where
  full p hp := (Text.of_mem_cutAfter p hp).1
  ended := Text.of_mem_dropLast_cutAfter

theorem Arrives.tail {p : List Char} {ps : List (List Char)} (h : Arrives (p :: ps)) :
    Arrives ps where
  full q hq := h.full q (List.mem_cons_of_mem p hq)
  ended q hq := by
    cases ps with
    | nil => cases hq
    | cons p' ps => exact h.ended q (List.mem_cons_of_mem p hq)

/-- Up to a line feed, line endings are what they are whatever follows. -/
theorem exists_normalizeLineEnds (p : List Char) :
    ∃ q, ∀ s, normalizeLineEnds (p ++ '\n' :: s) = q ++ '\n' :: normalizeLineEnds s := by
  induction p using normalizeLineEnds.induct with
  | case1 => exact ⟨[], fun s => by simp [normalizeLineEnds]⟩
  | case2 p ih =>
      obtain ⟨q, hq⟩ := ih
      exact ⟨'\n' :: q, fun s => by simp [normalizeLineEnds, hq]⟩
  | case3 p other ih =>
      obtain ⟨q, hq⟩ := ih
      cases p with
      -- the carriage return and the line feed are one line ending
      | nil => exact ⟨[], fun s => by simp [normalizeLineEnds]⟩
      | cons c p =>
          have apart : c ≠ '\n' := by
            rintro rfl
            exact other p rfl
          refine ⟨'\n' :: q, fun s => ?_⟩
          show normalizeLineEnds ('\r' :: (c :: p ++ '\n' :: s)) = '\n' :: (q ++ '\n' :: _)
          rw [← hq s, normalizeLineEnds]
          simpa using apart
  | case4 c p crlf cr ih =>
      obtain ⟨q, hq⟩ := ih
      have plain : c ≠ '\r' := cr
      exact ⟨c :: q, fun s => by simp [normalizeLineEnds, plain, hq]⟩

/-- **A portion holds whole lines.** -/
theorem rawLines_append {p : List Char} (ended : p.getLast? = some '\n') (s : List Char) :
    rawLines (normalizeLineEnds (p ++ s)) =
      rawLines (normalizeLineEnds p) ++ rawLines (normalizeLineEnds s) := by
  obtain ⟨p, rfl⟩ := List.getLast?_eq_some_iff.mp ended
  obtain ⟨q, hq⟩ := exists_normalizeLineEnds p
  have alone : normalizeLineEnds (p ++ ['\n']) = q ++ ['\n'] := hq []
  rw [List.append_assoc, List.singleton_append, hq, alone]
  exact Text.cutAfter_append '\n' q (normalizeLineEnds s)

/-! ## §2  What is heard -/

/-- A transcript with what was written and logged before it. -/
def Transcript.after (output : String) (events : List Event) (t : Transcript) : Transcript :=
  { t with output := output ++ t.output, events := events ++ t.events }

theorem Transcript.after_after (output output' : String) (events events' : List Event)
    (t : Transcript) : (t.after output' events').after output events =
      t.after (output ++ output') (events ++ events') := by
  simp [after, String.append_assoc]

@[simp] theorem Transcript.catalog_after (output : String) (events : List Event) (t : Transcript) :
    (t.after output events).catalog = t.catalog := rfl

@[simp] theorem Transcript.after_empty (t : Transcript) : t.after "" [] = t := by simp [after]

/-- The same of what was heard. -/
def Hearing.after (output : String) (events : List Event) (h : Hearing) : Hearing :=
  { h with toTranscript := h.toTranscript.after output events }

namespace Display

/-- What comes of portion after portion, up to the end of the input, when the prompt for the first
line has been shown. -/
def listen (d : Display) (m : Manner) (c : Catalog) :
    List (List Char) → Except Breakdown Transcript
  | [] => (d.attend m c []).map (·.toTranscript)
  | p :: ps =>
    (d.attend m c p).bind fun h =>
      if h.goesOn then (d.listen m h.catalog ps).map (.after h.output h.events)
      else .ok { h.toTranscript with unread := h.unread ++ normalizeLineEnds ps.flatten }

/-- What comes of some lines and the end of the input after them. -/
def reply (d : Display) (m : Manner) (c : Catalog) (lines : List (List Char)) :
    Except Breakdown Transcript :=
  (d.hear m c lines).bind fun h =>
    if h.goesOn then (d.hearEnd m h.catalog).map fun e => e.toTranscript.after h.output h.events
    else .ok h.toTranscript

theorem reply_nil (d : Display) (m : Manner) (c : Catalog) :
    d.reply m c [] = (d.hearEnd m c).map (·.toTranscript) := by
  simp [reply, hear, Except.bind]

/-- A line is answered first, and the others are heard if the conversation goes on. -/
theorem hear_cons (d : Display) (m : Manner) (c : Catalog) (line : List Char)
    (rest : List (List Char)) : d.hear m c (line :: rest) =
      (d.round m c (some (content line))).bind fun p =>
        if p.1.effect.keepRunning then
          (d.hear m p.1.effect.catalog rest).map (.after (p.2 ++ d.writePrompt m) p.1.events)
        else .ok ⟨⟨p.2, p.1.effect.catalog, rest.flatten, p.1.events⟩, false⟩ := by
  rw [hear]
  cases d.round m c (some (content line)) with
  | error fault => rfl
  | ok p =>
      obtain ⟨s, written⟩ := p
      simp only [bind, Except.bind]
      cases s.effect.keepRunning with
      | false => rfl
      | true =>
          simp only [if_true]
          cases d.hear m s.effect.catalog rest <;> rfl

/-- A line is answered first, and the others are replied to if the conversation goes on. -/
theorem reply_cons (d : Display) (m : Manner) (c : Catalog) (line : List Char)
    (rest : List (List Char)) : d.reply m c (line :: rest) =
      (d.round m c (some (content line))).bind fun p =>
        if p.1.effect.keepRunning then
          (d.reply m p.1.effect.catalog rest).map (.after (p.2 ++ d.writePrompt m) p.1.events)
        else .ok ⟨p.2, p.1.effect.catalog, rest.flatten, p.1.events⟩ := by
  rw [reply, hear_cons]
  cases d.round m c (some (content line)) with
  | error fault => rfl
  | ok p =>
      simp only [reply, Except.bind]
      cases p.1.effect.keepRunning with
      | false => rfl
      | true =>
          simp only [if_true]
          cases d.hear m p.1.effect.catalog rest with
          | error fault => rfl
          | ok h =>
              simp only [Except.map, Hearing.after, Transcript.catalog_after]
              cases h.goesOn with
              | false => rfl
              | true =>
                  simp only [if_true]
                  cases d.hearEnd m h.catalog with
                  | error fault => rfl
                  | ok e => exact congrArg Except.ok (Transcript.after_after ..).symm

/-- **Lines are heard in parts.** After some lines the others are heard, unless the conversation has
come to its end. -/
theorem reply_append (d : Display) (m : Manner) (c : Catalog) (lines rest : List (List Char)) :
    d.reply m c (lines ++ rest) = (d.hear m c lines).bind fun h =>
      if h.goesOn then (d.reply m h.catalog rest).map (.after h.output h.events)
      else .ok { h.toTranscript with unread := h.unread ++ rest.flatten } := by
  induction lines generalizing c with
  | nil =>
      show d.reply m c rest = (d.reply m c rest).map (.after "" [])
      cases d.reply m c rest with
      | error fault => rfl
      | ok t => simp [Except.map]
  | cons line lines ih =>
      rw [List.cons_append, reply_cons, hear_cons]
      cases d.round m c (some (content line)) with
      | error fault => rfl
      | ok p =>
          simp only [Except.bind, ih]
          cases p.1.effect.keepRunning with
          | false => simp
          | true =>
              simp only [if_true]
              cases d.hear m p.1.effect.catalog lines with
              | error fault => rfl
              | ok h =>
                  simp only [Except.map, Hearing.after, Transcript.catalog_after]
                  cases h.goesOn with
                  | false => rfl
                  | true =>
                      simp only [if_true]
                      cases d.reply m h.catalog rest with
                      | error fault => rfl
                      | ok t => exact congrArg Except.ok (Transcript.after_after ..)

/-- A conversation is the reply to its lines after the first prompt. -/
theorem converse_eq_reply (d : Display) (m : Manner) (c : Catalog) (lines : List (List Char)) :
    d.converse m c lines = (d.reply m c lines).map (.after (d.writePrompt m) []) := by
  induction lines generalizing c with
  | nil =>
      rw [reply_nil, converse, hearEnd]
      cases d.round m c none <;> rfl
  | cons line lines ih =>
      rw [converse, reply_cons]
      cases d.round m c (some (content line)) with
      | error fault => rfl
      | ok p =>
          obtain ⟨s, written⟩ := p
          simp only [bind, Except.bind, ih]
          cases s.effect.keepRunning with
          | false => rfl
          | true =>
              simp only [if_true]
              cases d.reply m s.effect.catalog lines with
              | error fault => rfl
              | ok t => simp [Except.map, Transcript.after, String.append_assoc, pure, Except.pure]

/-! ## §3  Portions and the whole -/

/-- Input that arrives in portions is replied to as a whole. -/
theorem listen_eq_reply (d : Display) (m : Manner) (c : Catalog) {ps : List (List Char)}
    (arrives : Arrives ps) :
    d.listen m c ps = d.reply m c (rawLines (normalizeLineEnds ps.flatten)) := by
  -- each portion is heard, and the others are replied to from the catalog after it
  induction ps generalizing c with
  | nil => exact (reply_nil d m c).symm
  | cons p ps ih =>
      have full : p.isEmpty = false := by
        simpa using arrives.full p List.mem_cons_self
      have lines : rawLines (normalizeLineEnds (p :: ps).flatten) =
          rawLines (normalizeLineEnds p) ++ rawLines (normalizeLineEnds ps.flatten) := by
        cases ps with
        | nil => simp [normalizeLineEnds, rawLines, Text.cutAfter]
        | cons q qs => exact rawLines_append (arrives.ended p List.mem_cons_self) _
      rw [lines, reply_append, listen, attend, full]
      simp only [Bool.false_eq_true, if_false, flatten_rawLines]
      refine congrArg _ (funext fun h => ?_)
      rw [ih h.catalog arrives.tail]

/-- **Input may arrive bit by bit.** Whatever the portions, the program writes and logs what it does
for the whole input, and comes to the same catalog. -/
theorem run_eq_listen (d : Display) (m : Manner) (c : Catalog) {ps : List (List Char)}
    (arrives : Arrives ps) :
    d.run m c (normalizeLineEnds ps.flatten) = (d.listen m c ps).map fun t =>
      ⟨d.writePrompt m ++ t.output, t.catalog, t.unread,
        [.started] ++ t.events ++ [.stopped t.catalog.size]⟩ := by
  rw [run, converse_eq_reply, listen_eq_reply d m c arrives]
  cases d.reply m c (rawLines (normalizeLineEnds ps.flatten)) <;> rfl

/-- A terminal that hands out its input at every line feed. -/
theorem run_eq_listen_cutAfter (d : Display) (m : Manner) (c : Catalog) (input : List Char) :
    d.run m c (normalizeLineEnds input) = (d.listen m c (Text.cutAfter '\n' input)).map fun t =>
      ⟨d.writePrompt m ++ t.output, t.catalog, t.unread,
        [.started] ++ t.events ++ [.stopped t.catalog.size]⟩ := by
  rw [← run_eq_listen d m c (arrives_cutAfter input), Text.flatten_cutAfter]

end Display

end SkyCatalog.Console
