import SkyCatalog.Command.Meaning
import SkyCatalog.Command.Reading
import SkyCatalog.Proofs.Command.Reader

/-!
# Acceptance — the parser against the grammar and the meaning of phrases

The reader of lines goes on as the first word says, and looks names up only when the whole
phrase is read. A line is accepted exactly when its tokens say a phrase and the phrase asks the
catalog for a command; that command is then the one returned. Of all the other lines, those
without a token are passed over and the rest are complained of.
-/

namespace SkyCatalog

open Grammar

/-! ## §1  Names looked up -/

namespace Phrase

theorem refer_eq_ok_iff {c : Catalog} {k : Kind} {n : String} {x : Held Body} :
    refer c k n = .ok x ↔ c.fetch? k n = some x := by
  unfold refer
  cases c.fetch? k n <;> simp

/-- The second half of reading gives the command that a phrase asks for, and no other. -/
theorem resolve_eq_ok_iff {c : Catalog} {ph : Phrase} {cmd : Command} :
    ph.resolve c = .ok cmd ↔ Asks c ph cmd := by
  constructor
  · intro h
    cases ph with
    | addGalaxy g =>
        obtain rfl := Except.ok.inj h
        exact .addGalaxy
    | addStar parent name mass diameter temperature luminosity =>
        obtain ⟨galaxy, stored, h⟩ := Except.bind_eq_ok_iff.mp h
        rw [refer_eq_ok_iff] at stored
        split at h
        · next cls possible =>
            obtain rfl := Except.ok.inj h
            exact .addStar stored possible
        · cases h
    | addPlanet parent p =>
        obtain ⟨star, stored, h⟩ := Except.bind_eq_ok_iff.mp h
        obtain rfl := Except.ok.inj h
        exact .addPlanet (refer_eq_ok_iff.mp stored)
    | addMoon parent m =>
        obtain ⟨planet, stored, h⟩ := Except.bind_eq_ok_iff.mp h
        obtain rfl := Except.ok.inj h
        exact .addMoon (refer_eq_ok_iff.mp stored)
    | list kind =>
        obtain rfl := Except.ok.inj h
        exact .list
    | stats =>
        obtain rfl := Except.ok.inj h
        exact .stats
    | print name =>
        obtain ⟨⟨body, origin⟩, stored, h⟩ := Except.bind_eq_ok_iff.mp h
        rw [refer_eq_ok_iff] at stored
        cases body with
        | galaxy g =>
            obtain rfl := Except.ok.inj h
            exact .print stored
        | _ => cases h
    | exit =>
        obtain rfl := Except.ok.inj h
        exact .exit
  · intro h
    cases h with
    | addStar stored possible =>
        refine Except.bind_eq_ok_iff.mpr ⟨_, refer_eq_ok_iff.mpr stored, ?_⟩
        rw [possible]
    | addPlanet stored => exact Except.bind_eq_ok_iff.mpr ⟨_, refer_eq_ok_iff.mpr stored, rfl⟩
    | addMoon stored => exact Except.bind_eq_ok_iff.mpr ⟨_, refer_eq_ok_iff.mpr stored, rfl⟩
    | print stored => exact Except.bind_eq_ok_iff.mpr ⟨_, refer_eq_ok_iff.mpr stored, rfl⟩
    | _ => rfl

end Phrase

/-- A phrase never asks for an answer that is no command of the language. -/
theorem Grammar.Asks.tag_ne {c : Catalog} {ph : Phrase} {cmd : Command} (h : Asks c ph cmd) :
    cmd.tag ≠ .nothing ∧ cmd.tag ≠ .complain := by
  cases h <;> exact ⟨nofun, nofun⟩

/-! ## §2  Lines -/

namespace Reading

theorem leftover_eq_none_iff {s : List Char} :
    leftover s = none ↔ Text.allBlank s = true := by
  unfold leftover
  split <;> simp_all

theorem ofForm_eq_accepted_iff {c : Catalog} {form : Form Phrase} {s : List Char}
    {cmd : Command} : ofForm c form s = .accepted cmd ↔
      ∃ ph r, form.read s = .ok (ph, r) ∧ Asks c ph cmd ∧ Text.allBlank r = true := by
  simp only [← Phrase.resolve_eq_ok_iff, ← leftover_eq_none_iff]
  unfold ofForm
  constructor
  · intro h
    split at h
    · cases h
    · next ph r read =>
        split at h
        · cases h
        · next resolved =>
            split at h
            · cases h
            · next clean =>
                obtain rfl := Reading.accepted.inj h
                exact ⟨ph, r, read, resolved, clean⟩
  · rintro ⟨ph, r, read, resolved, clean⟩
    simp only [read, resolved, clean]

/-- **Lines are accepted by their tokens.** A line is accepted as a command exactly when it holds
the tokens of a phrase, and nothing else, that asks for the command. -/
theorem ofLine_eq_accepted_iff {c : Catalog} {line : List Char} {cmd : Command} :
    ofLine c line = .accepted cmd ↔ ∃ ph ts, Says ph ts ∧ Spaced ts line ∧ Asks c ph cmd := by
  simp only [spaced_iff]
  constructor
  · intro h
    cases first : Token.word? line with
    | none =>
        rw [ofLine_of_no_word first] at h
        cases h
    | some p =>
        obtain ⟨w, rest⟩ := p
        cases verb : Form.ofVerb? (String.ofList w) with
        | none =>
            rw [ofLine_of_no_verb first verb] at h
            cases h
        | some form =>
            rw [ofLine_of_form first verb] at h
            obtain ⟨ph, r, read, asks, blank⟩ := ofForm_eq_accepted_iff.mp h
            obtain ⟨ts, said, taken⟩ := ((Form.ofVerb?_reads verb).2 rest ph r).mp read
            rw [String.toList_ofList] at said
            have head := (Token.word?_eq_some_iff.mp first).2
            exact ⟨ph, _, said, ⟨r, head.then taken, blank⟩, asks⟩
  · rintro ⟨ph, ts, said, ⟨r, taken, blank⟩, asks⟩
    obtain ⟨w, form, us, verb, rfl⟩ := Form.says_verb said
    obtain ⟨word, reads⟩ := Form.ofVerb?_reads verb
    obtain ⟨rest, head, taken⟩ := takes_cons_iff.mp taken
    have first : Token.word? line = some (w.toList, rest) :=
      Token.word?_eq_some_iff.mpr ⟨word, head⟩
    have read : form.read rest = .ok (ph, r) := (reads rest ph r).mpr ⟨us, said, taken⟩
    rw [← String.ofList_toList (s := w)] at verb
    rw [ofLine_of_form first verb]
    exact ofForm_eq_accepted_iff.mpr ⟨ph, r, read, asks, blank⟩

theorem ofLine_eq_blank_iff {c : Catalog} {line : List Char} :
    ofLine c line = .blank ↔ Text.allBlank line = true := by
  rw [← Token.word?_eq_none_iff]
  cases first : Token.word? line with
  | none => simp [ofLine_of_no_word first]
  | some p =>
      cases verb : Form.ofVerb? (String.ofList p.1) with
      | none => simp [ofLine_of_no_verb first verb]
      | some form =>
          rw [ofLine_of_form first verb]
          rcases ofForm_cases c form p.2 with ⟨fault, h⟩ | ⟨rest, h⟩ | ⟨cmd, h⟩ <;> simp [h]

/-- Of a line a reading makes a command of the language, nothing, or a complaint. -/
theorem command_cases (r : Reading) (line : r ≠ .ended) :
    (r = .blank ∧ r.command = .nothing) ∨ r.command.tag = .complain ∨
      r = .accepted r.command := by
  cases r with
  | ended => exact absurd rfl line
  | blank => exact .inl ⟨rfl, rfl⟩
  | accepted cmd => exact .inr (.inr rfl)
  | unknownCommand | refused | extraInput => exact .inr (.inl rfl)

theorem ofLine_ne_ended {c : Catalog} {line : List Char} : ofLine c line ≠ .ended := by
  cases first : Token.word? line with
  | none => simp [ofLine_of_no_word first]
  | some p =>
      cases verb : Form.ofVerb? (String.ofList p.1) with
      | none => simp [ofLine_of_no_verb first verb]
      | some form =>
          rw [ofLine_of_form first verb]
          rcases ofForm_cases c form p.2 with ⟨fault, h⟩ | ⟨rest, h⟩ | ⟨cmd, h⟩ <;> simp [h]

/-- A command of the language comes from a line that is accepted. -/
theorem accepted_of_command {c : Catalog} {line : List Char} {cmd : Command}
    (h : (ofLine c line).command = cmd) (acts : cmd.tag ≠ .nothing)
    (content : cmd.tag ≠ .complain) : ofLine c line = .accepted cmd := by
  subst h
  rcases (ofLine c line).command_cases ofLine_ne_ended with ⟨-, passed⟩ | complains | accepted
  · exact absurd (congrArg Command.tag passed) acts
  · exact absurd complains content
  · exact accepted

/-- Nothing comes from lines of white space only. -/
theorem command_ofLine_eq_nothing_iff {c : Catalog} {line : List Char} :
    (ofLine c line).command = .nothing ↔ Text.allBlank line = true := by
  rw [← ofLine_eq_blank_iff (c := c)]
  constructor
  · intro h
    rcases (ofLine c line).command_cases ofLine_ne_ended with ⟨blank, -⟩ | complains | accepted
    · exact blank
    · rw [h] at complains
      cases complains
    · obtain ⟨ph, ts, -, -, asks⟩ := ofLine_eq_accepted_iff.mp accepted
      exact absurd (congrArg Command.tag h) asks.tag_ne.1
  · intro h
    rw [h]
    rfl

end Reading

/-! ## §3  The parser -/

/-- **The parser accepts exactly the grammar.** In every catalog, a line is passed over exactly
when all of it is white space. It comes to a command that is neither nothing nor a complaint
exactly when its tokens, with white space around and between them, say a phrase that asks the
catalog for this command: its bodies are stored and its measurements belong to a star. -/
theorem parse_accepts_grammar (c : Catalog) (line : String) :
    (Command.parse c (some line) = .nothing ↔ Text.allBlank line.toList = true) ∧
    ∀ cmd : Command,
      (cmd.tag ≠ .nothing ∧ cmd.tag ≠ .complain ∧ Command.parse c (some line) = cmd) ↔
        ∃ ph ts, Says ph ts ∧ Spaced ts line.toList ∧ Asks c ph cmd := by
  -- the tag tells an accepted command from the other two outcomes that a line can have
  show ((Reading.ofLine c line.toList).command = .nothing ↔ _) ∧ _
  have cases := (Reading.ofLine c line.toList).command_cases Reading.ofLine_ne_ended
  constructor
  · rw [← Reading.ofLine_eq_blank_iff (c := c)]
    constructor
    · intro h
      rcases cases with ⟨blank, -⟩ | complains | accepted
      · exact blank
      · rw [h] at complains
        cases complains
      · obtain ⟨ph, ts, -, -, asks⟩ := Reading.ofLine_eq_accepted_iff.mp accepted
        exact absurd (congrArg Command.tag h) asks.tag_ne.1
    · intro h
      rw [h]
      rfl
  · intro cmd
    rw [← Reading.ofLine_eq_accepted_iff]
    constructor
    · rintro ⟨acts, content, rfl⟩
      rcases cases with ⟨-, passed⟩ | complains | accepted
      · exact absurd (congrArg Command.tag passed) acts
      · exact absurd complains content
      · exact accepted
    · intro accepted
      obtain ⟨ph, ts, -, -, asks⟩ := Reading.ofLine_eq_accepted_iff.mp accepted
      exact ⟨asks.tag_ne.1, asks.tag_ne.2, congrArg Reading.command accepted⟩

end SkyCatalog
