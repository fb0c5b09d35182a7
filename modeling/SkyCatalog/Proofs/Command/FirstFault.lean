import SkyCatalog.Proofs.Command.Acceptance
import SkyCatalog.Proofs.Command.Form
import SkyCatalog.Proofs.Command.Spelling
import SkyCatalog.Proofs.Text.Parts

/-!
# The first fault decides — text added to a line does not change its verdict

A fault has one of two causes: a token that is not there, or a token that is there and is wrong. A
form that has met the second kind has lacked no token, so it reads a longer line to the same end;
only a token that was lacking can be supplied by the text that is added. Names are looked up and
measurements are classified on what the form has read, before anybody looks at what is left.
-/

namespace SkyCatalog

open SkyCatalog.Text (allBlank trim)

/-! ## §1  Two kinds of faults -/

/-- The faults that only a token that is there can have, or a phrase that is there as a whole. The
first half of a planet type of two words is no such token: it is reported when the second half is
not there. -/
inductive SyntaxFault.Judged : SyntaxFault → Prop where
  | bodyWord {word : String} : Judged (.unknownBodyWord word)
  | galaxyType {word : String} : Judged (.unknownGalaxyType word)
  | planetType {text : String} (whole : text ∉ Phrase.firstHalves) :
      Judged (.unknownPlanetType text)
  | ageUnit : Judged .noAgeUnit
  | age : Judged .ageNotReal
  | zeroAge : Judged .ageZero
  | diameter : Judged .negativeDiameter
  | temperature : Judged .negativeTemperature
  | reference {kind : Kind} {name : String} : Judged (.unknownReference kind name)
  | measurements : Judged .noSuchStar

namespace Grammar

/-- The faults of the measurements of a star, in the order in which they stand on a line. -/
def measurementFaults : List SyntaxFault := [.noMass, .noDiameter, .noTemperature, .noLuminosity]

/-- The tokens that a line begins with up to a word that must denote something, by the fault that
is reported both when the word is not there and when it does not denote anything. -/
inductive Before : SyntaxFault → List (List Char) → Prop where
  | measurement {fault : SyntaxFault} {parent name : String} {ws : List (List Char)}
      (parentNamed : IsName parent) (named : IsName name) (words : ∀ w ∈ ws, IsWord w)
      (next : measurementFaults[ws.length]? = some fault) :
      Before fault ("add".toList :: "star".toList :: bracketed parent :: bracketed name :: ws)
  | answer {parent name : String} {type : PlanetType} (parentNamed : IsName parent)
      (named : IsName name) :
      Before .noAnswer ("add".toList :: "planet".toList :: bracketed parent :: bracketed name ::
        labelWords type)

end Grammar

open Grammar

/-- A line is read as faulty because of a token that is there: its first word is no command, a
fault is one that only a token that is there can have, or a word stands where one must denote
something. -/
inductive Reading.Settled (line : List Char) : Reading → Prop where
  | unknownCommand {word : String} : Settled line (.unknownCommand word)
  | judged {fault : SyntaxFault} (judged : fault.Judged) : Settled line (.refused fault)
  | present {fault : SyntaxFault} {ts : List (List Char)} {w rest : List Char}
      (before : Before fault ts) (word : IsWord w) (there : Takes (ts ++ [w]) line rest) :
      Settled line (.refused fault)

/-! ## §2  What a form lacks -/

namespace Form

variable {α β : Type} {fault missing other : SyntaxFault} {s t n w r : List Char}

/-- A token that a form comes to lack is what its reader reports. -/
theorem read_of_lacks {form : Form α} (h : form.Lacks s fault) : form.read s = .error fault := by
  induction h with
  | name none => exact read_name_of_none none
  | word none => exact read_word_of_none none
  | afterName found _ ih =>
      rw [read_name_of_some found]
      exact ih
  | afterWord found _ ih =>
      rw [read_word_of_some found]
      exact ih

theorem not_lacks_of_ok {form : Form α} {p : α × List Char} (h : form.read s = .ok p) :
    ¬ form.Lacks s fault := by
  intro lacks
  rw [read_of_lacks lacks] at h
  cases h

/-- A name that is found is not what a form lacks. -/
theorem Lacks.of_name {next : String → Form α} {k : String} (named : IsName k)
    (taken : Takes [bracketed k] s r) (h : (Form.name missing next).Lacks s fault) :
    (next k).Lacks r fault := by
  have found := Token.name?_of_takes named taken
  cases h with
  | name none =>
      rw [none] at found
      cases found
  | afterName found' later =>
      rw [found'] at found
      cases found
      rwa [String.ofList_toList] at later

/-- A word that is found is not what a form lacks. -/
theorem Lacks.of_word {next : List Char → Form α} (word : IsWord w) (taken : Takes [w] s r)
    (h : (Form.word missing next).Lacks s fault) : (next w).Lacks r fault := by
  have found := Token.word?_eq_some_iff.mpr ⟨word, taken⟩
  cases h with
  | word none =>
      rw [none] at found
      cases found
  | afterWord found' later =>
      rw [found'] at found
      cases found
      exact later

/-- A value that is there is what a form goes on with. -/
theorem Lacks.of_demand {x : Option β} {b : β} {next : β → Form α} (there : x = some b)
    (h : (Form.demand x other next).Lacks s fault) : (next b).Lacks s fault := by
  rw [there] at h
  exact h

/-! ## §3  The faults of tokens that are not there -/

/-- The faults that a form reports for tokens that are not there have some property. -/
def LacksOnly (p : SyntaxFault → Prop) : Form α → Prop
  | done _ => True
  | fail _ => True
  | name missing next => p missing ∧ ∀ n, (next n).LacksOnly p
  | word missing next => p missing ∧ ∀ w, (next w).LacksOnly p

variable {p : SyntaxFault → Prop}

theorem LacksOnly.of_lacks {form : Form α} (each : form.LacksOnly p) (h : form.Lacks s fault) :
    p fault := by
  induction h with
  | name | word => exact each.1
  | afterName _ _ ih => exact ih (each.2 _)
  | afterWord _ _ ih => exact ih (each.2 _)

theorem LacksOnly.demand {x : Option β} {next : β → Form α} (h : ∀ b, (next b).LacksOnly p) :
    (Form.demand x other next).LacksOnly p := by
  cases x with
  | none => trivial
  | some b => exact h b

theorem LacksOnly.refuse {bad : Bool} {next : Form α} (h : next.LacksOnly p) :
    (Form.refuse bad other next).LacksOnly p := by
  cases bad with
  | false => exact h
  | true => trivial

/-- A word that must denote something, and is missed in one way. -/
theorem LacksOnly.numeral {denote : List Char → Option β} {next : β → Form α} (here : p missing)
    (h : ∀ b, (next b).LacksOnly p) : (Form.numeral denote missing next).LacksOnly p :=
  ⟨here, fun _ => .demand h⟩

theorem LacksOnly.planetType {next : PlanetType → Form α} (here : p .noPlanetType)
    (half : ∀ text ∈ Phrase.firstHalves, p (.unknownPlanetType text))
    (h : ∀ type, (next type).LacksOnly p) : (Form.planetType next).LacksOnly p := by
  refine ⟨here, ?_⟩
  intro w
  dsimp only
  split
  · next first => exact ⟨half _ (List.contains_iff_mem.mp first), fun v => .demand h⟩
  · exact .demand h

theorem lacksOnly_ofKind (kind : Kind) : (ofKind kind).LacksOnly fun fault => ¬ fault.Judged := by
  cases kind with
  | galaxy =>
      refine ⟨nofun, fun n => ⟨nofun, fun w => .demand fun type => ⟨nofun, fun w => ?_⟩⟩⟩
      exact .demand fun units => .demand fun age => .refuse trivial
  | star =>
      refine ⟨nofun, fun parent => ⟨nofun, fun n => ?_⟩⟩
      refine .numeral nofun fun mass => .numeral nofun fun diameter => .refuse ?_
      refine .numeral nofun fun temperature => .refuse ?_
      exact .numeral nofun fun luminosity => trivial
  | planet =>
      refine ⟨nofun, fun parent => ⟨nofun, fun n => .planetType nofun ?_ fun type => ?_⟩⟩
      · rintro text half ⟨⟩
        rename_i whole
        exact whole half
      · exact .numeral nofun fun life => trivial
  | moon => exact ⟨nofun, fun parent => ⟨nofun, fun n => trivial⟩⟩

/-- **No judged fault is one of a token that is not there.** -/
theorem lacksOnly_ofVerb? {verb : String} {form : Form Phrase} (h : ofVerb? verb = some form) :
    form.LacksOnly fun fault => ¬ fault.Judged := by
  unfold ofVerb? at h
  split at h <;> cases h
  · exact ⟨nofun, fun w => .demand lacksOnly_ofKind⟩
  · exact ⟨nofun, fun w => .demand fun kind => trivial⟩
  · trivial
  · exact ⟨nofun, fun n => trivial⟩
  · trivial

/-! ## §4  Words that must denote something -/

/-- A form that asks for words only, whose absence is reported by these faults in turn. It may fail
on the way. -/
def AsksFor : List SyntaxFault → Form α → Prop
  | _, fail _ => True
  | [], done _ => True
  | fault :: faults, word missing next => missing = fault ∧ ∀ w, (next w).AsksFor faults
  | _, _ => False

theorem AsksFor.demand {faults : List SyntaxFault} {x : Option β} {next : β → Form α}
    (h : ∀ b, (next b).AsksFor faults) : (Form.demand x other next).AsksFor faults := by
  cases x with
  | none => cases faults <;> trivial
  | some b => exact h b

theorem AsksFor.refuse {faults : List SyntaxFault} {bad : Bool} {next : Form α}
    (h : next.AsksFor faults) : (Form.refuse bad other next).AsksFor faults := by
  cases bad with
  | false => exact h
  | true => cases faults <;> trivial

theorem AsksFor.numeral {faults : List SyntaxFault} {denote : List Char → Option β}
    {next : β → Form α} (h : ∀ b, (next b).AsksFor faults) :
    (Form.numeral denote missing next).AsksFor (missing :: faults) := ⟨rfl, fun _ => .demand h⟩

theorem AsksFor.mem_of_lacks {form : Form α} {faults : List SyntaxFault}
    (asks : form.AsksFor faults) (h : form.Lacks s fault) : fault ∈ faults := by
  induction h generalizing faults with
  | name | afterName => cases faults <;> exact asks.elim
  | word none =>
      cases faults with
      | nil => exact asks.elim
      | cons first faults =>
          rw [asks.1]
          exact List.mem_cons_self
  | afterWord found later ih =>
      cases faults with
      | nil => exact asks.elim
      | cons first faults => exact List.mem_cons_of_mem first (ih (asks.2 _))

/-- Where a word stands in its place, its absence is not what a form reports, since no other place
reports the same. -/
theorem AsksFor.not_lacks {form : Form α} {faults : List SyntaxFault} {ws : List (List Char)}
    (asks : form.AsksFor faults) (once : faults.Nodup) (words : ∀ v ∈ ws, IsWord v)
    (place : faults[ws.length]? = some fault) (word : IsWord w) (there : Takes (ws ++ [w]) s r) :
    ¬ form.Lacks s fault := by
  intro h
  -- one place after another on the way to the word, on which nothing is lacked
  induction ws generalizing form faults s with
  | nil =>
      cases faults with
      | nil => cases place
      | cons first faults =>
          obtain rfl := Option.some.inj place
          cases form with
          | done | name => exact asks.elim
          | fail => cases h
          | word missing next =>
              have later := (asks.2 w).mem_of_lacks (h.of_word word there)
              exact (List.nodup_cons.mp once).1 later
  | cons v ws ih =>
      obtain ⟨here, words⟩ := List.forall_mem_cons.mp words
      obtain ⟨m, taken, there⟩ := takes_cons_iff.mp there
      cases faults with
      | nil => cases place
      | cons first faults =>
          cases form with
          | done | name => exact asks.elim
          | fail => cases h
          | word missing next =>
              exact ih (asks.2 v) (List.nodup_cons.mp once).2 words place there
                (h.of_word here taken)

/-- The words of a planet type are not what a form lacks. -/
theorem Lacks.of_planetType {next : PlanetType → Form α} {type : PlanetType}
    (taken : Takes (labelWords type) s r) (h : (Form.planetType next).Lacks s fault) :
    (next type).Lacks r fault := by
  rcases Phrase.labelWords_cases type with
    ⟨word, split⟩ | ⟨v, v', half, word, word', spelled, split⟩
  · rw [split] at taken
    have later := h.of_word word taken
    rw [String.ofList_toList,
      if_neg (mt List.contains_iff_mem.mp type.label_not_firstHalf)] at later
    exact later.of_demand type.ofLabel?_label
  · rw [split] at taken
    obtain ⟨m, taken, taken'⟩ := takes_cons_iff.mp taken
    have later := h.of_word word taken
    rw [String.ofList_toList, if_pos (List.contains_iff_mem.mpr half)] at later
    have last := later.of_word word' taken'
    rw [String.ofList_toList, ← spelled] at last
    exact last.of_demand type.ofLabel?_label

theorem Lacks.of_add (kind : Kind) (taken : Takes [kind.word.toList] s r)
    (h : Form.add.Lacks s fault) : (ofKind kind).Lacks r fault := by
  have known : Kind.ofWord? (String.ofList kind.word.toList) = some kind := by
    rw [String.ofList_toList, kind.ofWord?_word]
  exact (h.of_word kind.isWord_word taken).of_demand known

/-- A word that must denote something is not lacked where one stands. -/
theorem not_lacks_of_before {ts : List (List Char)} (before : Before fault ts) (word : IsWord w)
    {line rest verb : List Char} (there : Takes (ts ++ [w]) line rest)
    (first : Token.word? line = some (verb, s)) {form : Form Phrase}
    (known : ofVerb? (String.ofList verb) = some form) : ¬ form.Lacks s fault := by
  intro h
  cases before with
  | @measurement fault parent name ws parentNamed named words place =>
      obtain ⟨s₁, taken₁, more⟩ := takes_cons_iff.mp there
      obtain ⟨s₂, taken₂, more⟩ := takes_cons_iff.mp more
      obtain ⟨s₃, taken₃, more⟩ := takes_cons_iff.mp more
      obtain ⟨s₄, taken₄, last⟩ := takes_cons_iff.mp more
      rw [Token.word?_eq_some_iff.mpr ⟨by decide, taken₁⟩] at first
      cases first
      cases known
      have star : Form.star.Lacks s₂ fault := h.of_add .star taken₂
      have measurement := (star.of_name parentNamed taken₃).of_name named taken₄
      have once : measurementFaults.Nodup := by decide
      refine AsksFor.not_lacks ?_ once words place word last measurement
      refine .numeral fun mass => .numeral fun diameter => .refuse ?_
      exact .numeral fun temperature => .refuse (.numeral fun luminosity => trivial)
  | @answer parent name type parentNamed named =>
      obtain ⟨s₁, taken₁, more⟩ := takes_cons_iff.mp there
      obtain ⟨s₂, taken₂, more⟩ := takes_cons_iff.mp more
      obtain ⟨s₃, taken₃, more⟩ := takes_cons_iff.mp more
      obtain ⟨s₄, taken₄, more⟩ := takes_cons_iff.mp more
      obtain ⟨s₅, taken₅, last⟩ := takes_append_iff.mp more
      rw [Token.word?_eq_some_iff.mpr ⟨by decide, taken₁⟩] at first
      cases first
      cases known
      have planet : Form.planet.Lacks s₂ .noAnswer := h.of_add .planet taken₂
      have answer := ((planet.of_name parentNamed taken₃).of_name named taken₄).of_planetType taken₅
      have once : [SyntaxFault.noAnswer].Nodup := by decide
      have words : ∀ v ∈ ([] : List (List Char)), IsWord v := nofun
      refine AsksFor.not_lacks ?_ once words rfl word last answer
      exact .numeral fun life => trivial

end Form

/-! ## §5  Lines -/

namespace Reading

variable {c : Catalog} {s t : List Char} {form : Form Phrase} {fault : SyntaxFault}

/-- Names are looked up and measurements are classified before what is left is looked at. -/
theorem ofForm_append_of_refused (complete : ∀ missing, ¬ form.Lacks s missing)
    (parted : Token.atBreak t = true) (h : ofForm c form s = .refused fault) :
    ofForm c form (s ++ t) = .refused fault := by
  unfold ofForm at h ⊢
  rw [Form.read_append parted (.inl complete)]
  cases read : form.read s with
  | error missing =>
      rw [read] at h
      exact h
  | ok p =>
      simp only [read] at h
      cases resolved : p.1.resolve c with
      | error unresolved =>
          simp only [resolved] at h
          simp only [Except.map, resolved]
          exact h
      | ok cmd =>
          simp only [resolved] at h
          split at h <;> cases h

theorem ofForm_append_of_accepted {cmd : Command} (parted : Token.atBreak t = true)
    (content : allBlank t = false) (h : ofForm c form s = .accepted cmd) :
    ofForm c form (s ++ t) = .extraInput (String.ofList (trim t)) := by
  obtain ⟨ph, r, read, asks, blank⟩ := ofForm_eq_accepted_iff.mp h
  have resolved : ph.resolve c = .ok cmd := Phrase.resolve_eq_ok_iff.mpr asks
  have left : leftover (r ++ t) = some (String.ofList (trim t)) := by
    have whole : ¬ allBlank (r ++ t) = true := by
      rw [Text.allBlank_append, content]
      exact fun both => Bool.false_ne_true both.2
    rw [leftover, if_neg whole, Text.trim_append_left blank]
  unfold ofForm
  rw [Form.read_append parted (.inl fun missing => Form.not_lacks_of_ok read), read]
  simp only [Except.map, resolved, left]

/-- **Text after a command** is extra input. -/
theorem ofLine_append_of_accepted {line : List Char} {cmd : Command}
    (parted : Token.atBreak t = true) (content : allBlank t = false)
    (h : ofLine c line = .accepted cmd) :
    ofLine c (line ++ t) = .extraInput (String.ofList (trim t)) := by
  cases first : Token.word? line with
  | none =>
      rw [ofLine_of_no_word first] at h
      cases h
  | some p =>
      cases verb : Form.ofVerb? (String.ofList p.1) with
      | none =>
          rw [ofLine_of_no_verb first verb] at h
          cases h
      | some form =>
          rw [ofLine_of_form first verb] at h
          rw [ofLine_of_form (Token.word?_append parted first) verb]
          exact ofForm_append_of_accepted parted content h

/-- A line that is refused for a token that is there lacks no token. -/
theorem Settled.complete {line w : List Char} (settled : Settled line (ofLine c line))
    (first : Token.word? line = some (w, s)) (verb : Form.ofVerb? (String.ofList w) = some form) :
    ∀ missing, ¬ form.Lacks s missing := by
  intro missing lacks
  have refused : ofLine c line = .refused missing := by
    rw [ofLine_of_form first verb, ofForm, Form.read_of_lacks lacks]
  rw [refused] at settled
  cases settled with
  | judged judged => exact (Form.lacksOnly_ofVerb? verb).of_lacks lacks judged
  | present before word there =>
      exact Form.not_lacks_of_before before word there first verb lacks

theorem ofForm_ne_unknownCommand {form : Form Phrase} {word : String} :
    ofForm c form s ≠ .unknownCommand word := by
  rcases ofForm_cases c form s with ⟨fault, h⟩ | ⟨rest, h⟩ | ⟨cmd, h⟩ <;> simp [h]

theorem Settled.cases {line : List Char} {x : Reading} (settled : Settled line x) :
    (∃ word, x = .unknownCommand word) ∨ ∃ fault, x = .refused fault := by
  cases settled with
  | unknownCommand => exact .inl ⟨_, rfl⟩
  | judged | present => exact .inr ⟨_, rfl⟩

/-- **Text after a fault** of a token that is there changes nothing. -/
theorem ofLine_append_of_settled {line : List Char} (parted : Token.atBreak t = true)
    (settled : Settled line (ofLine c line)) : ofLine c (line ++ t) = ofLine c line := by
  cases first : Token.word? line with
  | none =>
      rw [ofLine_of_no_word first] at settled
      cases settled
  | some p =>
      have more := Token.word?_append parted first
      cases verb : Form.ofVerb? (String.ofList p.1) with
      | none => rw [ofLine_of_no_verb first verb, ofLine_of_no_verb more verb]
      | some form =>
          have complete := settled.complete first verb
          rcases settled.cases with ⟨word, unknown⟩ | ⟨fault, refused⟩
          · rw [ofLine_of_form first verb] at unknown
            exact absurd unknown ofForm_ne_unknownCommand
          · rw [refused, ofLine_of_form more verb]
            rw [ofLine_of_form first verb] at refused
            exact ofForm_append_of_refused complete parted refused

end Reading

/-! ## §6  The theorem -/

/-- **The first fault decides.** Let a text begin with white space and hold something else as well.
After a line that comes to a command of the language, this text is reported as extra input, and the
command is not given. After a line that is refused for a token that is there, for a name that is
not in the catalog, or for measurements that belong to no star, this text changes nothing. -/
theorem first_fault_decides (c : Catalog) (line s : String)
    (parted : Token.atBreak s.toList = true) (content : allBlank s.toList = false) :
    (∀ cmd : Command, cmd.tag ≠ .nothing → cmd.tag ≠ .complain →
      Command.parse c (some line) = cmd →
      Command.parse c (some (line ++ s)) =
        .complain ("Extra input after command: " ++ String.ofList (trim s.toList))) ∧
    (Reading.Settled line.toList (Reading.of c (some line)) →
      ∃ message, Command.parse c (some line) = .complain message ∧
        Command.parse c (some (line ++ s)) = .complain message) := by
  have longer : Reading.of c (some (line ++ s)) =
      Reading.ofLine c (line.toList ++ s.toList) := by
    rw [Reading.of, String.toList_append]
  constructor
  · intro cmd acts content' parsed
    have accepted := Reading.accepted_of_command parsed acts content'
    rw [Command.parse, longer, Reading.ofLine_append_of_accepted parted content accepted]
    rfl
  · intro settled
    have same : Reading.of c (some (line ++ s)) = Reading.of c (some line) := by
      rw [longer]
      exact Reading.ofLine_append_of_settled parted settled
    rw [Command.parse, Command.parse, same]
    rcases settled.cases with ⟨word, unknown⟩ | ⟨fault, refused⟩
    · rw [unknown]
      exact ⟨_, rfl, rfl⟩
    · rw [refused]
      exact ⟨_, rfl, rfl⟩

/-- An answer and a number after a command, after a planet type of two words that is none, and
after a word in the place of a temperature. -/
theorem first_fault_decides_before_more_tokens :
    let s := " yes 4 "
    let planet := "add planet [a] [b] giant star"
    let star := " add star [a] [b] 1 2 x"
    Token.atBreak s.toList = true ∧ allBlank s.toList = false ∧
      Command.parse Catalog.empty (some "stats") = .stats ∧
      Command.parse Catalog.empty (some ("stats" ++ s)) =
        .complain "Extra input after command: yes 4" ∧
      Reading.Settled planet.toList (Reading.of Catalog.empty (some planet)) ∧
      Command.parse Catalog.empty (some (planet ++ s)) =
        .complain "Invalid planet type: giant star" ∧
      Reading.Settled star.toList (Reading.of Catalog.empty (some star)) ∧
      Command.parse Catalog.empty (some (star ++ s)) =
        .complain "Star temperature (an integer) expected after star diameter." := by
  intro s planet star
  have parted : Token.atBreak s.toList = true := by decide
  have content : allBlank s.toList = false := by decide
  have stats : Command.parse Catalog.empty (some "stats") = .stats := by decide
  have wrongType : Reading.of Catalog.empty (some planet) =
      .refused (.unknownPlanetType "giant star") := by decide +kernel
  have wrongNumber : Reading.of Catalog.empty (some star) = .refused .noTemperature := by
    decide +kernel
  have settled : Reading.Settled planet.toList (Reading.of Catalog.empty (some planet)) := by
    rw [wrongType]
    exact .judged (.planetType (by decide))
  have settled' : Reading.Settled star.toList (Reading.of Catalog.empty (some star)) := by
    have before : Before .noTemperature ["add".toList, "star".toList, bracketed "a",
        bracketed "b", "1".toList, "2".toList] :=
      .measurement (by decide) (by decide) (by decide) rfl
    have word : IsWord "x".toList := by decide
    have spelled : star.toList = spaceEach ["add".toList, "star".toList, bracketed "a",
        bracketed "b", "1".toList, "2".toList, "x".toList] := by decide
    obtain ⟨rest, there, -⟩ := spaced_iff.mp (spaced_spaceEach ["add".toList, "star".toList,
      bracketed "a", bracketed "b", "1".toList, "2".toList, "x".toList])
    rw [wrongNumber, spelled]
    exact .present before word there
  refine ⟨parted, content, stats, ?_, settled, ?_, settled', ?_⟩
  · have extra : "Extra input after command: " ++ String.ofList (trim s.toList) =
        "Extra input after command: yes 4" := by decide
    rw [← extra]
    exact (first_fault_decides Catalog.empty "stats" s parted content).1 .stats (by decide)
      (by decide) stats
  · obtain ⟨message, first, later⟩ :=
      (first_fault_decides Catalog.empty planet s parted content).2 settled
    rw [Command.parse, wrongType] at first
    rw [later, ← first]
    rfl
  · obtain ⟨message, first, later⟩ :=
      (first_fault_decides Catalog.empty star s parted content).2 settled'
    rw [Command.parse, wrongNumber] at first
    rw [later, ← first]
    rfl

end SkyCatalog
