import SkyCatalog.Proofs.Command.Acceptance
import SkyCatalog.Proofs.Command.Form
import SkyCatalog.Proofs.Text.Parts

/-!
# Respacing — white space between tokens carries no meaning

Lines that hold the same tokens are read alike, whatever white space stands between the tokens:
token by token, both readings find the same and go on in the same way. A name in brackets is one
token together with the white space in it. Where a word is asked for, only the beginning of such a
token is taken, and no form goes on after it, so the white space inside is never met.
-/

namespace SkyCatalog

open SkyCatalog.Text (isBlank allBlank skipBlanks trim)

/-! ## §1  White space -/

namespace Text

/-- The characters of the general category of space separators, by their code points. -/
def spaceSeparators : List Nat :=
  [0x20, 0xA0, 0x1680] ++ List.range' 0x2000 11 ++ [0x202F, 0x205F, 0x3000]

/-- The characters of the bidirectional class of white space. -/
def directionlessSpaces : List Nat :=
  [0xC, 0x20, 0x1680] ++ List.range' 0x2000 11 ++ [0x2028, 0x205F, 0x3000]

/-- The characters of the bidirectional class of paragraph separators. -/
def paragraphSeparators : List Nat := [0xA, 0xD, 0x1C, 0x1D, 0x1E, 0x85, 0x2029]

/-- The characters of the bidirectional class of segment separators. -/
def segmentSeparators : List Nat := [0x9, 0xB, 0x1F]

/-- A character counts as a space by its general category or by its bidirectional class. -/
def IsSpace (c : Char) : Prop :=
  c.toNat ∈ spaceSeparators ∨ c.toNat ∈ directionlessSpaces ∨ c.toNat ∈ paragraphSeparators ∨
    c.toNat ∈ segmentSeparators

theorem isBlank_iff_isSpace {c : Char} : isBlank c = true ↔ IsSpace c := by
  simp only [isBlank, IsSpace, spaceSeparators, directionlessSpaces, paragraphSeparators,
    segmentSeparators, Bool.or_eq_true, Bool.and_eq_true, decide_eq_true_eq, beq_iff_eq,
    List.mem_append, List.mem_cons, List.mem_range'_1, List.not_mem_nil, or_false]
  omega

end Text

/-! ## §2  White space around a line -/

theorem Token.word?_append_left {u : List Char} (blank : allBlank u = true) (s : List Char) :
    Token.word? (u ++ s) = Token.word? s := by
  rw [Token.word?, Token.word?, Text.skipBlanks_append blank]

theorem Token.atBreak_of_allBlank {v : List Char} (blank : allBlank v = true) :
    Token.atBreak v = true := by
  cases v with
  | nil => rfl
  | cons c v => exact List.all_eq_true.mp blank c List.mem_cons_self

namespace Reading

variable {c : Catalog} {s v : List Char}

theorem leftover_append (blank : allBlank v = true) : leftover (s ++ v) = leftover s := by
  unfold leftover
  rw [Text.trim_append_of_allBlank s blank]
  by_cases empty : allBlank s = true
  · rw [if_pos empty, if_pos (Text.allBlank_append.mpr ⟨empty, blank⟩)]
  · rw [if_neg empty, if_neg fun whole => empty (Text.allBlank_append.mp whole).1]

theorem ofForm_append (form : Form Phrase) (blank : allBlank v = true) :
    ofForm c form (s ++ v) = ofForm c form s := by
  unfold ofForm
  rw [Form.read_append (Token.atBreak_of_allBlank blank) (.inr blank)]
  cases form.read s with
  | error fault => rfl
  | ok p =>
      cases resolved : p.1.resolve c with
      | error fault => simp only [Except.map, resolved]
      | ok cmd => simp only [Except.map, resolved, leftover_append blank]

/-- White space at the end of a line changes nothing. -/
theorem ofLine_append (c : Catalog) (s : List Char) (blank : allBlank v = true) :
    ofLine c (s ++ v) = ofLine c s := by
  cases first : Token.word? s with
  | none =>
      have empty := Token.word?_append_of_allBlank blank first
      rw [ofLine_of_no_word first, ofLine_of_no_word empty]
  | some p =>
      have more := Token.word?_append (Token.atBreak_of_allBlank blank) first
      cases verb : Form.ofVerb? (String.ofList p.1) with
      | none => rw [ofLine_of_no_verb first verb, ofLine_of_no_verb more verb]
      | some form =>
          rw [ofLine_of_form first verb, ofLine_of_form more verb, ofForm_append form blank]

/-- White space around a line changes nothing. -/
theorem ofLine_surrounded (c : Catalog) (s : List Char) {u : List Char}
    (before : allBlank u = true) (after : allBlank v = true) :
    ofLine c (u ++ s ++ v) = ofLine c s := by
  rw [ofLine_append c (u ++ s) after, ofLine, ofLine, Token.word?_append_left before]

end Reading

/-! ## §3  Tokens -/

namespace Grammar

/-- A token that stands by itself wherever it is met: a word that does not begin like a name, or a
name in brackets. -/
inductive IsToken : List Char → Prop where
  | word {w : List Char} (word : IsWord w) (plain : w.head? ≠ some '[') : IsToken w
  | name {n : String} (named : IsName n) : IsToken (bracketed n)

variable {t s r : List Char} {ts : List (List Char)}

theorem spaced_nil_iff : Spaced [] s ↔ allBlank s = true := by
  simp [spaced_iff, takes_nil_iff]

theorem spaced_cons_iff : Spaced (t :: ts) s ↔ ∃ m, Takes [t] s m ∧ Spaced ts m := by
  simp only [spaced_iff]
  constructor
  · rintro ⟨r, taken, left⟩
    obtain ⟨m, head, tail⟩ := takes_cons_iff.mp taken
    exact ⟨m, head, r, tail, left⟩
  · rintro ⟨m, head, r, tail, left⟩
    exact ⟨r, head.then tail, left⟩

theorem IsToken.exists_cons (token : IsToken t) : ∃ c t', t = c :: t' ∧ isBlank c = false := by
  cases token with
  | word word plain =>
      obtain ⟨c, t', rfl⟩ := List.exists_cons_of_ne_nil word.1
      exact ⟨c, t', rfl, word.2 c List.mem_cons_self⟩
  | name named => exact ⟨'[', _, rfl, rfl⟩

/-- Of a token a word takes what stands before the first white space in it. -/
theorem IsToken.word?_eq (token : IsToken t) (h : Takes [t] s r) :
    ∃ m, Token.word? s = some (t.takeWhile Token.inWord, m) := by
  obtain ⟨u, rfl, blank, parted⟩ := takes_singleton_iff.mp h
  obtain ⟨c, t', rfl, solid⟩ := token.exists_cons
  have stop : r.takeWhile Token.inWord = [] := by
    cases r with
    | nil => rfl
    | cons d r =>
        have broken : isBlank d = true := parted
        exact List.takeWhile_cons_of_neg (by simp [Token.inWord, broken])
  have cut : (c :: t' ++ r).takeWhile Token.inWord = (c :: t').takeWhile Token.inWord := by
    rw [List.takeWhile_append]
    split
    · next whole =>
        rw [stop, List.append_nil]
        exact ((List.takeWhile_prefix _).eq_of_length whole).symm
    · rfl
  refine ⟨(c :: t' ++ r).dropWhile Token.inWord, ?_⟩
  rw [List.append_assoc, Token.word?_append_left blank, ← cut]
  simp only [Token.word?, List.cons_append, Text.skipBlanks_cons_of_not_isBlank solid]
  rfl

theorem head?_takeWhile_bracketed (n : String) :
    ((bracketed n).takeWhile Token.inWord).head? = some '[' := rfl

/-- Where a word stands that does not begin like a name, no name is found. -/
theorem name?_of_plain (word : IsWord t) (plain : t.head? ≠ some '[') (h : Takes [t] s r) :
    Token.name? s = none := by
  rw [Option.eq_none_iff_forall_ne_some]
  rintro ⟨n, m⟩ found
  obtain ⟨named, taken⟩ := Token.name?_eq_some_iff.mp found
  obtain ⟨k, asName⟩ := (IsToken.name named).word?_eq taken
  rw [Token.word?_eq_some_iff.mpr ⟨word, h⟩] at asName
  obtain ⟨same, -⟩ := Prod.mk.inj (Option.some.inj asName)
  rw [same] at plain
  exact plain (head?_takeWhile_bracketed _)

theorem name?_of_allBlank (blank : allBlank s = true) : Token.name? s = none := by
  rw [← List.nil_append s]
  exact Token.name?_append_of_allBlank blank rfl

/-- The same tokens have been taken off two texts, and the same tokens are left on both. -/
def SameLeft (ts : List (List Char)) (s s' r r' : List Char) : Prop :=
  ∃ us vs, ts = us ++ vs ∧ (Takes us s r ∧ Spaced vs r) ∧ Takes us s' r' ∧ Spaced vs r'

theorem SameLeft.all {s s' : List Char} (h : Spaced ts s) (h' : Spaced ts s') :
    SameLeft ts s s' s s' := ⟨[], ts, rfl, ⟨.nil, h⟩, .nil, h'⟩

theorem SameLeft.after {s s' m m' r r' : List Char} (same : SameLeft ts m m' r r')
    (taken : Takes [t] s m) (taken' : Takes [t] s' m') : SameLeft (t :: ts) s s' r r' := by
  obtain ⟨us, vs, rfl, ⟨first, left⟩, first', left'⟩ := same
  exact ⟨t :: us, vs, rfl, ⟨taken.then first, left⟩, taken'.then first', left'⟩

end Grammar

/-! ## §4  Forms -/

namespace Form

open Grammar

variable {α β : Type}

/-- A form is discerning when it never goes on after a word that begins like a name. -/
def Discerning : Form α → Prop
  | done _ => True
  | fail _ => True
  | name _ next => ∀ n, (next n).Discerning
  | word _ next =>
    ∀ w, (w.head? = some '[' → ∃ fault, next w = fail fault) ∧ (next w).Discerning

theorem discerning_demand {x : Option β} {fault : SyntaxFault} {next : β → Form α}
    (h : ∀ b, (next b).Discerning) : (demand x fault next).Discerning := by
  cases x with
  | none => trivial
  | some b => exact h b

theorem discerning_refuse {bad : Bool} {fault : SyntaxFault} {next : Form α}
    (h : next.Discerning) : (refuse bad fault next).Discerning := by
  cases bad with
  | false => exact h
  | true => trivial

/-- A word that must denote something is asked for by a discerning form, when no text that begins
like a name denotes anything. -/
theorem discerning_word {denote : List Char → Option β} {missing : SyntaxFault}
    {fault : List Char → SyntaxFault} {next : β → Form α} (solid : ∀ w, denote ('[' :: w) = none)
    (h : ∀ b, (next b).Discerning) :
    (word missing fun w => demand (denote w) (fault w) next).Discerning := by
  intro w
  refine ⟨?_, discerning_demand h⟩
  intro bracket
  obtain ⟨w, rfl⟩ := List.head?_eq_some_iff.mp bracket
  refine ⟨fault ('[' :: w), ?_⟩
  show demand (denote ('[' :: w)) (fault ('[' :: w)) next = fail (fault ('[' :: w))
  rw [solid]
  rfl

/-- A form is refused alike on two texts, or finds the same on both and leaves the same tokens. -/
def ReadAlike (form : Form α) (ts : List (List Char)) (s s' : List Char) : Prop :=
  (∃ fault, form.read s = .error fault ∧ form.read s' = .error fault) ∨
    ∃ a r r', form.read s = .ok (a, r) ∧ form.read s' = .ok (a, r') ∧ SameLeft ts s s' r r'

/-- What a form goes on with after a token is read alike, so the form is. -/
theorem ReadAlike.after {form later : Form α} {t s s' m m' : List Char} {ts : List (List Char)}
    (h : later.ReadAlike ts m m') (taken : Takes [t] s m) (taken' : Takes [t] s' m')
    (read : form.read s = later.read m) (read' : form.read s' = later.read m') :
    form.ReadAlike (t :: ts) s s' := by
  rw [ReadAlike, read, read']
  refine h.imp_right ?_
  rintro ⟨a, r, r', ok, ok', same⟩
  exact ⟨a, r, r', ok, ok', same.after taken taken'⟩

/-- **Texts with the same tokens** are read alike by a discerning form. -/
theorem read_respaced {form : Form α} (discerning : form.Discerning) {ts : List (List Char)}
    (tokens : ∀ t ∈ ts, IsToken t) {s s' : List Char} (h : Spaced ts s) (h' : Spaced ts s') :
    form.ReadAlike ts s s' := by
  induction form generalizing ts s s' with
  | done a => exact .inr ⟨a, s, s', rfl, rfl, .all h h'⟩
  | fail fault => exact .inl ⟨fault, rfl, rfl⟩
  | name missing next ih =>
      cases ts with
      | nil =>
          refine .inl ⟨missing, read_name_of_none ?_, read_name_of_none ?_⟩
          · exact name?_of_allBlank (spaced_nil_iff.mp h)
          · exact name?_of_allBlank (spaced_nil_iff.mp h')
      | cons t ts =>
          obtain ⟨m, taken, left⟩ := spaced_cons_iff.mp h
          obtain ⟨m', taken', left'⟩ := spaced_cons_iff.mp h'
          obtain ⟨token, others⟩ := List.forall_mem_cons.mp tokens
          cases token with
          | word word plain =>
              refine .inl ⟨missing, read_name_of_none ?_, read_name_of_none ?_⟩
              · exact name?_of_plain word plain taken
              · exact name?_of_plain word plain taken'
          | @name n named =>
              refine (ih n (discerning n) others left left').after taken taken' ?_ ?_
              · rw [read_name_of_some (Token.name?_of_takes named taken), String.ofList_toList]
              · rw [read_name_of_some (Token.name?_of_takes named taken'), String.ofList_toList]
  | word missing next ih =>
      cases ts with
      | nil =>
          refine .inl ⟨missing, read_word_of_none ?_, read_word_of_none ?_⟩
          · exact Token.word?_eq_none_iff.mpr (spaced_nil_iff.mp h)
          · exact Token.word?_eq_none_iff.mpr (spaced_nil_iff.mp h')
      | cons t ts =>
          obtain ⟨m, taken, left⟩ := spaced_cons_iff.mp h
          obtain ⟨m', taken', left'⟩ := spaced_cons_iff.mp h'
          obtain ⟨token, others⟩ := List.forall_mem_cons.mp tokens
          cases token with
          | word word plain =>
              refine (ih t (discerning t).2 others left left').after taken taken' ?_ ?_
              · exact read_word_of_some (Token.word?_eq_some_iff.mpr ⟨word, taken⟩)
              · exact read_word_of_some (Token.word?_eq_some_iff.mpr ⟨word, taken'⟩)
          | @name n named =>
              -- only the beginning of the name is taken, and there the form ends
              obtain ⟨k, found⟩ := (IsToken.name named).word?_eq taken
              obtain ⟨k', found'⟩ := (IsToken.name named).word?_eq taken'
              obtain ⟨fault, ends⟩ := (discerning _).1 (head?_takeWhile_bracketed n)
              rw [ReadAlike, read_word_of_some found, read_word_of_some found', ends]
              exact .inl ⟨fault, rfl, rfl⟩

end Form

/-! ## §5  No phrase goes on after a word that begins like a name -/

theorem Text.trimOf_cons {p : Char → Bool} {c : Char} (solid : p c = false) (s : List Char) :
    ∃ s', Text.trimOf p (c :: s) = c :: s' := by
  rw [Text.trimOf, List.dropWhile_cons_of_neg (by simp [solid]), List.reverse_cons,
    List.dropWhile_append]
  split
  · exact ⟨[], by simp [solid]⟩
  · exact ⟨(s.reverse.dropWhile p).reverse, by simp⟩

theorem Numeral.digitRun?_bracket (w : List Char) : Numeral.digitRun? ('[' :: w) = none := by
  have digit : Text.digit? '[' = none := by decide
  rw [Numeral.digitRun?, digit]

theorem Numeral.real?_bracket (w : List Char) : Numeral.real? ('[' :: w) = none := by
  obtain ⟨v, trimmed⟩ := Text.trimOf_cons (p := Numeral.isMargin) (c := '[') rfl w
  have unsigned : Numeral.unsigned? ('[' :: v) = none := by
    rw [Numeral.unsigned?, Numeral.digitRun, Numeral.digitRun?_bracket]
    rfl
  have lowered : ('[' :: v).map Char.toLower = '[' :: v.map Char.toLower := rfl
  have signed : Numeral.sign ('[' :: v) = (false, '[' :: v) := rfl
  rw [Numeral.real?, trimmed, Numeral.realWord?, signed]
  simp [lowered, unsigned, Numeral.infinityWords, Numeral.nanWord]

theorem Numeral.integer?_bracket (w : List Char) : Numeral.integer? ('[' :: w) = none := by
  have signed : Numeral.sign ('[' :: w) = (false, '[' :: w) := rfl
  rw [Numeral.integer?, signed]
  simp [Numeral.digitRun?_bracket]

/-- What is looked up among texts without a bracket is not found by a text with one. -/
theorem lookup_eq_none_of_bracket {α : Type} {lookup : String → Option α} (spell : α → String)
    (spelled : ∀ {w a}, lookup w = some a → spell a = w) (solid : ∀ a, '[' ∉ (spell a).toList)
    {w : String} (bracket : '[' ∈ w.toList) : lookup w = none := by
  rw [Option.eq_none_iff_forall_ne_some]
  intro a found
  rw [← spelled found] at bracket
  exact solid a bracket

theorem Kind.ofWord?_bracket {w : String} (h : '[' ∈ w.toList) : Kind.ofWord? w = none :=
  lookup_eq_none_of_bracket Kind.word Kind.word_of_ofWord? (by intro k; cases k <;> decide) h

theorem Kind.ofPlural?_bracket {w : String} (h : '[' ∈ w.toList) : Kind.ofPlural? w = none :=
  lookup_eq_none_of_bracket Kind.plural Kind.plural_of_ofPlural? (by intro k; cases k <;> decide) h

theorem GalaxyType.ofWord?_bracket {w : String} (h : '[' ∈ w.toList) :
    GalaxyType.ofWord? w = none :=
  lookup_eq_none_of_bracket GalaxyType.word GalaxyType.word_of_ofWord?
    (by intro t; cases t <;> decide) h

theorem PlanetType.ofLabel?_bracket {w : String} (h : '[' ∈ w.toList) :
    PlanetType.ofLabel? w = none :=
  lookup_eq_none_of_bracket PlanetType.label PlanetType.label_of_ofLabel?
    (by intro t; cases t <;> decide) h

theorem Phrase.ofAnswer?_bracket {w : String} (h : '[' ∈ w.toList) : Phrase.ofAnswer? w = none :=
  lookup_eq_none_of_bracket Grammar.answerWord
    (fun found => (Phrase.answerWord_of_ofAnswer? found).symm)
    (by intro life; cases life <;> decide) h

namespace Form

variable {α : Type}

theorem mem_ofList_bracket (w : List Char) : '[' ∈ (String.ofList ('[' :: w)).toList := by
  rw [String.toList_ofList]
  exact List.mem_cons_self

/-- The letter of an age is judged first, and then what stands before it. -/
theorem discerning_age {next : AgeUnit → Binary64 → Form α}
    (h : ∀ units age, (next units age).Discerning) :
    (word .noAge fun w =>
      demand (w.getLast?.bind AgeUnit.ofSuffix?) .noAgeUnit fun units =>
      demand (Numeral.real? w.dropLast) .ageNotReal (next units)).Discerning := by
  intro w
  refine ⟨?_, discerning_demand fun units => discerning_demand (h units)⟩
  intro bracket
  obtain ⟨w, rfl⟩ := List.head?_eq_some_iff.mp bracket
  -- without its last letter the age still begins with the bracket, unless nothing is left of it
  have unread : Numeral.real? ('[' :: w).dropLast = none := by
    cases w with
    | nil => decide
    | cons c w => exact Numeral.real?_bracket _
  show ∃ fault, demand (('[' :: w).getLast?.bind AgeUnit.ofSuffix?) .noAgeUnit (fun units =>
    demand (Numeral.real? ('[' :: w).dropLast) .ageNotReal (next units)) = fail fault
  rw [unread]
  cases ('[' :: w).getLast?.bind AgeUnit.ofSuffix? with
  | none => exact ⟨.noAgeUnit, rfl⟩
  | some units => exact ⟨.ageNotReal, rfl⟩

theorem discerning_galaxy : galaxy.Discerning := by
  intro n
  refine discerning_word (fun w => GalaxyType.ofWord?_bracket (mem_ofList_bracket w)) ?_
  intro type
  exact discerning_age fun units age => discerning_refuse trivial

theorem discerning_star : star.Discerning := by
  intro parent n
  refine discerning_word Numeral.real?_bracket fun mass => ?_
  refine discerning_word Numeral.real?_bracket fun diameter => discerning_refuse ?_
  refine discerning_word Numeral.integer?_bracket fun temperature => discerning_refuse ?_
  exact discerning_word Numeral.real?_bracket fun luminosity => trivial

/-- Neither the only word of a planet type nor the second of two begins like a name. -/
theorem discerning_planetType {next : PlanetType → Form α} (h : ∀ type, (next type).Discerning) :
    (planetType next).Discerning := by
  intro w
  constructor
  · intro bracket
    obtain ⟨w, rfl⟩ := List.head?_eq_some_iff.mp bracket
    have inside := mem_ofList_bracket w
    have whole : ¬ Phrase.firstHalves.contains (String.ofList ('[' :: w)) = true := by
      intro half
      rcases List.mem_cons.mp (List.contains_iff_mem.mp half) with giant | ice
      · rw [giant] at inside
        exact absurd inside (by decide)
      · rw [List.mem_singleton.mp ice] at inside
        exact absurd inside (by decide)
    refine ⟨.unknownPlanetType (String.ofList ('[' :: w)), (if_neg whole).trans ?_⟩
    rw [labelled, PlanetType.ofLabel?_bracket inside]
    rfl
  · dsimp only
    split
    · refine discerning_word (fun v => PlanetType.ofLabel?_bracket ?_) h
      rw [String.toList_append]
      exact List.mem_append_right _ (mem_ofList_bracket v)
    · exact discerning_demand h

theorem discerning_planet : planet.Discerning := by
  intro parent n
  refine discerning_planetType fun type => ?_
  exact discerning_word (fun w => Phrase.ofAnswer?_bracket (mem_ofList_bracket w)) fun _ => trivial

theorem discerning_ofKind (kind : Kind) : (ofKind kind).Discerning := by
  cases kind with
  | galaxy => exact discerning_galaxy
  | star => exact discerning_star
  | planet => exact discerning_planet
  | moon => exact fun parent n => trivial

theorem discerning_add : add.Discerning :=
  discerning_word (fun w => Kind.ofWord?_bracket (mem_ofList_bracket w)) discerning_ofKind

theorem discerning_list : list.Discerning :=
  discerning_word (fun w => Kind.ofPlural?_bracket (mem_ofList_bracket w)) fun _ => trivial

/-- **No command goes on after a word that begins like a name.** -/
theorem discerning_ofVerb? {w : String} {form : Form Phrase} (h : ofVerb? w = some form) :
    form.Discerning := by
  unfold ofVerb? at h
  split at h <;> cases h
  · exact discerning_add
  · exact discerning_list
  · trivial
  · exact fun n => trivial
  · trivial

/-- No command begins like a name. -/
theorem ofVerb?_bracket {w : List Char} (bracket : w.head? = some '[') :
    ofVerb? (String.ofList w) = none := by
  obtain ⟨w, rfl⟩ := List.head?_eq_some_iff.mp bracket
  have inside := mem_ofList_bracket w
  generalize String.ofList ('[' :: w) = verb at inside
  unfold ofVerb?
  split
  case h_6 => rfl
  all_goals exact absurd inside (by decide)

end Form

/-! ## §6  Lines -/

namespace Reading

open Grammar

variable {c : Catalog} {ts : List (List Char)} {s s' r r' : List Char}

theorem leftover_of_spaced {t : List Char} (token : IsToken t) (h : Spaced (t :: ts) s) :
    leftover s = some (String.ofList (trim s)) := by
  obtain ⟨m, taken, -⟩ := spaced_cons_iff.mp h
  obtain ⟨k, found⟩ := token.word?_eq taken
  unfold leftover
  rw [if_neg]
  intro blank
  rw [Token.word?_eq_none_iff.mpr blank] at found
  cases found

/-- Something is left of both texts or of none. -/
theorem leftover_respaced (tokens : ∀ t ∈ ts, IsToken t) (same : SameLeft ts s s' r r') :
    (leftover r = none ∧ leftover r' = none) ∨
      (leftover r = some (String.ofList (trim r)) ∧
        leftover r' = some (String.ofList (trim r'))) := by
  obtain ⟨us, vs, rfl, ⟨-, left⟩, -, left'⟩ := same
  cases vs with
  | nil =>
      refine .inl ⟨?_, ?_⟩
      · exact leftover_eq_none_iff.mpr (spaced_nil_iff.mp left)
      · exact leftover_eq_none_iff.mpr (spaced_nil_iff.mp left')
  | cons t vs =>
      have token : IsToken t := tokens t (List.mem_append_right us List.mem_cons_self)
      exact .inr ⟨leftover_of_spaced token left, leftover_of_spaced token left'⟩

/-- The readings of two texts are the same, or both report extra input, which is what is left of
each text after the same tokens. -/
def AlikeButExtra (ts : List (List Char)) (s s' : List Char) (x x' : Reading) : Prop :=
  x = x' ∨ ∃ r r', SameLeft ts s s' r r' ∧ x = .extraInput (String.ofList (trim r)) ∧
    x' = .extraInput (String.ofList (trim r'))

theorem ofForm_respaced {form : Form Phrase} (discerning : form.Discerning)
    (tokens : ∀ t ∈ ts, IsToken t) (h : Spaced ts s) (h' : Spaced ts s') :
    AlikeButExtra ts s s' (ofForm c form s) (ofForm c form s') := by
  unfold ofForm
  rcases Form.read_respaced discerning tokens h h' with
    ⟨fault, failed, failed'⟩ | ⟨ph, r, r', ok, ok', same⟩
  · rw [failed, failed']
    exact .inl rfl
  · rw [ok, ok']
    dsimp only
    cases ph.resolve c with
    | error fault => exact .inl rfl
    | ok cmd =>
        rcases leftover_respaced tokens same with ⟨none, none'⟩ | ⟨extra, extra'⟩
        · rw [none, none']
          exact .inl rfl
        · rw [extra, extra']
          exact .inr ⟨r, r', same, rfl, rfl⟩

theorem ofLine_respaced (c : Catalog) (tokens : ∀ t ∈ ts, IsToken t) (h : Spaced ts s)
    (h' : Spaced ts s') : AlikeButExtra ts s s' (ofLine c s) (ofLine c s') := by
  cases ts with
  | nil =>
      rw [ofLine_eq_blank_iff.mpr (spaced_nil_iff.mp h),
        ofLine_eq_blank_iff.mpr (spaced_nil_iff.mp h')]
      exact .inl rfl
  | cons t ts =>
      obtain ⟨m, taken, left⟩ := spaced_cons_iff.mp h
      obtain ⟨m', taken', left'⟩ := spaced_cons_iff.mp h'
      obtain ⟨token, others⟩ := List.forall_mem_cons.mp tokens
      cases token with
      | word word plain =>
          have first := Token.word?_eq_some_iff.mpr ⟨word, taken⟩
          have first' := Token.word?_eq_some_iff.mpr ⟨word, taken'⟩
          cases verb : Form.ofVerb? (String.ofList t) with
          | none =>
              rw [ofLine_of_no_verb first verb, ofLine_of_no_verb first' verb]
              exact .inl rfl
          | some form =>
              rw [ofLine_of_form first verb, ofLine_of_form first' verb]
              refine (ofForm_respaced (Form.discerning_ofVerb? verb) others left left').imp_right ?_
              rintro ⟨r, r', same, extra⟩
              exact ⟨r, r', same.after taken taken', extra⟩
      | @name n named =>
          obtain ⟨k, first⟩ := (IsToken.name named).word?_eq taken
          obtain ⟨k', first'⟩ := (IsToken.name named).word?_eq taken'
          have verb := Form.ofVerb?_bracket (head?_takeWhile_bracketed n)
          rw [ofLine_of_no_verb first verb, ofLine_of_no_verb first' verb]
          exact .inl rfl

end Reading

/-! ## §7  The theorem -/

open Grammar

/-- One table says in every place what white space is: where it is skipped, where a word ends,
after the bracket that closes a name, in the test for a blank text, and where a text is trimmed. -/
theorem Text.isSpace_everywhere (ch : Char) :
    (skipBlanks [ch] = [] ↔ Text.IsSpace ch) ∧ (Token.word? [ch] = none ↔ Text.IsSpace ch) ∧
      (Token.name? ['[', 'a', ']', ch] ≠ none ↔ Text.IsSpace ch) ∧
      (allBlank [ch] = true ↔ Text.IsSpace ch) ∧ (trim [ch] = [] ↔ Text.IsSpace ch) := by
  have closed : Token.name? ['[', 'a', ']', ch] =
      if isBlank ch = true then some (['a'], [ch]) else none := rfl
  rw [← Text.isBlank_iff_isSpace, closed]
  cases blank : isBlank ch with
  | false => simp [skipBlanks, Token.word?, allBlank, trim, Text.trimOf, blank]
  | true => simp [skipBlanks, Token.word?, allBlank, trim, Text.trimOf, blank]

/-- **White space between tokens carries no meaning.** White space around a line does not change
the command that it comes to. Two lines with the same tokens come to the same command, whatever
white space stands between the tokens, but for a complaint about extra input, which shows what is
left of its own line. And white space is the same set of characters everywhere. -/
theorem white_space_carries_no_meaning (c : Catalog) :
    (∀ u line v : String, allBlank u.toList = true → allBlank v.toList = true →
      Command.parse c (some (u ++ line ++ v)) = Command.parse c (some line)) ∧
    (∀ (ts : List (List Char)) (line line' : String), (∀ t ∈ ts, IsToken t) →
      Spaced ts line.toList → Spaced ts line'.toList →
      Command.parse c (some line) = Command.parse c (some line') ∨
      ∃ r r', SameLeft ts line.toList line'.toList r r' ∧
        Command.parse c (some line) =
          .complain ("Extra input after command: " ++ String.ofList (trim r)) ∧
        Command.parse c (some line') =
          .complain ("Extra input after command: " ++ String.ofList (trim r'))) ∧
    ∀ ch : Char,
      (skipBlanks [ch] = [] ↔ Text.IsSpace ch) ∧ (Token.word? [ch] = none ↔ Text.IsSpace ch) ∧
      (Token.name? ['[', 'a', ']', ch] ≠ none ↔ Text.IsSpace ch) ∧
      (allBlank [ch] = true ↔ Text.IsSpace ch) ∧ (trim [ch] = [] ↔ Text.IsSpace ch) := by
  refine ⟨?_, ?_, Text.isSpace_everywhere⟩
  · intro u line v before after
    refine congrArg Reading.command ?_
    show Reading.ofLine c (u ++ line ++ v).toList = Reading.ofLine c line.toList
    rw [String.toList_append, String.toList_append]
    exact Reading.ofLine_surrounded c line.toList before after
  · intro ts line line' tokens h h'
    rcases Reading.ofLine_respaced c tokens h h' with same | ⟨r, r', same, extra, extra'⟩
    · exact .inl (congrArg Reading.command same)
    · refine .inr ⟨r, r', same, ?_, ?_⟩
      · exact congrArg Reading.command extra
      · exact congrArg Reading.command extra'

/-- A line that is surrounded by tabs and wide spaces; and extra input with a name in it, whose
inner white space is shown while that between the tokens differs. -/
theorem white_space_carries_no_meaning_around_names :
    let tokens := ["stats".toList, "x".toList, bracketed "p  q"]
    let line := "stats x [p  q]"
    let line' := "\u3000stats\tx   [p  q]\n"
    Command.parse Catalog.empty (some ("\t\u2028" ++ "stats" ++ "\u00a0")) =
        Command.parse Catalog.empty (some "stats") ∧
      (∀ t ∈ tokens, IsToken t) ∧ Spaced tokens line.toList ∧ Spaced tokens line'.toList ∧
      (∃ r r', SameLeft tokens line.toList line'.toList r r' ∧
        String.ofList (trim r) = "x [p  q]" ∧ String.ofList (trim r') = "x   [p  q]") ∧
      Text.IsSpace '\u3000' := by
  intro tokens line line'
  obtain ⟨around, between, everywhere⟩ := white_space_carries_no_meaning Catalog.empty
  have each : ∀ t ∈ tokens, IsToken t := by
    intro t ht
    rcases List.mem_cons.mp ht with rfl | ht
    · exact .word (by decide) (by decide)
    · rcases List.mem_cons.mp ht with rfl | ht
      · exact .word (by decide) (by decide)
      · obtain rfl := List.mem_singleton.mp ht
        exact .name (by decide)
  have spaced : Spaced tokens line.toList := by
    refine spaced_cons_iff.mpr ⟨" x [p  q]".toList, ?_, ?_⟩
    · exact takes_singleton_iff.mpr ⟨[], by decide⟩
    refine spaced_cons_iff.mpr ⟨" [p  q]".toList, ?_, ?_⟩
    · exact takes_singleton_iff.mpr ⟨[' '], by decide⟩
    refine spaced_cons_iff.mpr ⟨[], ?_, .nil rfl⟩
    exact takes_singleton_iff.mpr ⟨[' '], by decide⟩
  have spaced' : Spaced tokens line'.toList := by
    refine spaced_cons_iff.mpr ⟨"\tx   [p  q]\n".toList, ?_, ?_⟩
    · exact takes_singleton_iff.mpr ⟨['\u3000'], by decide⟩
    refine spaced_cons_iff.mpr ⟨"   [p  q]\n".toList, ?_, ?_⟩
    · exact takes_singleton_iff.mpr ⟨['\t'], by decide⟩
    refine spaced_cons_iff.mpr ⟨['\n'], ?_, .nil rfl⟩
    exact takes_singleton_iff.mpr ⟨"   ".toList, by decide⟩
  refine ⟨around "\t\u2028" "stats" "\u00a0" (by decide) (by decide), each, spaced, spaced', ?_, ?_⟩
  · have shown : Command.parse Catalog.empty (some line) =
        .complain "Extra input after command: x [p  q]" := by decide +kernel
    have shown' : Command.parse Catalog.empty (some line') =
        .complain "Extra input after command: x   [p  q]" := by decide +kernel
    rcases between tokens line line' each spaced spaced' with same | ⟨r, r', same, extra, extra'⟩
    · rw [shown, shown'] at same
      exact absurd same (by decide)
    · refine ⟨r, r', same, ?_, ?_⟩
      · rw [shown] at extra
        exact (String.append_right_inj _).mp (Command.complain.inj extra).symm
      · rw [shown'] at extra'
        exact (String.append_right_inj _).mp (Command.complain.inj extra').symm
  · exact (everywhere '\u3000').1.mp (by decide)

end SkyCatalog
