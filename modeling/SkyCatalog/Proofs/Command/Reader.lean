import Mathlib.Data.String.Basic
import SkyCatalog.Command.Form
import SkyCatalog.Proofs.Command.Token

/-!
# Readers — the forms of the language against the grammar

What a form reads is said step by step: it asks for a token and goes on, and a value that it demands
is there. With these rules every form opens into the tokens that it takes, and these are the tokens
by which the grammar says the phrase. Both directions hold at once: the form takes nothing else, and
refuses none of these.
-/

/-! ## §1  What a form reads -/

theorem Except.bind_eq_ok_iff {ε α β : Type} {x : Except ε α} {f : α → Except ε β} {b : β} :
    (x >>= f) = .ok b ↔ ∃ a, x = .ok a ∧ f a = .ok b := by
  cases x with
  | error e =>
      constructor
      · rintro ⟨⟩
      · rintro ⟨_, ⟨⟩, -⟩
  | ok a =>
      constructor
      · exact fun h => ⟨a, rfl, h⟩
      · rintro ⟨_, ⟨⟩, h⟩
        exact h

namespace SkyCatalog

namespace Form

open Grammar

variable {α β : Type} {missing fault : SyntaxFault} {s r : List Char} {a b : α}

theorem read_done_eq_ok_iff : (done a).read s = .ok (b, r) ↔ b = a ∧ r = s := by
  rw [read, Except.ok.injEq, Prod.mk.injEq, eq_comm, eq_comm (a := s)]

theorem read_name_eq_ok_iff {next : String → Form α} :
    (name missing next).read s = .ok (a, r) ↔
      ∃ n m, (IsName n ∧ Takes [bracketed n] s m) ∧ (next n).read m = .ok (a, r) := by
  constructor
  · intro h
    cases found : Token.name? s with
    | none =>
        rw [read_name_of_none found] at h
        cases h
    | some p =>
        rw [read_name_of_some found] at h
        exact ⟨_, p.2, Token.name?_eq_some_iff.mp found, h⟩
  · rintro ⟨n, m, ⟨named, taken⟩, h⟩
    rw [read_name_of_some (Token.name?_of_takes named taken), String.ofList_toList]
    exact h

theorem read_word_eq_ok_iff {next : List Char → Form α} :
    (word missing next).read s = .ok (a, r) ↔
      ∃ w m, (IsWord w ∧ Takes [w] s m) ∧ (next w).read m = .ok (a, r) := by
  constructor
  · intro h
    cases found : Token.word? s with
    | none =>
        rw [read_word_of_none found] at h
        cases h
    | some p =>
        rw [read_word_of_some found] at h
        exact ⟨p.1, p.2, Token.word?_eq_some_iff.mp found, h⟩
  · rintro ⟨w, m, found, h⟩
    rw [read_word_of_some (Token.word?_eq_some_iff.mpr found)]
    exact h

theorem read_demand_eq_ok_iff {x : Option β} {next : β → Form α} :
    (demand x fault next).read s = .ok (a, r) ↔ ∃ b, x = some b ∧ (next b).read s = .ok (a, r) := by
  cases x with
  | none =>
      constructor
      · rintro ⟨⟩
      · rintro ⟨_, ⟨⟩, -⟩
  | some b => simp [demand]

theorem read_refuse_eq_ok_iff {bad : Bool} {next : Form α} :
    (refuse bad fault next).read s = .ok (a, r) ↔ bad = false ∧ next.read s = .ok (a, r) := by
  cases bad with
  | false => simp [refuse]
  | true =>
      constructor
      · rintro ⟨⟩
      · rintro ⟨⟨⟩, -⟩

theorem read_numeral_eq_ok_iff {denote : List Char → Option β} {next : β → Form α} :
    (numeral denote missing next).read s = .ok (a, r) ↔
      ∃ b m, (∃ w, IsWord w ∧ denote w = some b ∧ Takes [w] s m) ∧
        (next b).read m = .ok (a, r) := by
  simp only [← Token.numeral?_eq_some_iff]
  rw [read_numeral]
  cases Token.numeral? denote s with
  | none =>
      constructor
      · rintro ⟨⟩
      · rintro ⟨_, _, ⟨⟩, -⟩
  | some p =>
      constructor
      · exact fun h => ⟨p.1, p.2, rfl, h⟩
      · rintro ⟨_, _, ⟨⟩, h⟩
        exact h

end Form

/-! ## §2  Closed lists of words -/

theorem GalaxyType.isWord_word (t : GalaxyType) : Grammar.IsWord t.word.toList := by
  cases t <;> decide

theorem Kind.isWord_word (k : Kind) : Grammar.IsWord k.word.toList := by cases k <;> decide

theorem Kind.isWord_plural (k : Kind) : Grammar.IsWord k.plural.toList := by cases k <;> decide

namespace Phrase

open Grammar

theorem ofAnswer?_answerWord (life : Bool) : ofAnswer? (answerWord life) = some life := by
  cases life <;> decide

theorem isWord_answerWord (life : Bool) : IsWord (answerWord life).toList := by
  cases life <;> decide

theorem answerWord_of_ofAnswer? {w : String} {life : Bool} (h : ofAnswer? w = some life) :
    w = answerWord life := by
  unfold ofAnswer? at h
  split at h
  · cases h
    assumption
  · split at h
    · cases h
      assumption
    · cases h

/-- A label is a word, or two words of which the first begins no other label. -/
theorem labelWords_cases (t : PlanetType) :
    (IsWord t.label.toList ∧ labelWords t = [t.label.toList]) ∨
    ∃ w v, w ∈ firstHalves ∧ IsWord w.toList ∧ IsWord v.toList ∧ t.label = w ++ " " ++ v ∧
      labelWords t = [w.toList, v.toList] := by
  cases t with
  | giantPlanet => exact .inr ⟨"giant", "planet", by decide⟩
  | iceGiant => exact .inr ⟨"ice", "giant", by decide⟩
  | _ => exact .inl (by decide)

/-- Words hold no space. -/
theorem space_not_mem {w : List Char} (h : IsWord w) : ' ' ∉ w := fun hm =>
  absurd (h.2 ' ' hm) (by decide)

theorem labelWords_of_one {t : PlanetType} (h : IsWord t.label.toList) :
    labelWords t = [t.label.toList] := by
  have split : ([' '].intercalate [t.label.toList]).splitOn ' ' = [t.label.toList] :=
    List.splitOn_intercalate ' ' (by simpa using space_not_mem h) (by simp)
  simpa [labelWords] using split

theorem labelWords_of_two {t : PlanetType} {w v : String} (spelled : t.label = w ++ " " ++ v)
    (word : IsWord w.toList) (word' : IsWord v.toList) :
    labelWords t = [w.toList, v.toList] := by
  have split : ([' '].intercalate [w.toList, v.toList]).splitOn ' ' = [w.toList, v.toList] :=
    List.splitOn_intercalate ' ' (by simpa using ⟨space_not_mem word, space_not_mem word'⟩)
      (by simp)
  simpa [labelWords, spelled] using split

end Phrase

/-! ## §3  The readers -/

namespace Form

open Grammar Phrase

/-- A form that goes on after some first tokens reads a phrase exactly when the tokens that it
takes complete the first ones to those that say the phrase. -/
def Reads (first : List (List Char)) (form : Form Phrase) : Prop :=
  ∀ s ph r, form.read s = .ok (ph, r) ↔ ∃ ts, Says ph (first ++ ts) ∧ Takes ts s r

/-- An age is a word whose last letter is that of a unit. -/
theorem age_iff {w : List Char} {age : Binary64} {units : AgeUnit} :
    w.getLast?.bind AgeUnit.ofSuffix? = some units ∧ Numeral.real? w.dropLast = some age ↔
      ∃ v, w = v ++ [units.suffix] ∧ Numeral.real? v = some age := by
  constructor
  · rintro ⟨unit, number⟩
    obtain ⟨c, last, suffix⟩ := Option.bind_eq_some_iff.mp unit
    obtain rfl := AgeUnit.suffix_of_ofSuffix? suffix
    obtain ⟨v, rfl⟩ := List.getLast?_eq_some_iff.mp last
    exact ⟨v, rfl, by simpa using number⟩
  · rintro ⟨v, rfl, number⟩
    simp [AgeUnit.ofSuffix?_suffix, number]

theorem reads_galaxy : galaxy.Reads ["add".toList, "galaxy".toList] := by
  intro s ph r
  simp only [galaxy, read_name_eq_ok_iff, read_word_eq_ok_iff, read_demand_eq_ok_iff,
    read_refuse_eq_ok_iff, read_done_eq_ok_iff]
  constructor
  · rintro ⟨n, s₁, ⟨named, h₁⟩, w, s₂, ⟨-, h₂⟩, type, typed, v, s₃, ⟨word, h₃⟩, units, unit, age,
      number, nonzero, rfl, rfl⟩
    obtain rfl := String.ofList_eq.mp (GalaxyType.word_of_ofWord? typed).symm
    obtain ⟨v, rfl, read⟩ := age_iff.mp ⟨unit, number⟩
    exact ⟨_, .addGalaxy named word read nonzero, h₁.then (h₂.then h₃)⟩
  · rintro ⟨ts, said, taken⟩
    -- no other phrase is said with these first tokens, so the rest are those of this one
    generalize all : ["add".toList, "galaxy".toList] ++ ts = tokens at said
    cases said with
    | @addGalaxy name type age units v named word number nonzero =>
        simp only [List.cons_append, List.nil_append, List.cons.injEq, true_and] at all
        subst all
        obtain ⟨s₁, h₁, taken⟩ := takes_cons_iff.mp taken
        obtain ⟨s₂, h₂, h₃⟩ := takes_cons_iff.mp taken
        obtain ⟨unit, number⟩ := age_iff.mpr ⟨v, rfl, number⟩
        refine ⟨name, s₁, ⟨named, h₁⟩, type.word.toList, s₂, ⟨type.isWord_word, h₂⟩, type, ?_,
          _, r, ⟨word, h₃⟩, units, unit, age, number, nonzero, rfl, rfl⟩
        rw [String.ofList_toList, type.ofWord?_word]
    | _ => simp at all

theorem reads_star : star.Reads ["add".toList, "star".toList] := by
  intro s ph r
  simp only [star, read_name_eq_ok_iff, read_numeral_eq_ok_iff, read_refuse_eq_ok_iff,
    read_done_eq_ok_iff, decide_eq_false_iff_not, Int.not_lt]
  constructor
  · rintro ⟨parent, s₁, ⟨parentNamed, h₁⟩, n, s₂, ⟨named, h₂⟩, mass, s₃, ⟨m, mWord, mRead, h₃⟩,
      diameter, s₄, ⟨d, dWord, dRead, h₄⟩, positive, temperature, s₅, ⟨t, tWord, tRead, h₅⟩, warm,
      luminosity, s₆, ⟨l, lWord, lRead, h₆⟩, rfl, rfl⟩
    refine ⟨_, .addStar parentNamed named ⟨mWord, dWord, tWord, lWord⟩ mRead dRead tRead lRead
      positive warm, ?_⟩
    exact h₁.then (h₂.then (h₃.then (h₄.then (h₅.then h₆))))
  · rintro ⟨ts, said, taken⟩
    generalize all : ["add".toList, "star".toList] ++ ts = tokens at said
    cases said with
    | addStar parentNamed named words mRead dRead tRead lRead positive warm =>
        simp only [List.cons_append, List.nil_append, List.cons.injEq, true_and] at all
        subst all
        obtain ⟨mWord, dWord, tWord, lWord⟩ := words
        obtain ⟨s₁, h₁, taken⟩ := takes_cons_iff.mp taken
        obtain ⟨s₂, h₂, taken⟩ := takes_cons_iff.mp taken
        obtain ⟨s₃, h₃, taken⟩ := takes_cons_iff.mp taken
        obtain ⟨s₄, h₄, taken⟩ := takes_cons_iff.mp taken
        obtain ⟨s₅, h₅, h₆⟩ := takes_cons_iff.mp taken
        exact ⟨_, s₁, ⟨parentNamed, h₁⟩, _, s₂, ⟨named, h₂⟩, _, s₃, ⟨_, mWord, mRead, h₃⟩,
          _, s₄, ⟨_, dWord, dRead, h₄⟩, positive, _, s₅, ⟨_, tWord, tRead, h₅⟩, warm,
          _, r, ⟨_, lWord, lRead, h₆⟩, rfl, rfl⟩
    | _ => simp at all

/-- **A planet type** is read in as many words as its label has: the words that begin a label of
two words are no labels themselves, and no other word begins one. -/
theorem read_planetType_eq_ok_iff {α : Type} {next : PlanetType → Form α} {s r : List Char}
    {a : α} : (planetType next).read s = .ok (a, r) ↔
      ∃ type m, Takes (labelWords type) s m ∧ (next type).read m = .ok (a, r) := by
  simp only [planetType, read_word_eq_ok_iff]
  constructor
  · rintro ⟨w, m, ⟨word, h₁⟩, h₂⟩
    by_cases half : firstHalves.contains (String.ofList w) = true
    · rw [if_pos half] at h₂
      obtain ⟨v, m', ⟨word', h₃⟩, h₄⟩ := read_word_eq_ok_iff.mp h₂
      obtain ⟨type, typed, h₅⟩ := read_demand_eq_ok_iff.mp h₄
      have split : labelWords type = [w, v] := by
        have spelled := PlanetType.label_of_ofLabel? typed
        have two := labelWords_of_two spelled (by rwa [String.toList_ofList])
          (by rwa [String.toList_ofList])
        rwa [String.toList_ofList, String.toList_ofList] at two
      refine ⟨type, m', ?_, h₅⟩
      rw [split]
      exact h₁.then h₃
    · rw [if_neg half] at h₂
      obtain ⟨type, typed, h₃⟩ := read_demand_eq_ok_iff.mp h₂
      obtain rfl := String.ofList_eq.mp (PlanetType.label_of_ofLabel? typed).symm
      refine ⟨type, m, ?_, h₃⟩
      rw [labelWords_of_one word]
      exact h₁
  · rintro ⟨type, m, taken, h⟩
    have labelled : (labelled type.label next).read m = .ok (a, r) :=
      read_demand_eq_ok_iff.mpr ⟨type, type.ofLabel?_label, h⟩
    rcases labelWords_cases type with ⟨word, split⟩ | ⟨w, v, half, word, word', spelled, split⟩
    · rw [split] at taken
      refine ⟨type.label.toList, m, ⟨word, taken⟩, ?_⟩
      rw [String.ofList_toList, if_neg (mt List.contains_iff_mem.mp type.label_not_firstHalf)]
      exact labelled
    · rw [split] at taken
      obtain ⟨m', h₁, h₂⟩ := takes_cons_iff.mp taken
      refine ⟨w.toList, m', ⟨word, h₁⟩, ?_⟩
      rw [String.ofList_toList, if_pos (List.contains_iff_mem.mpr half)]
      refine read_word_eq_ok_iff.mpr ⟨v.toList, m, ⟨word', h₂⟩, ?_⟩
      rw [String.ofList_toList, ← spelled]
      exact labelled

theorem reads_planet : planet.Reads ["add".toList, "planet".toList] := by
  intro s ph r
  simp only [planet, read_name_eq_ok_iff, read_planetType_eq_ok_iff, read_numeral_eq_ok_iff,
    read_done_eq_ok_iff]
  constructor
  · rintro ⟨parent, s₁, ⟨parentNamed, h₁⟩, n, s₂, ⟨named, h₂⟩, type, s₃, h₃, life, s₄,
      ⟨w, -, answered, h₄⟩, rfl, rfl⟩
    obtain rfl := String.ofList_eq.mp (answerWord_of_ofAnswer? answered)
    refine ⟨_, .addPlanet parentNamed named, ?_⟩
    exact h₁.then (h₂.then (takes_append_iff.mpr ⟨_, h₃, h₄⟩))
  · rintro ⟨ts, said, taken⟩
    generalize all : ["add".toList, "planet".toList] ++ ts = tokens at said
    cases said with
    | @addPlanet parent name type life parentNamed named =>
        simp only [List.cons_append, List.nil_append, List.cons.injEq, true_and] at all
        subst all
        obtain ⟨s₁, h₁, taken⟩ := takes_cons_iff.mp taken
        obtain ⟨s₂, h₂, taken⟩ := takes_cons_iff.mp taken
        obtain ⟨s₃, h₃, h₄⟩ := takes_append_iff.mp taken
        refine ⟨parent, s₁, ⟨parentNamed, h₁⟩, name, s₂, ⟨named, h₂⟩, type, s₃, h₃, life, r,
          ⟨_, isWord_answerWord life, ?_, h₄⟩, rfl, rfl⟩
        rw [String.ofList_toList, ofAnswer?_answerWord]
    | _ => simp at all

theorem reads_moon : moon.Reads ["add".toList, "moon".toList] := by
  intro s ph r
  simp only [moon, read_name_eq_ok_iff, read_done_eq_ok_iff]
  constructor
  · rintro ⟨parent, s₁, ⟨parentNamed, h₁⟩, name, s₂, ⟨named, h₂⟩, rfl, rfl⟩
    exact ⟨_, .addMoon parentNamed named, h₁.then h₂⟩
  · rintro ⟨ts, said, taken⟩
    generalize all : ["add".toList, "moon".toList] ++ ts = tokens at said
    cases said with
    | addMoon parentNamed named =>
        simp only [List.cons_append, List.nil_append, List.cons.injEq, true_and] at all
        subst all
        obtain ⟨s₁, h₁, h₂⟩ := takes_cons_iff.mp taken
        exact ⟨_, s₁, ⟨parentNamed, h₁⟩, _, r, ⟨named, h₂⟩, rfl, rfl⟩
    | _ => simp at all

theorem reads_ofKind (k : Kind) : (ofKind k).Reads ["add".toList, k.word.toList] := by
  cases k with
  | galaxy => exact reads_galaxy
  | star => exact reads_star
  | planet => exact reads_planet
  | moon => exact reads_moon

/-- After `add` stands the word for a kind. -/
theorem says_add_kind {ph : Phrase} {ts : List (List Char)} (h : Says ph ("add".toList :: ts)) :
    ∃ (k : Kind) (us : List (List Char)), ts = k.word.toList :: us := by
  generalize all : "add".toList :: ts = tokens at h
  cases h with
  | addGalaxy => exact ⟨.galaxy, _, (List.cons.inj all).2⟩
  | addStar => exact ⟨.star, _, (List.cons.inj all).2⟩
  | addPlanet => exact ⟨.planet, _, (List.cons.inj all).2⟩
  | addMoon => exact ⟨.moon, _, (List.cons.inj all).2⟩
  | _ => simp at all

theorem reads_add : add.Reads ["add".toList] := by
  intro s ph r
  simp only [add, read_word_eq_ok_iff, read_demand_eq_ok_iff]
  constructor
  · rintro ⟨w, s₁, ⟨-, h₁⟩, k, known, h₂⟩
    obtain rfl := String.ofList_eq.mp (Kind.word_of_ofWord? known).symm
    obtain ⟨ts, said, taken⟩ := (reads_ofKind k s₁ ph r).mp h₂
    exact ⟨k.word.toList :: ts, said, h₁.then taken⟩
  · rintro ⟨ts, said, taken⟩
    obtain ⟨k, ts, rfl⟩ := says_add_kind said
    obtain ⟨s₁, h₁, h₂⟩ := takes_cons_iff.mp taken
    refine ⟨_, s₁, ⟨k.isWord_word, h₁⟩, k, ?_, (reads_ofKind k s₁ ph r).mpr ⟨ts, said, h₂⟩⟩
    rw [String.ofList_toList, k.ofWord?_word]

theorem reads_list : list.Reads ["list".toList] := by
  intro s ph r
  simp only [list, read_word_eq_ok_iff, read_demand_eq_ok_iff, read_done_eq_ok_iff]
  constructor
  · rintro ⟨w, s₁, ⟨-, h₁⟩, k, known, rfl, rfl⟩
    obtain rfl := String.ofList_eq.mp (Kind.plural_of_ofPlural? known).symm
    exact ⟨_, .list, h₁⟩
  · rintro ⟨ts, said, taken⟩
    generalize all : ["list".toList] ++ ts = tokens at said
    cases said with
    | @list kind =>
        simp only [List.cons_append, List.nil_append, List.cons.injEq, true_and] at all
        subst all
        refine ⟨_, r, ⟨kind.isWord_plural, taken⟩, kind, ?_, rfl, rfl⟩
        rw [String.ofList_toList, kind.ofPlural?_plural]
    | _ => simp at all

theorem reads_stats : (done .stats).Reads ["stats".toList] := by
  intro s ph r
  rw [read_done_eq_ok_iff]
  constructor
  · rintro ⟨rfl, rfl⟩
    exact ⟨[], .stats, .nil⟩
  · rintro ⟨ts, said, taken⟩
    generalize all : ["stats".toList] ++ ts = tokens at said
    cases said with
    | stats =>
        simp only [List.cons_append, List.nil_append, List.cons.injEq, true_and] at all
        subst all
        exact ⟨rfl, (takes_nil_iff.mp taken).symm⟩
    | _ => simp at all

theorem reads_print : print.Reads ["print".toList] := by
  intro s ph r
  simp only [print, read_name_eq_ok_iff, read_done_eq_ok_iff]
  constructor
  · rintro ⟨name, m, ⟨named, taken⟩, rfl, rfl⟩
    exact ⟨_, .print named, taken⟩
  · rintro ⟨ts, said, taken⟩
    generalize all : ["print".toList] ++ ts = tokens at said
    cases said with
    | @print name named =>
        simp only [List.cons_append, List.nil_append, List.cons.injEq, true_and] at all
        subst all
        exact ⟨name, r, ⟨named, taken⟩, rfl, rfl⟩
    | _ => simp at all

theorem reads_exit : (done .exit).Reads ["exit".toList] := by
  intro s ph r
  rw [read_done_eq_ok_iff]
  constructor
  · rintro ⟨rfl, rfl⟩
    exact ⟨[], .exit, .nil⟩
  · rintro ⟨ts, said, taken⟩
    generalize all : ["exit".toList] ++ ts = tokens at said
    cases said with
    | exit =>
        simp only [List.cons_append, List.nil_append, List.cons.injEq, true_and] at all
        subst all
        exact ⟨rfl, (takes_nil_iff.mp taken).symm⟩
    | _ => simp at all

/-- How to go on is known after the words that are commands, each with its own form. -/
theorem ofVerb?_reads {w : String} {form : Form Phrase} (h : ofVerb? w = some form) :
    IsWord w.toList ∧ form.Reads [w.toList] := by
  unfold ofVerb? at h
  split at h
  · cases h
    exact ⟨by decide, reads_add⟩
  · cases h
    exact ⟨by decide, reads_list⟩
  · cases h
    exact ⟨by decide, reads_stats⟩
  · cases h
    exact ⟨by decide, reads_print⟩
  · cases h
    exact ⟨by decide, reads_exit⟩
  · cases h

/-- Every phrase is said with a command as its first word. -/
theorem says_verb {ph : Phrase} {ts : List (List Char)} (h : Says ph ts) :
    ∃ (w : String) (form : Form Phrase) (us : List (List Char)),
      ofVerb? w = some form ∧ ts = w.toList :: us := by
  cases h with
  | addGalaxy => exact ⟨"add", _, _, rfl, rfl⟩
  | addStar => exact ⟨"add", _, _, rfl, rfl⟩
  | addPlanet => exact ⟨"add", _, _, rfl, rfl⟩
  | addMoon => exact ⟨"add", _, _, rfl, rfl⟩
  | list => exact ⟨"list", _, _, rfl, rfl⟩
  | stats => exact ⟨"stats", _, _, rfl, rfl⟩
  | print => exact ⟨"print", _, _, rfl, rfl⟩
  | exit => exact ⟨"exit", _, _, rfl, rfl⟩

end Form

end SkyCatalog
