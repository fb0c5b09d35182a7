import SkyCatalog.Proofs.Catalog.Renaming
import SkyCatalog.Proofs.Session.Stability

/-!
# Exchange — independent additions commute

Two lines that add bodies can be exchanged when neither needs the other: the second body is not
below the first one, and they are not below the same body, whose children have an order. Each line
is accepted as before, only the handles of the two bodies are exchanged. Handles are logged but
never shown, so every later line is answered as it would have been.
-/

namespace SkyCatalog

open Equiv (Perm)
open Grammar

variable {π : Perm Nat} {c c' : Catalog} {l : Ledger}

/-! ## §1  Renamed commands -/

/-- The same command, with its bodies taken out at the renamed handles. -/
def Command.rename (π : Perm Nat) : Command → Command
  | add body parent => add body (parent.map (.rename π))
  | print galaxy => print (galaxy.rename π)
  | command => command

def Mention.rename (π : Perm Nat) (m : Mention) : Mention := { m with handle := π m.handle }

/-- The same event, as it is logged with the renamed handles. -/
def Event.rename (π : Perm Nat) : Event → Event
  | added body parent => added (body.rename π) (parent.map (.rename π))
  | event => event

/-- Two effects are alike: there is the same to say, in every word, and the catalogs and what is
logged differ in the handles at most. -/
structure Effect.Alike (π : Perm Nat) (e e' : Effect) : Prop where
  catalog : e.catalog.Renamed π e'.catalog
  keepRunning : e'.keepRunning = e.keepRunning
  payload : e'.payload = e.payload
  events : e'.events = e.events.map (.rename π)

/-- The same for two steps, whose commands differ in the handles at most. -/
structure Step.Alike (π : Perm Nat) (s s' : Step) : Prop where
  command : s'.command = s.command.rename π
  effect : s.effect.Alike π s'.effect
  events : s'.events = s.events.map (.rename π)

namespace Catalog.Renamed

/-- How the log names a parent, with its new handle. -/
theorem parentMention (h : c.Renamed π c') (parent : Option (Held Body)) :
    c'.parentMention (parent.map (.rename π)) = (c.parentMention parent).map (.rename π) := by
  cases parent with
  | none => rfl
  | some x =>
      simp only [Option.map_some, Catalog.parentMention, Option.bind_some, h.handleOf?]
      cases c.handleOf? x <;> rfl

/-- **Executed at a renamed catalog, a renamed command has the same effect.** -/
theorem execute (h : c.Renamed π c') {cmd : Command} {e : Effect}
    (executed : cmd.execute c = .ok e) :
    ∃ e', (cmd.rename π).execute c' = .ok e' ∧ e.Alike π e' := by
  cases cmd with
  | add b parent =>
      simp only [Command.rename, Command.execute_add, Command.executeAdd] at executed ⊢
      rcases h.put b parent with ⟨fault, refused, refused'⟩ | ⟨d, d', added, added', renamed⟩
      · rw [refused] at executed
        rw [refused']
        cases fault with
        | duplicate kind name =>
            obtain rfl := Except.ok.inj executed
            exact ⟨_, rfl, h, rfl, rfl, rfl⟩
        | unknownParent => cases executed
      · rw [added] at executed
        rw [added']
        obtain rfl := Except.ok.inj executed
        refine ⟨_, rfl, renamed, rfl, rfl, ?_⟩
        rw [h.parentMention]
        show _ = [Event.added ⟨_, _, π c.size⟩ _]
        rw [h.unused _ (Nat.le_refl _)]
        rfl
  | list kind label =>
      obtain rfl := Except.ok.inj executed
      exact ⟨_, rfl, h, rfl, congrArg (some ∘ Payload.listing label) (h.names kind), rfl⟩
  | stats =>
      obtain rfl := Except.ok.inj executed
      exact ⟨_, rfl, h, rfl, congrArg (some ∘ Payload.stats) h.counts, rfl⟩
  | print galaxy =>
      obtain rfl := Except.ok.inj executed
      exact ⟨_, rfl, h, rfl, congrArg (some ∘ Payload.report) (h.report galaxy), rfl⟩
  | nothing | complain | exit =>
      obtain rfl := Except.ok.inj executed
      exact ⟨_, rfl, h, rfl, rfl, rfl⟩

/-! ## §2  Lines read at both catalogs -/

theorem refer (h : c.Renamed π c') (k : Kind) (n : String) :
    Phrase.refer c' k n = (Phrase.refer c k n).map (.rename π) := by
  unfold Phrase.refer
  rw [h.fetch?]
  cases c.fetch? k n <;> rfl

theorem resolve (h : c.Renamed π c') (ph : Phrase) :
    ph.resolve c' = (ph.resolve c).map (.rename π) := by
  cases ph with
  | addStar parent name mass diameter temperature luminosity =>
      simp only [Phrase.resolve, h.refer]
      generalize Spectral.classify mass diameter temperature luminosity = possible
      cases Phrase.refer c .galaxy parent <;> cases possible <;> rfl
  | addPlanet parent =>
      simp only [Phrase.resolve, h.refer]
      cases Phrase.refer c .star parent <;> rfl
  | addMoon parent =>
      simp only [Phrase.resolve, h.refer]
      cases Phrase.refer c .planet parent <;> rfl
  | print name =>
      simp only [Phrase.resolve, h.refer]
      cases Phrase.refer c .galaxy name with
      | error fault => rfl
      | ok x =>
          obtain ⟨body, origin⟩ := x
          cases body <;> rfl
  | _ => rfl

end Catalog.Renamed

theorem Command.tag_rename (π : Perm Nat) (cmd : Command) :
    (cmd.rename π).tag = cmd.tag := by
  cases cmd <;> rfl

/-- The same reading, of a command with the renamed handles. -/
def Reading.rename (π : Perm Nat) : Reading → Reading
  | accepted command => accepted (command.rename π)
  | reading => reading

theorem Reading.command_rename (π : Perm Nat) (r : Reading) :
    (r.rename π).command = r.command.rename π := by
  cases r <;> rfl

theorem Reading.events_rename (π : Perm Nat) (line : Option String) (r : Reading) :
    (r.rename π).events line = (r.events line).map (.rename π) := by
  cases r with
  | accepted command =>
      show [Event.parsed (command.rename π).tag] = [.parsed command.tag]
      rw [Command.tag_rename]
  | _ => rfl

namespace Catalog.Renamed

/-- **A line is read alike at both catalogs.** -/
theorem reading (h : c.Renamed π c') (line : Option String) :
    Reading.of c' line = (Reading.of c line).rename π := by
  cases line with
  | none => rfl
  | some text =>
      simp only [Reading.of, Reading.ofLine]
      cases Token.word? text.toList with
      | none => rfl
      | some first =>
          obtain ⟨w, rest⟩ := first
          dsimp only
          cases Form.ofVerb? (String.ofList w) with
          | none => rfl
          | some form =>
              simp only [Reading.ofForm]
              cases form.read rest with
              | error fault => rfl
              | ok read =>
                  obtain ⟨ph, r⟩ := read
                  simp only [h.resolve]
                  cases ph.resolve c with
                  | error fault => rfl
                  | ok command =>
                      simp only [Except.map]
                      cases Reading.leftover r <;> rfl

/-! ## §3  Sessions -/

open Session

theorem step (h : c.Renamed π c') {line : Option String} {s : Step}
    (stepped : Session.step c line = .ok s) :
    ∃ s', Session.step c' line = .ok s' ∧ s.Alike π s' := by
  simp only [Session.step, h.reading, Reading.command_rename, Reading.events_rename] at stepped ⊢
  cases executed : (Reading.of c line).command.execute c with
  | error fault =>
      rw [executed] at stepped
      cases stepped
  | ok e =>
      rw [executed] at stepped
      obtain rfl := Except.ok.inj stepped
      obtain ⟨e', executed', alike⟩ := h.execute executed
      rw [executed']
      refine ⟨_, rfl, rfl, alike, ?_⟩
      rw [List.map_append, ← alike.events]

/-- **From two renamed catalogs, sessions go on alike**, line by line. -/
theorem steps (h : c.Renamed π c') {lines : List (Option String)} {made : List Step}
    (stepped : Session.steps c lines = .ok made) :
    ∃ made', Session.steps c' lines = .ok made' ∧ List.Forall₂ (Step.Alike π) made made' := by
  induction lines generalizing c c' made with
  | nil =>
      obtain rfl := Except.ok.inj stepped
      exact ⟨[], rfl, .nil⟩
  | cons line lines ih =>
      obtain ⟨s, later, first, rest, rfl⟩ := steps_cons_iff.mp stepped
      obtain ⟨s', first', alike⟩ := h.step first
      obtain ⟨later', rest', alikes⟩ := ih alike.effect.catalog rest
      refine ⟨s' :: later', ?_, .cons alike alikes⟩
      exact steps_cons_iff.mpr ⟨s', later', first', rest', rfl⟩

end Catalog.Renamed

/-! ## §4  A line said earlier -/

/-- A phrase asks for the same addition of any catalog where its parent is found. -/
theorem Grammar.Asks.elsewhere {ph : Phrase} {b : Body} {parent : Option (Held Body)}
    (asks : Asks c ph (.add b parent))
    (found : ∀ k n x, parent = some x → c.fetch? k n = some x → c'.fetch? k n = some x) :
    Asks c' ph (.add b parent) := by
  cases asks with
  | addGalaxy => exact .addGalaxy
  | addStar stored possible => exact .addStar (found _ _ _ rfl stored) possible
  | addPlanet stored => exact .addPlanet (found _ _ _ rfl stored)
  | addMoon stored => exact .addMoon (found _ _ _ rfl stored)

/-- A line that adds a body, and not below the one that was added just before it, could have been
said before that one. -/
theorem Command.parse_before (m : c.Mirrors l) {b d : Body} {p : Option Nat}
    (gains : c.Gains b p c') {line : Option String} {parent : Option (Held Body)}
    (parsed : Command.parse c' line = .add d parent) (other : parent ≠ some ⟨b, some c.size⟩) :
    Command.parse c line = .add d parent := by
  obtain ⟨text, ph, ts, rfl, said, spaced, asks⟩ := Command.said_of_parse parsed
  have asks' : Asks c ph (.add d parent) := by
    apply asks.elsewhere
    rintro k n x rfl found
    rcases gains.fetch?_cases m found with rfl | before
    · exact absurd rfl other
    · exact before
  exact congrArg Reading.command (Reading.ofLine_eq_accepted_iff.mpr ⟨ph, ts, said, spaced, asks'⟩)

namespace Session

variable {a b : Option String} {x y : Body} {px py : Option (Held Body)} {p : Option Nat}
  {s t : Step}

/-- **The second line, said first**, puts its body under the same handle. -/
theorem Inserts.earlier (m : c.Mirrors l) (first : Inserts c a x px p s)
    (second : Accepts s.effect.catalog b y py t) (notBelow : py ≠ some ⟨x, some c.size⟩) :
    ∃ q t', Inserts c b y py q t' ∧ t.effect.catalog = s.effect.catalog.insert y q ∧
      ¬(x.kind = y.kind ∧ x.name = y.name) := by
  have gains := first.gains m
  have m' : s.effect.catalog.Mirrors (l.append x p) := by
    rw [first.catalog]
    exact m.insert first.fresh (m.parentHandle_lt first.under)
  obtain ⟨q, inserts⟩ := second.inserts m'
  have free := inserts.fresh
  rw [gains.index] at free
  have distinct : ¬(y.kind = x.kind ∧ y.name = x.name) := by
    intro same
    rw [if_pos same] at free
    cases free
  rw [if_neg distinct] at free
  -- its parent was there before the first line, at the handle that it has now
  have parsed := Command.parse_before m gains second.parsed notBelow
  obtain ⟨text, ph, ts, -, -, -, asks⟩ := Command.said_of_parse parsed
  obtain ⟨q', under, -⟩ := m.parentHandle_of_asks asks
  obtain rfl : q' = q :=
    Except.ok.inj ((gains.extends.parentHandle under).symm.trans inserts.under)
  have held : py = q'.bind c.held? := by
    rw [inserts.held]
    cases q' with
    | none => rfl
    | some i => exact gains.held i (m.parentHandle_lt under i rfl)
  obtain ⟨t', accepts, catalog, -⟩ := accepts_of_fresh parsed free under
  refine ⟨q', t', ⟨accepts, free, held, under, catalog⟩, inserts.catalog, ?_⟩
  rintro ⟨kind, name⟩
  exact distinct ⟨kind.symm, name.symm⟩

/-- Bodies that are put in under one handle are below one body. -/
theorem Inserts.apart (m : c.Mirrors l) {q : Option Nat} (first : Inserts c a x px p s)
    (second : Inserts c b y py q t) (apart : ∀ z, px = some z → py ≠ some z) :
    ∀ i, p = some i → q ≠ some i := by
  rintro i rfl rfl
  have old := m.parentHandle_lt first.under i rfl
  have taken : c.held? i = some ⟨c.bodies[i], some i⟩ := by
    rw [Catalog.held?, List.getElem?_eq_getElem old, Option.map_some]
  exact apart _ (first.held.trans taken) (second.held.trans taken)

/-- **Two lines are exchanged**: both are accepted, and the catalogs differ in two handles. -/
theorem Accepts.exchange (m : c.Mirrors l) (first : Accepts c a x px s)
    (second : Accepts s.effect.catalog b y py t) (notBelow : py ≠ some ⟨x, some c.size⟩)
    (apart : ∀ z, px = some z → py ≠ some z) :
    ∃ t' s', Accepts c b y py t' ∧ Accepts t'.effect.catalog a x px s' ∧
      t.effect.catalog.Renamed (Catalog.exchange c.size) s'.effect.catalog := by
  obtain ⟨p, insertsX⟩ := first.inserts m
  obtain ⟨q, t', insertsY, catalog, distinct⟩ := insertsX.earlier m second notBelow
  have gains := insertsY.gains m
  have free : t'.effect.catalog.lookup? x.kind x.name = none := by
    rw [gains.index, if_neg distinct]
    exact insertsX.fresh
  obtain ⟨s', accepts, catalog'⟩ := insertsX.later gains.extends free
  refine ⟨t', s', insertsY.toAccepts, accepts, ?_⟩
  rw [catalog, catalog', insertsX.catalog, insertsY.catalog]
  exact m.insert_comm distinct (m.parentHandle_lt insertsX.under)
    (m.parentHandle_lt insertsY.under) (insertsX.apart m insertsY apart)

end Session

/-! ## §5  The theorem -/

/-- **Independent additions commute.** Let two lines of a session, one right after the other, each
add a body, the second one not below the first, nor both below the same body. With the two lines
exchanged each is accepted with the body and the parent that it had before, and from there on all
lines, whatever they are, are answered alike, step by step: the commands, the catalogs and the log
differ by the exchange of the two handles alone, and what is said does not differ at all. -/
theorem independent_additions_commute {before : List (Option String)} {c : Catalog}
    {a b : Option String} {x y : Body} {px py : Option (Held Body)} {s t : Step}
    (reached : Session.run .empty before = .ok c) (first : Session.Accepts c a x px s)
    (second : Session.Accepts s.effect.catalog b y py t)
    (notBelow : py ≠ some ⟨x, some c.size⟩) (apart : ∀ z, px = some z → py ≠ some z)
    (after : List (Option String)) :
    ∃ t' s', Session.Accepts c b y py t' ∧ Session.Accepts t'.effect.catalog a x px s' ∧
      t.effect.catalog.Renamed (Catalog.exchange c.size) s'.effect.catalog ∧
      ∃ later later', Session.steps t.effect.catalog after = .ok later ∧
        Session.steps s'.effect.catalog after = .ok later' ∧
        List.Forall₂ (Step.Alike (Catalog.exchange c.size)) later later' := by
  have reachable : c.Reachable := (Session.leadsTo_of_run reached).reachable .empty
  obtain ⟨l, m⟩ := reachable.mirrors
  obtain ⟨t', s', acceptsY, acceptsX, renamed⟩ := first.exchange m second notBelow apart
  have reachable' : t.effect.catalog.Reachable :=
    (reachable.line (Session.next_of_step first.stepped)).line
      (Session.next_of_step second.stepped)
  obtain ⟨later, made⟩ := Session.exists_steps reachable' after
  obtain ⟨later', made', alike⟩ := renamed.steps made
  exact ⟨t', s', acceptsY, acceptsX, renamed, later, later', made, made', alike⟩

/-- A star below one galaxy and a planet below the star of another one, whose age is no number, can
be added in either order. -/
theorem independent_additions_commute_below_two_galaxies :
    let galaxy : Body := .galaxy ⟨"A", .spiral, 1.0, .million⟩
    let star : Body := .star ⟨"S", 1.0, 2.0, 5500, 1.0, .g⟩
    let a := some "add star [A] [T] 1 2 5500 1"
    let b := some "add planet [S] [A] ice giant no"
    let x : Body := .star ⟨"T", 1.0, 2.0, 5500, 1.0, .g⟩
    let y : Body := .planet ⟨"A", .iceGiant, false⟩
    ∃ c s t t' s', Session.run .empty [some "add galaxy [A] spiral 1M",
        some "add galaxy [B] spiral nanB", some "add star [B] [S] 1 2 5500 1"] = .ok c ∧
      Session.Accepts c a x (some ⟨galaxy, some 0⟩) s ∧
      Session.Accepts s.effect.catalog b y (some ⟨star, some 2⟩) t ∧
      Session.Accepts c b y (some ⟨star, some 2⟩) t' ∧
      Session.Accepts t'.effect.catalog a x (some ⟨galaxy, some 0⟩) s' ∧
      ∃ later later',
        Session.steps t.effect.catalog [b, some "print [B]", some "list stars"] = .ok later ∧
        Session.steps s'.effect.catalog [b, some "print [B]", some "list stars"] = .ok later' ∧
        List.Forall₂ (Step.Alike (Catalog.exchange 3)) later later' := by
  intro galaxy star a b x y
  let aged : Body := .galaxy ⟨"B", .spiral, .nan, .billion⟩
  let c := ((Catalog.empty.insert galaxy none).insert aged none).insert star (some 1)
  have reached : Session.run .empty [some "add galaxy [A] spiral 1M",
      some "add galaxy [B] spiral nanB", some "add star [B] [S] 1 2 5500 1"] = .ok c := by
    decide +kernel
  have parsedX : Command.parse c a = .add x (some ⟨galaxy, some 0⟩) := by decide +kernel
  have underX : c.parentHandle (some ⟨galaxy, some 0⟩) = .ok (some 0) := by decide +kernel
  obtain ⟨s, first, made, -⟩ := Session.accepts_of_fresh parsedX (by decide +kernel) underX
  have parsedY : Command.parse (c.insert x (some 0)) b = .add y (some ⟨star, some 2⟩) := by
    decide +kernel
  have underY : (c.insert x (some 0)).parentHandle (some ⟨star, some 2⟩) = .ok (some 2) := by
    decide +kernel
  obtain ⟨t, second, -⟩ := Session.accepts_of_fresh parsedY (by decide +kernel) underY
  rw [← made] at second
  have apart : ∀ z : Held Body, some ⟨galaxy, some 0⟩ = some z → some ⟨star, some 2⟩ ≠ some z := by
    intro z under under'
    exact absurd (under.trans under'.symm) (by decide)
  obtain ⟨t', s', second', first', -, alike⟩ := independent_additions_commute reached first second
    (by decide) apart [b, some "print [B]", some "list stars"]
  exact ⟨c, s, t, t', s', reached, first, second, second', first', alike⟩

end SkyCatalog
