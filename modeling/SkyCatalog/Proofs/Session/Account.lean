import SkyCatalog.Catalog.Journal
import SkyCatalog.Proofs.Catalog.Forest
import SkyCatalog.Proofs.Session.Erasure
import SkyCatalog.Proofs.Session.Growth

/-!
# Accounts — the log tells how the catalog was made

What is logged of an addition is made from what was asked for, and what a catalog tells of its
making is read off its bodies and links. The two agree: a parent that was looked up is the body
stored at the handle that is logged for it, and nothing that is done later touches either. So the
finished catalog says word for word what has been logged of additions, and of the warnings on the
same channel each stands beside one that was shown.
-/

namespace SkyCatalog

variable {c c' : Catalog} {l : Ledger} {b : Body} {under : Option Nat} {i p : Nat}

/-! ## §1  Records -/

namespace Event

/-- Whether a record tells of an addition: it is on the channel of the catalog and begins so. -/
def isAddition (e : Event) : Bool :=
  e.channel == .catalog && "Added ".toList.isPrefixOf e.message.toList

/-- Whether a record is a warning on the channel of the catalog. -/
def isWarning (e : Event) : Bool := e.channel == .catalog && e.level == .warning

/-- A warning in the log and one that was shown say that the same name is taken, for the same
kind. -/
def Echoes (e : Event) (notice : String) : Prop :=
  ∃ (kind : Kind) (name : String), e.message = s!"Rejected duplicate {kind.word}: {name}" ∧
    notice = s!"{kind.displayName} {name} already exists."

theorem isAddition_of_message {e : Event} (channel : e.channel = .catalog) (text : String)
    (message : e.message = "Added " ++ text) : e.isAddition = true := by
  rw [isAddition, channel, message, String.toList_append]
  exact List.isPrefixOf_iff_prefix.mpr (List.prefix_append _ _)

theorem isAddition_added (body : Mention) (parent : Option Mention) :
    (added body parent).isAddition = true := by
  cases parent with
  | none => exact isAddition_of_message rfl body.text rfl
  | some parent =>
      refine isAddition_of_message rfl (body.text ++ (" under " ++ parent.text)) ?_
      show "Added " ++ body.text ++ " under " ++ parent.text = _
      rw [String.append_assoc, String.append_assoc]

theorem isAddition_duplicate (kind : Kind) (name : String) :
    (duplicate kind name).isAddition = false := by
  have message : (duplicate kind name).message =
      "Rejected duplicate " ++ (kind.word ++ (": " ++ name)) := by
    show "Rejected duplicate " ++ kind.word ++ ": " ++ name = _
    rw [String.append_assoc, String.append_assoc]
  rw [isAddition, message, String.toList_append]
  rfl

theorem isAddition_listed (kind : Kind) : (listed kind).isAddition = false := by
  cases kind <;> decide +kernel

/-- Reading a line logs nothing on the channel of the catalog. -/
theorem channel_of_reading {line : Option String} {reading : Reading} {e : Event}
    (logged : e ∈ reading.events line) : e.channel = .parser := by
  cases reading with
  | refused fault =>
      obtain rfl := List.mem_singleton.mp logged
      rfl
  | accepted command =>
      obtain rfl := List.mem_singleton.mp logged
      rfl
  | _ => cases logged

/-- The text about a body that stands under no other one. -/
theorem message_root (b : Body) (i : Nat) : (added (Catalog.mention b i) none).message =
    s!"Added {b.kind.word} {b.name} (#{Numeral.written i})" := by
  show "Added " ++ (b.kind.word ++ " " ++ b.name ++ " (#" ++ Numeral.written i ++ ")") = _
  simp only [toString, String.append_assoc]

/-- The text about a body and the one that it stands under. -/
theorem message_child (b d : Body) (i p : Nat) :
    (added (Catalog.mention b i) (some (Catalog.mention d p))).message =
      s!"Added {b.kind.word} {b.name} (#{Numeral.written i}) under " ++
        s!"{d.kind.word} {d.name} (#{Numeral.written p})" := by
  have joined : ") under " = ")" ++ " under " := by decide
  show "Added " ++ (b.kind.word ++ " " ++ b.name ++ " (#" ++ Numeral.written i ++ ")") ++
    " under " ++ (d.kind.word ++ " " ++ d.name ++ " (#" ++ Numeral.written p ++ ")") = _
  rw [joined]
  simp only [toString, String.append_assoc]

end Event

/-! ## §2  The journal of a catalog -/

namespace Catalog

/-- A handle is found under the one that it is linked to. -/
theorem Mirrors.parentOf?_eq_some_iff (h : c.Mirrors l) :
    c.parentOf? i = some p ↔ c.Links p i := by
  have found : ∀ q, c.parentOf? i = some q → c.Links q i := by
    intro q parent
    obtain ⟨⟨q, hs⟩, search, rfl⟩ := Option.map_eq_some_iff.mp parent
    exact ⟨hs, List.mem_of_find?_eq_some search, by simpa using List.find?_some search⟩
  refine ⟨found p, ?_⟩
  intro link
  cases parent : c.parentOf? i with
  | some q => rw [h.forest.parent_unique (found q parent) link]
  | none =>
      obtain ⟨hs, linked, hi⟩ := link
      have missed := List.find?_eq_none.mp (Option.map_eq_none_iff.mp parent) (p, hs) linked
      simp [hi] at missed

theorem Mirrors.parentOf?_eq (h : c.Mirrors l) (i : Nat) :
    c.parentOf? i = l.entries[i]?.bind (·.parent) := by
  ext p
  rw [h.parentOf?_eq_some_iff, h.links_iff, Option.bind_eq_some_iff]

/-- What is told of a handle is what its entry says. -/
theorem Mirrors.addedAt?_eq (h : c.Mirrors l) (i : Nat) :
    c.addedAt? i = l.entries[i]?.map fun e =>
      .added (mention e.body i) (e.parent.bind c.mentionAt?) := by
  rw [addedAt?, mentionAt?, h.getElem?_bodies, h.parentOf?_eq]
  cases l.entries[i]? <;> rfl

theorem bind_mentionAt?_insert (stored : ∀ p, under = some p → p < c.size) (b : Body)
    (other : Option Nat) :
    under.bind (c.insert b other).mentionAt? = under.bind c.mentionAt? := by
  cases under with
  | none => rfl
  | some p =>
      show (c.insert b other).mentionAt? p = c.mentionAt? p
      rw [mentionAt?, mentionAt?, getElem?_bodies_insert (stored p rfl)]

/-- **One body more is one record more**, at the end. -/
theorem Mirrors.journal_insert (h : c.Mirrors l) (fresh : c.lookup? b.kind b.name = none)
    (stored : ∀ p, under = some p → p < c.size) :
    (c.insert b under).journal =
      c.journal ++ [.added (mention b c.size) (under.bind c.mentionAt?)] := by
  have h' := h.insert fresh stored
  have old : ∀ i ∈ List.range c.size, (c.insert b under).addedAt? i = c.addedAt? i := by
    intro i hi
    have within : i < l.size := h.size_eq ▸ List.mem_range.mp hi
    rw [h'.addedAt?_eq, h.addedAt?_eq, Ledger.append, List.getElem?_append_left within,
      List.getElem?_eq_getElem within, Option.map_some, Option.map_some]
    congr 2
    -- a parent stands before its child, so its record is an old one too
    refine bind_mentionAt?_insert ?_ b under
    intro p hp
    exact Nat.lt_trans (h.orderly.earlier (List.getElem?_eq_getElem within) hp)
      (List.mem_range.mp hi)
  have new : (c.insert b under).addedAt? c.size =
      some (.added (mention b c.size) (under.bind c.mentionAt?)) := by
    rw [h'.addedAt?_eq, h.size_eq, Ledger.append, Ledger.size, List.getElem?_concat_length,
      Option.map_some, bind_mentionAt?_insert stored]
  rw [journal, size_insert, List.range_succ, List.filterMap_append, List.filterMap_congr old]
  simp [new, journal]

/-- The journal has a record for every handle, in order. -/
theorem Mirrors.map_some_journal (h : c.Mirrors l) :
    c.journal.map some = (List.range c.size).map c.addedAt? := by
  rw [journal, List.map_filterMap_some_eq_filter_map_isSome, List.filter_eq_self]
  intro told listed
  obtain ⟨i, hi, rfl⟩ := List.mem_map.mp listed
  have within : i < l.size := h.size_eq ▸ List.mem_range.mp hi
  rw [h.addedAt?_eq, Option.isSome_map, List.getElem?_eq_getElem within, Option.isSome_some]

theorem Mirrors.length_journal (h : c.Mirrors l) : c.journal.length = c.size := by
  simpa using congrArg List.length h.map_some_journal

theorem Mirrors.getElem?_journal (h : c.Mirrors l) (hi : i < c.size) :
    c.journal[i]? = c.addedAt? i := by
  have told := congrArg (·[i]?) h.map_some_journal
  simp only [List.getElem?_map, List.getElem?_range hi, Option.map_some] at told
  cases at_i : c.journal[i]? with
  | none => simp [at_i] at told
  | some e => simpa [at_i] using told

/-- A body whose handle is in no child list is told of alone. -/
theorem Mirrors.told_of_root (h : c.Mirrors l) (stored : c.bodies[i]? = some b)
    (root : ∀ p, ¬c.Links p i) : (c.journal.map Event.message)[i]? =
      some s!"Added {b.kind.word} {b.name} (#{Numeral.written i})" := by
  have alone : c.parentOf? i = none := by
    rw [Option.eq_none_iff_forall_ne_some]
    intro p parent
    exact root p (h.parentOf?_eq_some_iff.mp parent)
  rw [List.getElem?_map, h.getElem?_journal (lt_length_of_getElem? stored), addedAt?, mentionAt?,
    stored, alone]
  exact congrArg some (Event.message_root b i)

/-- A body whose handle is in a child list is told of together with the parent. -/
theorem Mirrors.told_of_child (h : c.Mirrors l) (stored : c.bodies[i]? = some b)
    (link : c.Links p i) : ∃ d, c.bodies[p]? = some d ∧ (c.journal.map Event.message)[i]? =
      some (s!"Added {b.kind.word} {b.name} (#{Numeral.written i}) under " ++
        s!"{d.kind.word} {d.name} (#{Numeral.written p})") := by
  obtain ⟨hs, linked, hi⟩ := link
  have above : p < c.bodies.length := h.forest.key_lt linked
  refine ⟨_, List.getElem?_eq_getElem above, ?_⟩
  have parent := h.parentOf?_eq_some_iff.mpr ⟨hs, linked, hi⟩
  rw [List.getElem?_map, h.getElem?_journal (lt_length_of_getElem? stored), addedAt?, mentionAt?,
    stored, parent, Option.bind_some, mentionAt?, List.getElem?_eq_getElem above]
  exact congrArg some (Event.message_child b _ i p)

/-- A parent as it was taken out is logged as the body at its handle. -/
theorem Mirrors.parentMention_held (h : c.Mirrors l) (under : Option Nat) :
    c.parentMention (under.bind c.held?) = under.bind c.mentionAt? := by
  cases under with
  | none => rfl
  | some p =>
      show c.parentMention (c.held? p) = c.mentionAt? p
      rw [held?, mentionAt?]
      cases stored : c.bodies[p]? with
      | none => rfl
      | some d =>
          have known : c.handleOf? ⟨d, some p⟩ = some p := h.handleOf?_of_held rfl stored
          rw [parentMention, Option.map_some, Option.bind_some, known]
          rfl

end Catalog

/-! ## §3  What a step logs -/

/-- The warning that an effect has to show, if any. -/
def Effect.warning? (e : Effect) : Option String :=
  match e.payload with
  | some (.notice message .warning) => some message
  | _ => none

/-- An effect that leaves the catalog as it was logs no addition, and a warning when it has one to
show. -/
theorem Command.execute_tells {cmd : Command} {effect : Effect}
    (executed : cmd.execute c = .ok effect) (same : effect.catalog = c) :
    effect.events.filter Event.isAddition = [] ∧
    List.Forall₂ Event.Echoes (effect.events.filter Event.isWarning) effect.warning?.toList := by
  cases cmd with
  | add b parent =>
      rcases execute_add_cases executed with ⟨p, -, -, rfl⟩ | rfl
      · have grown := congrArg Catalog.size same
        simp [Catalog.size_insert] at grown
      · exact ⟨by simp [Event.isAddition_duplicate], .cons ⟨b.kind, b.name, rfl, rfl⟩ .nil⟩
  | list kind label =>
      obtain rfl := Except.ok.inj executed
      exact ⟨by simp [Event.isAddition_listed], .nil⟩
  | _ =>
      obtain rfl := Except.ok.inj executed
      exact ⟨rfl, .nil⟩

namespace Session

/-- What a step logs on the channel of the catalog: one addition when it is not idle, by which the
journal of the catalog is continued, and a warning for the one that it has to show. -/
structure Tells (c : Catalog) (line : Option String) (s : Step) : Prop where
  journal : s.effect.catalog.journal = c.journal ++ s.events.filter Event.isAddition
  warnings : List.Forall₂ Event.Echoes (s.events.filter Event.isWarning) s.effect.warning?.toList
  idle : Idle line s → s.events.filter Event.isAddition = []
  adds : ¬Idle line s → ∃ e, s.events.filter Event.isAddition = [e]

variable {line : Option String} {s : Step}

/-- What is not on the parser's channel comes from the command. -/
theorem filter_events (stepped : step c line = .ok s) {shown : Event → Bool}
    (deaf : ∀ e : Event, e.channel = .parser → shown e = false) :
    s.events.filter shown = s.effect.events.filter shown := by
  rw [events_of_step stepped, List.filter_append, List.filter_eq_nil_iff.mpr, List.nil_append]
  intro e logged
  rw [deaf e (Event.channel_of_reading logged)]
  exact Bool.false_ne_true

/-- **Every step tells what it did.** -/
theorem tells_of_step (m : c.Mirrors l) (stepped : step c line = .ok s) : Tells c line s := by
  obtain ⟨-, executed⟩ := executed_of_step stepped
  have additions : s.events.filter Event.isAddition = s.effect.events.filter Event.isAddition :=
    filter_events stepped fun e parser => by rw [Event.isAddition, parser]; rfl
  have warnings : s.events.filter Event.isWarning = s.effect.events.filter Event.isWarning :=
    filter_events stepped fun e parser => by rw [Event.isWarning, parser]; rfl
  obtain ⟨s', stepped', ends⟩ := step_cases m line
  obtain rfl := Except.ok.inj (stepped.symm.trans stepped')
  obtain ⟨-, idle, same⟩ | ⟨adds, busy, b, parent, -, command, -, -⟩ := ends
  · obtain ⟨nothing, echoed⟩ := Command.execute_tells executed same
    rw [← additions] at nothing
    rw [← warnings] at echoed
    refine ⟨?_, echoed, fun _ => nothing, fun busy => absurd idle busy⟩
    rw [same, nothing, List.append_nil]
  · obtain ⟨under, inserts⟩ := Accepts.inserts m ⟨stepped, command, adds⟩
    rw [inserts.parsed, Command.execute_add_of_fresh inserts.fresh inserts.under] at executed
    have logged : s.effect.events =
        [.added (Catalog.mention b c.size) (under.bind c.mentionAt?)] := by
      rw [← m.parentMention_held, ← inserts.held, ← Except.ok.inj executed]
    have silent : s.effect.warning? = none := by rw [← Except.ok.inj executed]; rfl
    have added : s.events.filter Event.isAddition = s.effect.events := by
      rw [additions, logged]
      exact List.filter_cons_of_pos (Event.isAddition_added _ _)
    refine ⟨?_, ?_, fun idle => absurd idle busy, fun _ => ⟨_, added.trans logged⟩⟩
    · rw [added, logged, inserts.catalog,
        m.journal_insert inserts.fresh (m.parentHandle_lt inserts.under)]
    · rw [warnings, logged, silent]
      exact .nil

/-- **What a session logs on the channel of the catalog.** Each step tells what it did; the journal
of the last catalog is that of the first one with the additions in the log, and the warnings in the
log are those that were shown. -/
theorem tells_of_steps (h : c.Reachable) {lines : List (Option String)} {made : List Step}
    (stepped : steps c lines = .ok made) : ∃ c', run c lines = .ok c' ∧
      c'.journal = c.journal ++ (made.flatMap (·.events)).filter Event.isAddition ∧
      List.Forall₂ Event.Echoes ((made.flatMap (·.events)).filter Event.isWarning)
        (made.filterMap (·.effect.warning?)) ∧
      List.Forall₂ (fun line s => ∃ d, Tells d line s) lines made := by
  induction lines generalizing c made with
  | nil =>
      obtain rfl := Except.ok.inj stepped
      exact ⟨c, rfl, (List.append_nil _).symm, .nil, .nil⟩
  | cons line lines ih =>
      obtain ⟨l, m⟩ := h.mirrors
      obtain ⟨s, later, first, rest, rfl⟩ := steps_cons_iff.mp stepped
      obtain ⟨c', ran, journal, warnings, all⟩ := ih (h.line (next_of_step first)) rest
      have tells := tells_of_step m first
      refine ⟨c', (run_cons first lines).trans ran, ?_, ?_, .cons ⟨c, tells⟩ all⟩
      · rw [journal, tells.journal, List.flatMap_cons, List.filter_append, List.append_assoc]
      · rw [List.filterMap_eq_flatMap_toList, List.flatMap_cons, List.flatMap_cons,
          List.filter_append, ← List.filterMap_eq_flatMap_toList]
        exact List.rel_append tells.warnings warnings

end Session

/-! ## §4  The theorem -/

/-- **The log is a journal of the catalog.** Let a session begin with the empty catalog. It can be
made, and what it logs as added is, in order, what its last catalog tells: handle by handle the
kind, the name and the handle of the body and, when the handle is in a child list, the same of the
parent. The warnings logged on this channel are, in order, those that were shown, for the same kind
and name. A line that was refused, left blank, asked something or asked for the end logs no
addition; any other line logs one. -/
theorem log_accounts_for_catalog (lines : List (Option String)) :
    ∃ c made, Session.run .empty lines = .ok c ∧ Session.steps .empty lines = .ok made ∧
      let log := made.flatMap (·.events)
      let told := (log.filter Event.isAddition).map Event.message
      log.filter Event.isAddition = c.journal ∧
      told.length = c.size ∧
      (∀ i b, c.bodies[i]? = some b →
        ((∀ p, ¬c.Links p i) →
          told[i]? = some s!"Added {b.kind.word} {b.name} (#{Numeral.written i})") ∧
        ∀ p, c.Links p i → ∃ d, c.bodies[p]? = some d ∧
          told[i]? = some (s!"Added {b.kind.word} {b.name} (#{Numeral.written i}) under " ++
            s!"{d.kind.word} {d.name} (#{Numeral.written p})")) ∧
      List.Forall₂ Event.Echoes (log.filter Event.isWarning)
        (made.filterMap (·.effect.warning?)) ∧
      List.Forall₂ (fun line s =>
        (Session.Idle line s → s.events.filter Event.isAddition = []) ∧
        (¬Session.Idle line s → ∃ e, s.events.filter Event.isAddition = [e])) lines made := by
  obtain ⟨made, stepped⟩ := Session.exists_steps .empty lines
  obtain ⟨c, ran, journal, warnings, each⟩ := Session.tells_of_steps .empty stepped
  obtain ⟨c', l, h⟩ := Session.grown lines
  obtain rfl := Except.ok.inj (ran.symm.trans h.reached)
  have additions : (made.flatMap (·.events)).filter Event.isAddition = c.journal := journal.symm
  refine ⟨c, made, ran, stepped, additions, ?_, ?_, warnings, ?_⟩
  · rw [additions, List.length_map, h.mirrors.length_journal]
  · intro i b stored
    rw [additions]
    exact ⟨h.mirrors.told_of_root stored, fun p => h.mirrors.told_of_child stored⟩
  · refine each.imp ?_
    rintro line s ⟨d, tells⟩
    exact ⟨tells.idle, tells.adds⟩

/-- A galaxy whose age is no number has a star of its own name; a duplicate, a blank line, a parent
that is not there, a listing and the end of the input come before the last addition. -/
theorem log_accounts_for_catalog_of_namesakes :
    let lines := [some "add galaxy [A] spiral nanB", some "add star [A] [A] 1 2 5500 1",
      some "add galaxy [A] elliptical 2M", some " ", some "add moon [A] [m]", some "list stars",
      none, some "add planet [A] [under A] ice giant no"]
    ∃ made, Session.steps .empty lines = .ok made ∧
      ((made.flatMap (·.events)).filter Event.isAddition).map Event.message =
        ["Added galaxy A (#0)", "Added star A (#1) under galaxy A (#0)",
          "Added planet under A (#2) under star A (#1)"] ∧
      ∃ e, (made.flatMap (·.events)).filter Event.isWarning = [e] ∧
        e.Echoes "Galaxy A already exists." := by
  intro lines
  obtain ⟨c, made, ran, stepped, additions, -, -, warnings, -⟩ := log_accounts_for_catalog lines
  refine ⟨made, stepped, ?_, ?_⟩
  · have journal : (Session.run .empty lines).map (fun c => c.journal.map Event.message) =
        .ok ["Added galaxy A (#0)", "Added star A (#1) under galaxy A (#0)",
          "Added planet under A (#2) under star A (#1)"] := by decide +kernel
    rw [ran] at journal
    rw [additions]
    exact Except.ok.inj journal
  · have notices : made.filterMap (·.effect.warning?) = ["Galaxy A already exists."] := by
      have shown : (Session.steps .empty lines).map (·.filterMap (·.effect.warning?)) =
          .ok ["Galaxy A already exists."] := by decide +kernel
      rw [stepped] at shown
      exact Except.ok.inj shown
    rw [notices] at warnings
    obtain ⟨e, rest, echoes, last, logged⟩ := List.forall₂_cons_right_iff.mp warnings
    rw [List.forall₂_nil_right_iff.mp last] at logged
    exact ⟨e, logged, echoes⟩

end SkyCatalog
