import Mathlib.Data.List.Induction
import SkyCatalog.Console.Process

/-!
# Sharing — the shared set follows the log

The cache is read and written by deeds in any order, and variables change in between. What it holds
after them can be said without it: the log of the deeds says which set is due. Every deed turns the
set that was due before it into the one that is due after it, and the cache turns alike. So a set
that is got is the one that was shared last, or the one that the first get since has made, and what
fails leaves no trace.
-/

namespace SkyCatalog.Console.Settings

variable {p : Process} {deed : Deed} {deeds : List Deed} {given : Draft} {set : Numbered}
  {log : List Entry}

/-! ## §1  What a deed comes to -/

namespace Process

/-- A set is to be made from this draft: it is asked for outright, or it is missing. -/
inductive Asks (p : Process) : Deed → Draft → Prop where
  | make (given : Draft) : Asks p (.make given) given
  | replace (given : Draft) : Asks p (.replace given) given
  | get (nothing : p.cache.held = none) : Asks p .get {}

/-- The set that some settings become when it is made next. -/
def fresh (p : Process) (s : Settings) : Numbered := ⟨p.cache.made, s⟩

/-- What the process shares when this set has been made by a deed. -/
def heldAfter (p : Process) (set : Numbered) : Deed → Option Numbered
  | .make _ => p.cache.held
  | _ => some set

/-- A set is made and counted, or it cannot be made and nothing changes. -/
theorem perform_of_asks (asks : p.Asks deed given) :
    p.perform deed = match p.cache.construct p.env given with
      | .ok s =>
        (⟨p.env, p.heldAfter (p.fresh s) deed, p.cache.made + 1, p.cache.construct⟩,
          some (.ok (p.fresh s)))
      | .faulty faults => (p, some (.faulty faults)) := by
  cases asks with
  | make given =>
      rw [perform, Cache.make]
      cases p.cache.construct p.env given <;> rfl
  | replace given =>
      rw [perform, Cache.replace, Cache.make]
      cases p.cache.construct p.env given <;> rfl
  | get nothing =>
      simp only [perform, Cache.get, nothing, Cache.make]
      cases p.cache.construct p.env {} <;> rfl

theorem perform_get_of_held (held : p.cache.held = some set) :
    p.perform .get = (p, some (.ok set)) := by
  simp only [perform, Cache.get, held, settle]

theorem asks_cases (p : Process) (deed : Deed) :
    (∃ given, p.Asks deed given) ∨ (deed = .get ∧ ∃ set, p.cache.held = some set) ∨
    ∃ held, p.perform deed =
      (⟨variablesAfter p.env [deed], held, p.cache.made, p.cache.construct⟩, none) := by
  cases deed with
  | environment env => exact .inr (.inr ⟨p.cache.held, rfl⟩)
  | share set => exact .inr (.inr ⟨some set, rfl⟩)
  | clear => exact .inr (.inr ⟨none, rfl⟩)
  | make given => exact .inl ⟨given, .make given⟩
  | replace given => exact .inl ⟨given, .replace given⟩
  | get =>
      cases held : p.cache.held with
      | none => exact .inl ⟨{}, .get held⟩
      | some set => exact .inr (.inl ⟨rfl, set, rfl⟩)

/-- **All that a deed can come to.** A set cannot be made and nothing changes; a set is made; the
shared set is given out; or there is no answer. -/
theorem perform_cases (p : Process) (deed : Deed) :
    (∃ given faults, p.Asks deed given ∧ p.cache.construct p.env given = .faulty faults ∧
      p.perform deed = (p, some (.faulty faults))) ∨
    (∃ given s, p.Asks deed given ∧ p.cache.construct p.env given = .ok s ∧
      p.perform deed = (⟨p.env, p.heldAfter (p.fresh s) deed, p.cache.made + 1, p.cache.construct⟩,
        some (.ok (p.fresh s)))) ∨
    (∃ set, deed = .get ∧ p.cache.held = some set ∧ p.perform deed = (p, some (.ok set))) ∨
    ∃ held, p.perform deed =
      (⟨variablesAfter p.env [deed], held, p.cache.made, p.cache.construct⟩, none) := by
  rcases asks_cases p deed with ⟨given, asks⟩ | ⟨rfl, set, held⟩ | silent
  · have comes := perform_of_asks asks
    cases built : p.cache.construct p.env given with
    | faulty faults =>
        rw [built] at comes
        exact .inl ⟨given, faults, asks, built, comes⟩
    | ok s =>
        rw [built] at comes
        exact .inr (.inl ⟨given, s, asks, built, comes⟩)
  · exact .inr (.inr (.inl ⟨set, rfl, held, perform_get_of_held held⟩))
  · exact .inr (.inr (.inr silent))

/-- What fails leaves no trace. -/
theorem perform_of_faulty {faults : List Fault}
    (failed : (p.perform deed).2 = some (.faulty faults)) : (p.perform deed).1 = p := by
  rcases perform_cases p deed with ⟨_, _, -, -, comes⟩ | ⟨_, _, -, -, comes⟩ | ⟨_, -, -, comes⟩ |
    ⟨_, comes⟩
  · rw [comes]
  · rw [comes] at failed
    cases failed
  · rw [comes]
  · rw [comes] at failed
    cases failed

/-- A set that is answered has just been made, or it is the shared one and nothing changes. -/
theorem perform_of_ok (answer : (p.perform deed).2 = some (.ok set)) :
    (∃ given, p.Asks deed given ∧ set.number = p.cache.made ∧
      (p.perform deed).1.cache.made = p.cache.made + 1) ∨
    (deed = .get ∧ p.cache.held = some set ∧ (p.perform deed).1 = p) := by
  rcases perform_cases p deed with ⟨_, _, -, -, comes⟩ | ⟨given, _, asks, -, comes⟩ |
    ⟨_, get, held, comes⟩ | ⟨_, comes⟩ <;> rw [comes] at answer
  · cases answer
  · cases answer
    exact .inl ⟨given, asks, rfl, by rw [comes]⟩
  · cases answer
    exact .inr ⟨get, held, by rw [comes]⟩
  · cases answer

theorem construct_perform (p : Process) (deed : Deed) :
    (p.perform deed).1.cache.construct = p.cache.construct := by
  rcases perform_cases p deed with ⟨_, _, -, -, comes⟩ | ⟨_, _, -, -, comes⟩ | ⟨_, -, -, comes⟩ |
    ⟨_, comes⟩ <;> rw [comes]

/-- A set that is made gets the next number. -/
theorem number_of_made (asks : p.Asks deed given) (got : (p.perform deed).2 = some (.ok set)) :
    p.cache.construct p.env given = .ok set.settings ∧ set.number = p.cache.made := by
  rw [perform_of_asks asks] at got
  cases built : p.cache.construct p.env given with
  | faulty faults =>
      rw [built] at got
      cases got
  | ok s =>
      rw [built] at got
      cases got
      exact ⟨rfl, rfl⟩

theorem made_le_perform (p : Process) (deed : Deed) :
    p.cache.made ≤ (p.perform deed).1.cache.made := by
  have counted : (p.perform deed).1.cache.made = p.cache.made ∨
      (p.perform deed).1.cache.made = p.cache.made + 1 := by
    rcases perform_cases p deed with ⟨_, _, -, -, comes⟩ | ⟨_, _, -, -, comes⟩ | ⟨_, -, -, comes⟩ |
      ⟨_, comes⟩
    · exact .inl (by rw [comes])
    · exact .inr (by rw [comes])
    · exact .inl (by rw [comes])
    · exact .inl (by rw [comes])
  omega

theorem Asks.variablesAfter_eq (asks : p.Asks deed given) :
    variablesAfter p.env [deed] = p.env := by
  cases asks <;> rfl

/-- Only a change of the variables changes them. -/
theorem env_perform (p : Process) (deed : Deed) :
    (p.perform deed).1.env = variablesAfter p.env [deed] := by
  rcases perform_cases p deed with ⟨_, _, asks, -, comes⟩ | ⟨_, _, asks, -, comes⟩ |
    ⟨_, rfl, -, comes⟩ | ⟨_, comes⟩ <;> rw [comes]
  · exact asks.variablesAfter_eq.symm
  · exact asks.variablesAfter_eq.symm
  · rfl

/-! ## §2  Deeds one after another -/

theorem after_append (p : Process) (xs ys : List Deed) :
    p.after (xs ++ ys) = (p.after xs).after ys := List.foldl_append

theorem log_append (p : Process) (xs ys : List Deed) :
    p.log (xs ++ ys) = p.log xs ++ (p.after xs).log ys := by
  induction xs generalizing p with
  | nil => rfl
  | cons deed xs ih =>
      show _ :: (p.perform deed).1.log (xs ++ ys) = _ :: (_ ++ _)
      rw [ih]
      rfl

theorem log_concat (p : Process) (deeds : List Deed) (deed : Deed) :
    p.log (deeds ++ [deed]) = p.log deeds ++ [⟨deed, ((p.after deeds).perform deed).2⟩] :=
  log_append p deeds [deed]

theorem after_concat (p : Process) (deeds : List Deed) (deed : Deed) :
    p.after (deeds ++ [deed]) = ((p.after deeds).perform deed).1 := after_append p deeds [deed]

theorem map_deed_log (p : Process) (deeds : List Deed) : (p.log deeds).map (·.deed) = deeds := by
  induction deeds generalizing p with
  | nil => rfl
  | cons deed rest ih => exact congrArg (deed :: ·) (ih _)

theorem construct_after (p : Process) (deeds : List Deed) :
    (p.after deeds).cache.construct = p.cache.construct := by
  induction deeds using List.reverseRecOn with
  | nil => rfl
  | append_singleton deeds deed ih => rw [after_concat, construct_perform, ih]

theorem env_after (p : Process) (deeds : List Deed) :
    (p.after deeds).env = variablesAfter p.env deeds := by
  induction deeds using List.reverseRecOn with
  | nil => rfl
  | append_singleton deeds deed ih =>
      rw [after_concat, env_perform, ih, variablesAfter, variablesAfter, variablesAfter,
        List.filterMap_append]
      cases deed <;> simp

end Process

/-! ## §3  The set that is due -/

theorem Entry.got?_eq_some_iff {e : Entry} : e.got? = some set ↔ e = ⟨.get, some (.ok set)⟩ := by
  constructor
  · intro got
    rcases e with ⟨_ | _ | _ | _ | _ | _, _ | _ | _⟩ <;> cases got
    rfl
  · rintro rfl
    rfl

theorem Entry.of_replacement?_eq {e : Entry} (h : e.replacement? = some (some set)) :
    e.deed = .share set ∨ e.answer = some (.ok set) := by
  rcases e with ⟨_ | _ | _ | _ | _ | _, _ | _ | _⟩ <;> cases h
  · exact .inr rfl
  · exact .inl rfl
  · exact .inl rfl
  · exact .inl rfl

namespace Log

/-- The set that is due after one more entry. -/
def turn (due : Option Numbered) (e : Entry) : Option Numbered :=
  e.replacement?.getD (due.or e.got?)

theorem latest?_concat (log : List Entry) (e : Entry) :
    latest? (log ++ [e]) = e.replacement?.or (latest? log) := by
  rw [latest?, List.filterMap_append]
  cases replaced : e.replacement? with
  | none => simp [replaced, latest?]
  | some r => simp [replaced]

theorem gotSince_concat (log : List Entry) (e : Entry) :
    gotSince (log ++ [e]) =
      if e.replacement?.isNone then gotSince log ++ e.got?.toList else [] := by
  rw [gotSince, List.reverse_append, List.reverse_singleton, List.singleton_append,
    List.takeWhile_cons]
  cases replaced : e.replacement? with
  | none => cases got : e.got? <;> simp [gotSince, got]
  | some r => rfl

/-- **One more entry** turns what is due: a replacement takes its place, and a set that is got is
due from then on when none was. -/
theorem due_concat (log : List Entry) (e : Entry) : due (log ++ [e]) = turn (due log) e := by
  rw [due, latest?_concat, gotSince_concat, turn]
  cases replaced : e.replacement? with
  | some r => cases r <;> rfl
  | none =>
      rw [due, Option.none_or]
      rcases latest? log with _ | _ | set
      · simp
      · simp
      · rfl

theorem due_eq_none_iff : due log = none ↔
    (∀ given, latest? log ≠ some (some given)) ∧ gotSince log = [] := by
  rw [due]
  rcases latest? log with _ | _ | given
  · simp
  · simp
  · simp

theorem mem_of_mem_gotSince (h : set ∈ gotSince log) : ⟨.get, some (.ok set)⟩ ∈ log := by
  obtain ⟨e, he, got⟩ := List.mem_filterMap.mp h
  rw [← Entry.got?_eq_some_iff.mp got]
  exact List.mem_reverse.mp ((List.takeWhile_sublist _).subset (List.mem_reverse.mp he))

/-- The set that is due has been shared, or has come of a deed. -/
theorem shared_or_answered_of_due (h : due log = some set) :
    (∃ e ∈ log, e.deed = .share set) ∨ ∃ e ∈ log, e.answer = some (.ok set) := by
  rw [due] at h
  split at h
  · rename_i given latest
    obtain rfl := Option.some.inj h
    obtain ⟨e, he, replaced⟩ := List.mem_filterMap.mp (List.mem_of_getLast? latest)
    rcases Entry.of_replacement?_eq replaced with shared | answer
    · exact .inl ⟨e, he, shared⟩
    · exact .inr ⟨e, he, answer⟩
  · exact .inr ⟨_, mem_of_mem_gotSince (List.mem_of_head? h), rfl⟩

end Log

namespace Process

/-- A set that is made on the side is not shared. -/
theorem held_make (p : Process) (given : Draft) :
    (p.perform (.make given)).1.cache.held = p.cache.held := by
  rw [perform_of_asks (.make given)]
  cases p.cache.construct p.env given <;> rfl

/-- The cache turns as the log does. -/
theorem held_perform (p : Process) (deed : Deed) :
    (p.perform deed).1.cache.held = Log.turn p.cache.held ⟨deed, (p.perform deed).2⟩ := by
  have unturned : p.cache.held = p.cache.held.or none := Option.or_none.symm
  cases deed with
  | environment env => exact unturned
  | share set => rfl
  | clear => rfl
  | make given => exact (held_make p given).trans unturned
  | replace given =>
      rw [perform_of_asks (.replace given)]
      cases p.cache.construct p.env given with
      | ok s => rfl
      | faulty faults => exact unturned
  | get =>
      cases held : p.cache.held with
      | some set =>
          rw [perform_get_of_held held]
          exact held
      | none =>
          rw [perform_of_asks (.get held)]
          cases p.cache.construct p.env {} with
          | ok s => rfl
          | faulty faults => exact held

/-- **The cache holds what is due by the log.** -/
theorem held_after {start : Process} (nothing : start.cache.held = none) (deeds : List Deed) :
    (start.after deeds).cache.held = Log.due (start.log deeds) := by
  induction deeds using List.reverseRecOn with
  | nil => exact nothing
  | append_singleton deeds deed ih =>
      rw [after_concat, log_concat, Log.due_concat, held_perform, ih]

theorem held_of_got (got : (p.perform .get).2 = some (.ok set)) :
    (p.perform .get).1.cache.held = some set := by
  rw [held_perform, got]
  show p.cache.held.or (some set) = some set
  cases held : p.cache.held with
  | none => rfl
  | some shared =>
      rw [perform_get_of_held held] at got
      cases got
      rfl

/-- Whoever asks for a set gets one, when one is shared or the variables are in order. -/
theorem exists_got_iff : (∃ set, (p.perform .get).2 = some (.ok set)) ↔
    p.cache.held.isSome ∨ ∃ s, p.cache.construct p.env {} = .ok s := by
  cases held : p.cache.held with
  | some set => simp [perform_get_of_held held]
  | none =>
      rw [perform_of_asks (.get held)]
      cases p.cache.construct p.env {} <;> simp

end Process

/-! ## §4  Who has made it -/

namespace Process

variable {start : Process} {before later : List Deed}

theorem Builds.snoc (h : start.Builds before later set)
    (stays : Entry.replacement?
      ⟨deed, ((start.after (before ++ .get :: later)).perform deed).2⟩ = none) :
    start.Builds before (later ++ [deed]) set := by
  refine { h with kept := ?_ }
  rw [← List.cons_append, log_concat, ← after_append]
  intro e he
  rcases List.mem_append.mp he with he | he
  · exact h.kept e he
  · rw [List.mem_singleton.mp he]
    exact stays

theorem builds_of_got (nothing : start.cache.held = none)
    (none_due : Log.due (start.log deeds) = none)
    (got : ((start.after deeds).perform .get).2 = some (.ok set)) : start.Builds deeds [] set := by
  have held : (start.after deeds).cache.held = none := (held_after nothing deeds).trans none_due
  obtain ⟨values, -⟩ := number_of_made (.get held) got
  rw [construct_after, env_after] at values
  refine ⟨none_due, got, values, ?_⟩
  intro e he
  rw [List.mem_singleton.mp he]
  rfl

/-- The first set that has been got since the shared set was last forgotten was made by the get
that got it. -/
theorem exists_builds (nothing : start.cache.held = none)
    (unshared : ∀ given, Log.latest? (start.log deeds) ≠ some (some given))
    (first : (Log.gotSince (start.log deeds)).head? = some set) :
    ∃ before later, deeds = before ++ .get :: later ∧ start.Builds before later set := by
  induction deeds using List.reverseRecOn with
  | nil => cases first
  | append_singleton deeds deed ih =>
      rw [log_concat] at unshared first
      rw [Log.latest?_concat] at unshared
      rw [Log.gotSince_concat] at first
      cases stays : Entry.replacement? ⟨deed, ((start.after deeds).perform deed).2⟩ with
      | some r =>
          rw [stays] at first
          cases first
      | none =>
          rw [stays] at first unshared
          cases got : Log.gotSince (start.log deeds) with
          | cons x xs =>
              -- the set was made earlier, and the last deed puts nothing in its place
              rw [got] at first
              obtain ⟨before, later, rfl, builds⟩ := ih unshared (by rw [got]; exact first)
              exact ⟨before, later ++ [deed], by simp, builds.snoc stays⟩
          | nil =>
              -- the last deed is the get that has made it
              rw [got] at first
              replace first := Option.head?_toList.symm.trans first
              obtain ⟨rfl, answer⟩ := Entry.mk.inj (Entry.got?_eq_some_iff.mp first)
              refine ⟨deeds, [], rfl, builds_of_got nothing ?_ answer⟩
              exact Log.due_eq_none_iff.mpr ⟨unshared, got⟩

/-- **Who gets which set.** It is the one that was last given in place of the shared one, or else
the one that the first get since has made. -/
theorem got_follows (nothing : start.cache.held = none)
    (got : ((start.after deeds).perform .get).2 = some (.ok set)) :
    (∀ given, Log.latest? (start.log deeds) = some (some given) → set = given) ∧
    ((∀ given, Log.latest? (start.log deeds) ≠ some (some given)) →
      ∃ before later, deeds ++ [.get] = before ++ .get :: later ∧
        start.Builds before later set) := by
  have due : Log.due (start.log (deeds ++ [.get])) = some set := by
    rw [← held_after nothing, after_concat]
    exact held_of_got got
  have unreplaced : Log.latest? (start.log (deeds ++ [.get])) = Log.latest? (start.log deeds) := by
    rw [log_concat]
    exact Log.latest?_concat _ _
  constructor
  · intro given latest
    rw [Log.due, unreplaced, latest] at due
    exact (Option.some.inj due).symm
  · intro unshared
    rw [← unreplaced] at unshared
    refine exists_builds nothing unshared ?_
    rw [Log.due] at due
    split at due
    · rename_i given latest
      exact absurd latest (unshared given)
    · exact due

/-- A deed that has failed does not keep a set from being got once the variables are in order. -/
theorem exists_got_of_corrected {faults : List Fault} {env : Environment} {s : Settings}
    (failed : (p.perform deed).2 = some (.faulty faults))
    (corrected : p.cache.construct env {} = .ok s) :
    ∃ set, (((p.perform deed).1.perform (.environment env)).1.perform .get).2 = some (.ok set) ∧
      (p.cache.held = none → set.settings = s) := by
  rw [perform_of_faulty failed]
  obtain ⟨set, got⟩ := exists_got_iff (p := (p.perform (.environment env)).1).mpr
    (.inr ⟨s, corrected⟩)
  refine ⟨set, got, ?_⟩
  intro nothing
  obtain ⟨values, -⟩ := number_of_made (p := (p.perform (.environment env)).1) (.get nothing) got
  exact Checked.ok.inj (values.symm.trans corrected)

/-! ## §5  Sets and their numbers -/

/-- Whoever shares sets that have come of deeds is due such a set. -/
theorem answered_of_due (own : start.SharesOwn deeds)
    (due : Log.due (start.log deeds) = some set) :
    ∃ e ∈ start.log deeds, e.answer = some (.ok set) := by
  rcases Log.shared_or_answered_of_due due with ⟨e, he, shared⟩ | answered
  · have done : Deed.share set ∈ deeds := by
      rw [← map_deed_log start deeds]
      exact List.mem_map.mpr ⟨e, he, shared⟩
    obtain ⟨before, later, rfl⟩ := List.append_of_mem done
    obtain ⟨e, he, answer⟩ := own before set later rfl
    rw [log_append]
    exact ⟨e, List.mem_append_left _ he, answer⟩
  · exact answered

theorem SharesOwn.of_concat (own : start.SharesOwn (deeds ++ [deed])) : start.SharesOwn deeds := by
  rintro before set later rfl
  exact own before set (later ++ [deed]) (by simp)

/-- All numbers that have been given out lie below the next one. -/
theorem number_lt (nothing : start.cache.held = none) (own : start.SharesOwn deeds) :
    ∀ e ∈ start.log deeds, ∀ set, e.answer = some (.ok set) →
      set.number < (start.after deeds).cache.made := by
  induction deeds using List.reverseRecOn with
  | nil =>
      intro e he
      exact absurd he List.not_mem_nil
  | append_singleton deeds deed ih =>
      intro e he set answer
      have earlier := ih own.of_concat
      have grows := made_le_perform (start.after deeds) deed
      rw [log_concat] at he
      rw [after_concat]
      rcases List.mem_append.mp he with he | he
      · exact Nat.lt_of_lt_of_le (earlier e he set answer) grows
      · rw [List.mem_singleton.mp he] at answer
        rcases perform_of_ok answer with ⟨-, -, next, counted⟩ | ⟨-, held, same⟩
        · rw [next, counted]
          exact Nat.lt_succ_self _
        · rw [held_after nothing] at held
          obtain ⟨e, he, answer⟩ := answered_of_due own.of_concat held
          rw [same]
          exact earlier e he set answer

/-- A set that is made is another one than all before it. -/
theorem number_ne (nothing : start.cache.held = none) (own : start.SharesOwn deeds)
    (answer : ((start.after deeds).perform deed).2 = some (.ok set))
    (makes : deed = .get → Log.due (start.log deeds) = none) :
    ∀ e ∈ start.log deeds, ∀ other, e.answer = some (.ok other) → other.number ≠ set.number := by
  intro e he other was
  have below := number_lt nothing own e he other was
  rcases perform_of_ok answer with ⟨-, -, next, -⟩ | ⟨get, held, -⟩
  · rw [next]
    exact Nat.ne_of_lt below
  · rw [held_after nothing, makes get] at held
    cases held

end Process

/-! ## §6  The protocol -/

/-- The shared set of a process follows the log of some deeds: which set is got after them, what
changes the shared one and what does not, and when one can be got. -/
structure Process.FollowsLog (start : Process) (deeds : List Deed) : Prop where
  given : ∀ set, ((start.after deeds).perform .get).2 = some (.ok set) →
    ∀ shared, Log.latest? (start.log deeds) = some (some shared) → set = shared
  built : ∀ set, ((start.after deeds).perform .get).2 = some (.ok set) →
    (∀ shared, Log.latest? (start.log deeds) ≠ some (some shared)) →
      ∃ before later, deeds ++ [.get] = before ++ .get :: later ∧ start.Builds before later set
  elsewhere : ∀ env, ((start.after deeds).perform (.environment env)).1.cache =
    (start.after deeds).cache
  aside : ∀ draft, ((start.after deeds).perform (.make draft)).1.cache.held =
    (start.after deeds).cache.held
  failures : ∀ deed faults, ((start.after deeds).perform deed).2 = some (.faulty faults) →
    ((start.after deeds).perform deed).1 = start.after deeds
  gets : (∃ set, ((start.after deeds).perform .get).2 = some (.ok set)) ↔
    (Log.due (start.log deeds)).isSome ∨
      ∃ s, start.cache.construct (variablesAfter start.env deeds) {} = .ok s
  recovers : ∀ deed faults env s, ((start.after deeds).perform deed).2 = some (.faulty faults) →
    start.cache.construct env {} = .ok s →
      ∃ set, ((((start.after deeds).perform deed).1.perform (.environment env)).1.perform
        .get).2 = some (.ok set) ∧ (Log.due (start.log deeds) = none → set.settings = s)
  another : start.SharesOwn deeds →
    ∀ deed set, ((start.after deeds).perform deed).2 = some (.ok set) →
      (deed = .get → Log.due (start.log deeds) = none) →
        ∀ e ∈ start.log deeds, ∀ other, e.answer = some (.ok other) → other.number ≠ set.number

/-- **The shared set follows the log.** However the variables change and sets are made, got, shared
and forgotten: a set that is got is the one that was given last in place of the shared one, or else
the one that was made by the first get since, from the variables at that moment. Changing the
variables and making sets on the side leave the shared one as it is. What fails changes nothing, so
a set is got as soon as the variables are in order. Sets that are made are told from all others by
their numbers. -/
theorem shared_set_follows_log (construct : Construction) (env : Environment)
    (deeds : List Deed) :
    ({ env, cache := { construct } } : Process).FollowsLog deeds := by
  let start : Process := { env, cache := { construct } }
  have nothing : start.cache.held = none := rfl
  have held : (start.after deeds).cache.held = Log.due (start.log deeds) :=
    Process.held_after nothing deeds
  have by_construct : (start.after deeds).cache.construct = construct :=
    Process.construct_after start deeds
  have env_now : (start.after deeds).env = variablesAfter env deeds :=
    Process.env_after start deeds
  refine
    { given := fun set got => (Process.got_follows nothing got).1
      built := fun set got => (Process.got_follows nothing got).2
      elsewhere := fun _ => rfl
      aside := Process.held_make _
      failures := fun _ _ => Process.perform_of_faulty
      gets := ?_
      recovers := ?_
      another := fun own _ _ => Process.number_ne nothing own }
  · rw [Process.exists_got_iff, held, by_construct, env_now]
  · intro deed faults env' s failed corrected
    have corrected : (start.after deeds).cache.construct env' {} = .ok s := by
      rw [by_construct]
      exact corrected
    rw [← held]
    exact Process.exists_got_of_corrected failed corrected

/-- A process whose variables are out of order at first, and one whose variables get out of order
later on: the first get that succeeds makes the shared set, and a set that was made on the side and
then shared is given out whatever the variables are. -/
theorem shared_set_follows_log_of_failures :
    let fancy : Environment := [("GALAXYDB_LOG_FORMAT", "fancy")]
    let start : Process := { env := fancy }
    let dollar : Numbered := ⟨0, { prompt := "$ " }⟩
    let simple : Draft := { logFormat := .given "simple" }
    let corrected : List Deed := [.get, .environment [], .get]
    let shared : List Deed := [.environment [], .make { prompt := .given "$ " }, .share dollar,
      .environment fancy]
    ((∀ given, Log.latest? (start.log corrected) ≠ some (some given)) ∧
      ((start.after corrected).perform .get).2 = some (.ok ⟨0, {}⟩) ∧
      ∃ before later, corrected ++ [.get] = before ++ .get :: later ∧
        start.Builds before later ⟨0, {}⟩) ∧
    (∃ faults, (start.perform .get).2 = some (.faulty faults) ∧ make [] {} = .ok {} ∧
      (start.perform .get).1 = start ∧
      ∃ set, (((start.perform .get).1.perform (.environment [])).1.perform .get).2 =
        some (.ok set) ∧ set.settings = {}) ∧
    (Log.latest? (start.log shared) = some (some dollar) ∧
      ((start.after shared).perform .get).2 = some (.ok dollar)) ∧
    (start.SharesOwn shared ∧
      ∃ set, ((start.after shared).perform (.make simple)).2 = some (.ok set) ∧
        set.number ≠ dollar.number) := by
  intro fancy start dollar simple corrected shared
  refine ⟨?_, ?_, ?_, ?_⟩
  · have latest : Log.latest? (start.log corrected) = none := by decide +kernel
    have got : ((start.after corrected).perform .get).2 = some (.ok ⟨0, {}⟩) := by decide +kernel
    have unshared : ∀ given, Log.latest? (start.log corrected) ≠ some (some given) := by
      rw [latest]
      exact nofun
    exact ⟨unshared, got, (shared_set_follows_log make fancy corrected).built _ got unshared⟩
  · have failed : (start.perform .get).2 = some (.faulty [⟨["log_format"], noLogFormat⟩]) := by
      decide +kernel
    have inOrder : make [] {} = .ok {} := by decide +kernel
    have follows := shared_set_follows_log make fancy []
    obtain ⟨set, got, values⟩ := follows.recovers .get _ [] {} failed inOrder
    exact ⟨_, failed, inOrder, follows.failures .get _ failed, set, got, values rfl⟩
  · have latest : Log.latest? (start.log shared) = some (some dollar) := by decide +kernel
    have follows := shared_set_follows_log make fancy shared
    obtain ⟨set, got⟩ := follows.gets.mpr (.inl (by rw [Log.due, latest]; rfl))
    obtain rfl := follows.given set got dollar latest
    exact ⟨latest, got⟩
  · have own : start.SharesOwn shared := by
      rintro (_ | ⟨_, _ | ⟨_, _ | ⟨_, _ | ⟨_, before⟩⟩⟩⟩) set later h <;> simp [shared] at h
      obtain ⟨rfl, rfl, rfl, -⟩ := h
      exact ⟨⟨.make { prompt := .given "$ " }, some (.ok dollar)⟩, by decide +kernel⟩
    have made : ((start.after shared).perform (.make simple)).2 = some (.ok ⟨1, {}⟩) := by
      decide +kernel
    have logged : ⟨.make { prompt := .given "$ " }, some (.ok dollar)⟩ ∈ start.log shared := by
      decide +kernel
    have another := (shared_set_follows_log make fancy shared).another own
    exact ⟨own, _, made, (another _ _ made nofun _ logged dollar rfl).symm⟩

end SkyCatalog.Console.Settings
