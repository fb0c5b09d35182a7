import SkyCatalog.Console.Settings

/-!
# Processes — what happens to the shared settings

In the course of a process its variables change, and sets of settings are made, asked for, shared
and forgotten, in any order. Each of these is a deed; some are answered with a set, or with the
faults for which there is none. The log of the deeds tells which set is due to whoever asks next,
without a look at the cache: the one that was shared last, or else the first one that has been got
since the shared set was last forgotten.
-/

namespace SkyCatalog.Console.Settings

/-! ## §1  Deeds -/

/-- What is done about the settings of a process. A set that is made may be shared later on, by
whoever has it. -/
inductive Deed where
  | environment (env : Environment)
  | make (given : Draft)
  | get
  | replace (given : Draft)
  | share (set : Numbered)
  | clear
deriving DecidableEq, Repr

/-- A process, as far as its settings go. -/
structure Process where
  env : Environment := []
  cache : Cache := {}

namespace Process

/-- What comes of asking for a set: the cache may have changed, or there are faults and nothing
has. -/
def settle (p : Process) : Checked (Cache × Numbered) → Process × Option (Checked Numbered)
  | .ok (cache, set) => ({ p with cache }, some (.ok set))
  | .faulty faults => (p, some (.faulty faults))

/-- The process after a deed, and the answer to it, if any. -/
def perform (p : Process) : Deed → Process × Option (Checked Numbered)
  | .environment env => ({ p with env }, none)
  | .make given => p.settle (p.cache.make p.env given)
  | .get => p.settle (p.cache.get p.env)
  | .replace given => p.settle (p.cache.replace p.env given)
  | .share set => ({ p with cache := p.cache.share (some set) }, none)
  | .clear => ({ p with cache := p.cache.clear }, none)

/-- The process after some deeds, done one after the other. -/
def after (p : Process) (deeds : List Deed) : Process :=
  deeds.foldl (fun p deed => (p.perform deed).1) p

end Process

/-- The variables after some deeds, when they were these before. -/
def variablesAfter (env : Environment) (deeds : List Deed) : Environment :=
  (deeds.filterMap fun
    | .environment env => some env
    | _ => none).getLastD env

/-! ## §2  The log -/

/-- A deed with the answer to it. -/
structure Entry where
  deed : Deed
  answer : Option (Checked Numbered)
deriving DecidableEq, Repr

/-- The log of some deeds. -/
def Process.log (p : Process) : List Deed → List Entry
  | [] => []
  | deed :: rest => ⟨deed, (p.perform deed).2⟩ :: (p.perform deed).1.log rest

namespace Entry

/-- What takes the place of the shared set, a set or nothing. A set that could not be made takes
no place. -/
def replacement? : Entry → Option (Option Numbered)
  | ⟨.share set, _⟩ => some (some set)
  | ⟨.replace _, some (.ok set)⟩ => some (some set)
  | ⟨.clear, _⟩ => some none
  | _ => none

/-- The set that was asked for and got. -/
def got? : Entry → Option Numbered
  | ⟨.get, some (.ok set)⟩ => some set
  | _ => none

end Entry

namespace Log

/-- What has last taken the place of the shared set. -/
def latest? (log : List Entry) : Option (Option Numbered) :=
  (log.filterMap Entry.replacement?).getLast?

/-- The sets that have been got since then, in order. -/
def gotSince (log : List Entry) : List Numbered :=
  (log.reverse.takeWhile fun e => e.replacement?.isNone).reverse.filterMap Entry.got?

/-- The set that is due to whoever asks for the shared one, if it has been made. -/
def due (log : List Entry) : Option Numbered :=
  match latest? log with
  | some (some set) => some set
  | _ => (gotSince log).head?

end Log

/-! ## §3  What the log says -/

namespace Process

/-- The get after the deeds `before` has made this set, from the variables as they were then: no set
was due, and nothing has been put in its place in the deeds `later`. -/
structure Builds (start : Process) (before later : List Deed) (set : Numbered) : Prop where
  none_due : Log.due (start.log before) = none
  got : ((start.after before).perform .get).2 = some (.ok set)
  values : start.cache.construct (variablesAfter start.env before) {} = .ok set.settings
  kept : ∀ e ∈ (start.after before).log (.get :: later), e.replacement? = none

/-- Every set that is shared has come of one of the deeds before. -/
def SharesOwn (start : Process) (deeds : List Deed) : Prop :=
  ∀ before set later, deeds = before ++ .share set :: later →
    ∃ e ∈ start.log before, e.answer = some (.ok set)

end Process

end SkyCatalog.Console.Settings
