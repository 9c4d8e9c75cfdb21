import Columnar.Log.Script
import Columnar.Proofs.Log.Events

/-! Blocks around what is logged. A script is run with one context, which blocks change and set
back; it writes what its steps would write one by one, each with nothing but the blocks that stand
around it. So an event has the fields of these blocks, of the inner ones before the outer ones, and
none of a block that is left, be it by its end or by an error. -/
namespace Columnar.Log

/-- A step of a script and the blocks around it, from the inside outwards. -/
structure Site where
  blocks : List Fields
  step : Action

structure Step where
  answer : Answer
  events : List Fields
  format : LogFormat

def Trace.step? : Trace → Option Step
  | .step answer events format => some ⟨answer, events, format⟩
  | _ => none

def steps (trace : List Trace) : List Step := trace.filterMap Trace.step?

def Logger.inside (l : Logger) (blocks : List Fields) : Logger :=
  l.leave (contextOf l.context blocks)

theorem Logger.leave_self {l : Logger} {context : Fields} (same : l.context = context) :
    l.leave context = l := by
  rw [← same, leave]

theorem steps_append (ts us : List Trace) : steps (ts ++ us) = steps ts ++ steps us :=
  List.filterMap_append

namespace Action

mutual

/-- The steps of an action that are reached, each with the blocks around it, and the error that ends
the action. Errors and attempts alone decide what is reached, whatever is logged. -/
def reached (blocks : List Fields) : Action → List Site × Option String
  | .raise text => ([], some text)
  | .within fields body => reachedAll (fields :: blocks) body
  | .attempt body => ((reachedAll blocks body).1, none)
  | a => ([⟨blocks, a⟩], none)

def reachedAll (blocks : List Fields) : List Action → List Site × Option String
  | [] => ([], none)
  | a :: as =>
    match reached blocks a with
    | (sites, some error) => (sites, some error)
    | (sites, none) => (sites ++ (reachedAll blocks as).1, (reachedAll blocks as).2)

end

theorem runAll_stop {l : Logger} {a : Action} {as : List Action} {text : String}
    (stopped : (run l a).2.2 = some text) : runAll l (a :: as) = run l a := by
  rw [runAll]
  split
  · rename_i ran
    exact ran.symm
  · rename_i ran
    rw [ran] at stopped
    cases stopped

theorem runAll_next {l : Logger} {a : Action} {as : List Action} (ended : (run l a).2.2 = none) :
    runAll l (a :: as) =
      ((run l a).1 ++ (runAll (run l a).2.1 as).1, (runAll (run l a).2.1 as).2) := by
  rw [runAll]
  split
  · rename_i ran
    rw [ran] at ended
    cases ended
  · rename_i ran
    rw [ran]

theorem reachedAll_stop {blocks : List Fields} {a : Action} {as : List Action} {text : String}
    (stopped : (reached blocks a).2 = some text) :
    reachedAll blocks (a :: as) = reached blocks a := by
  rw [reachedAll]
  split
  · rename_i there
    exact there.symm
  · rename_i there
    rw [there] at stopped
    cases stopped

theorem reachedAll_next {blocks : List Fields} {a : Action} {as : List Action}
    (ended : (reached blocks a).2 = none) : reachedAll blocks (a :: as) =
      ((reached blocks a).1 ++ (reachedAll blocks as).1, (reachedAll blocks as).2) := by
  rw [reachedAll]
  split
  · rename_i there
    rw [there] at ended
    cases ended
  · rename_i there
    rw [there]

/-- Runs steps one by one, each with its own blocks around it. Only the settings go on from one to
the next. -/
def apart (l : Logger) : List Site → List Step × Logger
  | [] => ([], l)
  | site :: sites =>
    let (answer, events, l') := single (l.inside site.blocks) site.step
    let (more, l'') := apart (l'.leave l.context) sites
    (⟨answer, events, l'.format⟩ :: more, l'')

theorem apart_append (l : Logger) (sites more : List Site) : apart l (sites ++ more) =
    ((apart l sites).1 ++ (apart (apart l sites).2 more).1, (apart (apart l sites).2 more).2) := by
  induction sites generalizing l with
  | nil => rfl
  | cons site sites ih => simp only [List.cons_append, apart, ih]

theorem apart_context (l : Logger) (sites : List Site) : (apart l sites).2.context = l.context := by
  induction sites generalizing l with
  | nil => rfl
  | cons site sites ih => exact ih _

theorem configure_context {l l' : Logger} {level format : String}
    (configured : l.configure level format = .ok l') : l'.context = l.context := by
  rw [Logger.configure] at configured
  split at configured
  · cases configured
    rfl
  · cases configured

theorem single_context (l : Logger) (a : Action) : (single l a).2.2.context = l.context := by
  cases a with
  | configure level format =>
    rw [single]
    split
    · exact configure_context ‹_›
    · rfl
  | log r =>
    rw [single]
    split
    · rfl
    · rw [logAll]
      split <;> rfl
  | compile schema =>
    simp only [single, logAll]
    split <;> rfl
  | check titles =>
    simp only [single, logAll]
    split <;> rfl
  | raise _ | within _ _ | attempt _ => rfl

/-- A run inside blocks writes what the steps that are reached write one by one, and ends inside the
same blocks. -/
structure Follows (l : Logger) (blocks : List Fields) (ran : List Trace × Logger × Option String)
    (sites : List Site × Option String) : Prop where
  steps : steps ran.1 = (apart l sites.1).1
  logger : ran.2.1 = (apart l sites.1).2.inside blocks
  error : ran.2.2 = sites.2

theorem single_follows {l : Logger} {blocks : List Fields} {a : Action}
    (ran : run (l.inside blocks) a = ([.step (single (l.inside blocks) a).1
      (single (l.inside blocks) a).2.1 (single (l.inside blocks) a).2.2.format],
      (single (l.inside blocks) a).2.2, none))
    (alone : reached blocks a = ([⟨blocks, a⟩], none)) :
    Follows l blocks (run (l.inside blocks) a) (reached blocks a) := by
  have kept := single_context (l.inside blocks) a
  rw [ran, alone]
  refine ⟨rfl, ?_, rfl⟩
  exact (Logger.leave_self kept).symm

-- By recursion on the script. That a run ends inside the blocks in which it began is what the steps
-- behind it need: they find the context that their own blocks give.
mutual

theorem run_follows (l : Logger) (blocks : List Fields) :
    ∀ a, Follows l blocks (run (l.inside blocks) a) (reached blocks a)
  | .configure _ _ | .log _ | .compile _ | .check _ => single_follows rfl rfl
  | .raise text => ⟨rfl, rfl, rfl⟩
  | .within fields body => by
    obtain ⟨wrote, logger, error⟩ := runAll_follows l (fields :: blocks) body
    refine ⟨wrote, ?_, error⟩
    -- On the way out, with an error or without, the context is set to what it was at the entry.
    change ((runAll (l.inside (fields :: blocks)) body).2.1).leave (contextOf l.context blocks) = _
    rw [logger, Logger.inside, Logger.inside, reached, apart_context]
    rfl
  | .attempt body => by
    obtain ⟨wrote, logger, error⟩ := runAll_follows l blocks body
    refine ⟨?_, logger, rfl⟩
    change steps ((runAll (l.inside blocks) body).1 ++ [_]) = _
    rw [steps_append, wrote]
    exact List.append_nil _

theorem runAll_follows (l : Logger) (blocks : List Fields) :
    ∀ as, Follows l blocks (runAll (l.inside blocks) as) (reachedAll blocks as)
  | [] => ⟨rfl, rfl, rfl⟩
  | a :: as => by
    obtain ⟨wrote, logger, error⟩ := run_follows l blocks a
    cases ends : (reached blocks a).2 with
    | some text =>
      rw [runAll_stop (error.trans ends), reachedAll_stop ends]
      exact ⟨wrote, logger, error⟩
    | none =>
      obtain ⟨wrote', logger', error'⟩ :=
        runAll_follows (apart l (reached blocks a).1).2 blocks as
      rw [runAll_next (error.trans ends), reachedAll_next ends, logger]
      refine ⟨?_, ?_, error'⟩
      · rw [steps_append, wrote, wrote', apart_append]
      · rw [logger', apart_append]

end

def records : Action → List Record
  | .log r => [r]
  | .compile schema => Schema.outcomeRecords (Schema.compile schema)
  | .check titles => Titles.records titles
  | _ => []

theorem writable_prefix (format : LogFormat) (events : List Fields) :
    (writable format events).1 <+: events := by
  induction events with
  | nil => exact List.prefix_rfl
  | cons event events ih =>
    rw [writable]
    split
    · exact List.nil_prefix
    · exact List.prefix_cons_inj event |>.mpr ih

theorem emitAll_eq (l : Logger) (rs : List Record) :
    l.emitAll rs = (rs.filter l.writes).map l.event := by
  induction rs with
  | nil => rfl
  | cons r rs ih =>
    rw [Logger.emitAll, List.flatMap_cons, ← Logger.emitAll, ih, Logger.emit, List.filter_cons]
    split <;> rfl

theorem logAll_events (l : Logger) (rs : List Record) (answer : Answer) :
    ∃ logged : List Record, logged.Sublist rs ∧
      (logAll l rs answer).2.1 = logged.map l.event := by
  have written : (logAll l rs answer).2.1 = (writable l.format (l.emitAll rs)).1 := by
    rw [logAll]
    split <;> rename_i ends <;> rw [ends]
  have some := writable_prefix l.format (l.emitAll rs)
  rw [← written, emitAll_eq, List.prefix_map_iff] at some
  obtain ⟨logged, first, events⟩ := some
  exact ⟨logged, first.sublist.trans List.filter_sublist, events⟩

theorem single_events (l : Logger) (a : Action) :
    ∃ rs : List Record, rs.Sublist a.records ∧ (single l a).2.1 = rs.map l.event := by
  cases a with
  | configure level format =>
    refine ⟨[], List.nil_sublist _, ?_⟩
    rw [single]
    split <;> rfl
  | log r =>
    rw [single]
    split
    · exact ⟨[], List.nil_sublist _, rfl⟩
    · exact logAll_events l [r] .done
  | compile schema => exact logAll_events l _ _
  | check titles => exact logAll_events l _ _
  | raise _ | within _ _ | attempt _ => exact ⟨[], List.nil_sublist _, rfl⟩

def Written (site : Site) (step : Step) : Prop :=
  (∃ rs, rs.Sublist site.step.records ∧ List.Forall₂ (Carries site.blocks) rs step.events) ∧
    ∀ event ∈ step.events, Shown event step.format

theorem apart_written {l : Logger} (outside : l.context = []) (sites : List Site) :
    List.Forall₂ Written sites (apart l sites).1 := by
  induction sites generalizing l with
  | nil => exact .nil
  | cons site sites ih =>
    refine .cons ⟨?_, fun event _ => shown event _⟩ (ih outside)
    obtain ⟨rs, logged, events⟩ := single_events (l.inside site.blocks) site.step
    have inside : (l.inside site.blocks).context = contextOf [] site.blocks :=
      congrArg (contextOf · site.blocks) outside
    refine ⟨rs, logged, events ▸ ?_⟩
    rw [List.forall₂_map_right_iff, List.forall₂_same]
    exact fun r _ => event_carries inside r

theorem run_context (l : Logger) (a : Action) : (run l a).2.1.context = l.context := by
  have logger : (run l a).2.1 = _ := (run_follows l [] a).logger
  rw [logger]
  exact apart_context l _

theorem runAll_context (l : Logger) (as : List Action) : (runAll l as).2.1.context = l.context := by
  have logger : (runAll l as).2.1 = _ := (runAll_follows l [] as).logger
  rw [logger]
  exact apart_context l _

/-- Whatever ends an action or a list of them, its end or an error, the context is again what it was
at the start; so it is behind a block. What a script writes is what the steps that are reached write
one by one, each inside nothing but the blocks around it: events that have under a name what the
innermost of these blocks binds it to, and what was logged under all other names. -/
theorem blocks_bind_innermost (threshold : Nat) (format : LogFormat) (as : List Action) :
    (∀ (c : Logger) (a : Action), (run c a).2.1.context = c.context) ∧
      (∀ (c : Logger) (body : List Action), (runAll c body).2.1.context = c.context) ∧
      let l : Logger := ⟨threshold, format, []⟩
      let (trace, _, error) := runAll l as
      let (sites, error') := reachedAll [] as
      error = error' ∧ steps trace = (apart l sites).1 ∧
        List.Forall₂ Written sites (steps trace) := by
  refine ⟨run_context, runAll_context, ?_⟩
  intro l
  obtain ⟨wrote, _, error⟩ := runAll_follows l [] as
  exact ⟨error, wrote, wrote ▸ apart_written rfl _⟩

/-- A block may bind the name of an error in hand. It is neither the level nor the time of writing,
but in what is written as JSON there is nothing under it. -/
theorem error_in_hand_dropped :
    let r : Record := ⟨.info, "x", []⟩
    let fields : Fields := [("exc_info", .bool false)]
    let as : List Action := [.configure "DEBUG" "json", .within fields [.log r]]
    (reachedAll [] as).1 = [⟨[], .configure "DEBUG" "json"⟩, ⟨[fields], .log r⟩] ∧
      ∃ event, steps (runAll .default as).1 = [⟨.done, [], .json⟩, ⟨.done, [event], .json⟩] ∧
        innermost [fields] "exc_info" = some (.bool false) ∧
        "exc_info" ≠ "level" ∧ "exc_info" ≠ "timestamp" ∧
        ∀ time, ∃ entries, jsonEvent time event = .object entries ∧
          Entries.get? entries "exc_info" = none := by
  intro r fields as
  exact ⟨rfl, _, rfl, rfl, by decide, by decide, fun time => ⟨_, rfl, rfl⟩⟩

end Action
end Columnar.Log
