import Columnar.Log.Line
import Columnar.Proofs.Documents
import Mathlib

namespace Columnar.Log

namespace Fields

/-- The value of a name among the fields of a block, the last one if the name is bound there
repeatedly. -/
def bound? (fs : Fields) (name : String) : Option Value := fs.reverse.lookup name

def Distinct (fs : Fields) : Prop := (fs.map Prod.fst).Nodup

theorem distinct_nil : Distinct [] := List.nodup_nil

theorem lookup_first (k : String) (v : Value) (fs : Fields) (name : String) :
    List.lookup name ((k, v) :: fs) = if name = k then some v else fs.lookup name := by
  rw [List.lookup_cons]
  by_cases same : name = k
  · rw [if_pos same, beq_iff_eq.mpr same]
  · rw [if_neg same, beq_false_of_ne same]

theorem lookup_set (fs : Fields) (k : String) (v : Value) (name : String) :
    (fs.set k v).lookup name = if name = k then some v else fs.lookup name := by
  induction fs with
  | nil => exact lookup_first k v [] name
  | cons f fs ih =>
    obtain ⟨k', v'⟩ := f
    rw [set]
    split
    · rename_i same
      rw [lookup_first, lookup_first, same]
      split <;> rfl
    · rename_i other
      rw [lookup_first, lookup_first, ih]
      grind

theorem update_cons (fs : Fields) (f : String × Value) (fs' : Fields) :
    fs.update (f :: fs') = (fs.set f.1 f.2).update fs' := rfl

theorem bound_cons (k : String) (v : Value) (fs : Fields) (name : String) :
    bound? ((k, v) :: fs) name = (fs.bound? name).or (if name = k then some v else none) := by
  rw [bound?, bound?, List.reverse_cons, List.lookup_append, lookup_first, List.lookup_nil]

theorem lookup_update (fs fs' : Fields) (name : String) :
    (fs.update fs').lookup name = (fs'.bound? name).or (fs.lookup name) := by
  induction fs' generalizing fs with
  | nil => rfl
  | cons f fs' ih =>
    rw [update_cons, ih, lookup_set, bound_cons, Option.or_assoc]
    split <;> rfl

theorem set_names (fs : Fields) (k : String) (v : Value) : (fs.set k v).map Prod.fst =
    if k ∈ fs.map Prod.fst then fs.map Prod.fst else fs.map Prod.fst ++ [k] := by
  induction fs with
  | nil => rfl
  | cons f fs ih =>
    obtain ⟨k', v'⟩ := f
    rw [set]
    split
    · rename_i same
      simp [same]
    · rename_i other
      rw [List.map_cons, ih]
      by_cases later : k ∈ fs.map Prod.fst <;> simp [later, Ne.symm other]

theorem distinct_set {fs : Fields} (distinct : fs.Distinct) (k : String) (v : Value) :
    (fs.set k v).Distinct := by
  rw [Distinct, set_names]
  split
  · exact distinct
  · rename_i new
    exact List.nodup_append.mpr ⟨distinct, List.nodup_singleton k, by grind⟩

theorem distinct_update {fs : Fields} (distinct : fs.Distinct) (fs' : Fields) :
    (fs.update fs').Distinct :=
  List.foldlRecOn fs' _ distinct fun _ kept f _ => distinct_set kept f.1 f.2

theorem bound_distinct {fs : Fields} (distinct : fs.Distinct) (name : String) :
    fs.bound? name = fs.lookup name := by
  induction fs with
  | nil => rfl
  | cons f fs ih =>
    obtain ⟨new, rest⟩ := List.nodup_cons.mp distinct
    rw [bound_cons, lookup_first, ih rest]
    split
    · rename_i same
      have absent : fs.lookup name = none := by
        rw [List.lookup_eq_none_iff]
        grind
      rw [absent, Option.none_or]
    · rw [Option.or_none]

end Fields

/-- The value of a name in the innermost of the blocks that bind it. Blocks are listed from the
inside outwards. -/
def innermost (blocks : List Fields) (name : String) : Option Value :=
  blocks.findSome? fun fields => fields.bound? name

theorem innermost_cons (fields : Fields) (outer : List Fields) (name : String) :
    innermost (fields :: outer) name = (fields.bound? name).or (innermost outer name) := by
  rw [innermost, List.findSome?_cons, ← innermost]
  cases fields.bound? name <;> rfl

def contextOf (context : Fields) : List Fields → Fields
  | [] => context
  | fields :: outer => (contextOf context outer).update fields

theorem lookup_contextOf (context : Fields) (blocks : List Fields) (name : String) :
    (contextOf context blocks).lookup name = (innermost blocks name).or (context.lookup name) := by
  induction blocks with
  | nil => rfl
  | cons fields outer ih =>
    rw [contextOf, Fields.lookup_update, ih, innermost_cons, Option.or_assoc]

theorem distinct_contextOf {context : Fields} (distinct : context.Distinct) (blocks : List Fields) :
    (contextOf context blocks).Distinct := by
  induction blocks with
  | nil => exact distinct
  | cons fields outer ih => exact Fields.distinct_update ih fields

def Record.own (r : Record) (name : String) : Option Value :=
  if name = "event" then some (.str r.event) else r.fields.lookup name

theorem event_lookup {l : Logger} (distinct : l.context.Distinct) (r : Record) (name : String) :
    (l.event r).lookup name = if name = "level" then some (.str r.level.name)
      else (l.context.lookup name).or (r.own name) := by
  rw [Logger.event, Fields.lookup_set, Fields.lookup_update, Fields.lookup_set,
    Fields.bound_distinct distinct]
  rfl

theorem event_distinct {r : Record} (distinct : r.fields.Distinct) (l : Logger) :
    (l.event r).Distinct :=
  Fields.distinct_set (Fields.distinct_update (Fields.distinct_set distinct _ _) _) _ _

/-- The event of a record inside blocks: it has the level of the record, under a name that a block
binds what the innermost one binds it to, and under any other what the record itself has. -/
structure Carries (blocks : List Fields) (r : Record) (event : Fields) : Prop where
  level : event.lookup "level" = some (.str r.level.name)
  bound : ∀ name v, name ≠ "level" → innermost blocks name = some v → event.lookup name = some v
  free : ∀ name, name ≠ "level" → innermost blocks name = none → event.lookup name = r.own name
  distinct : r.fields.Distinct → event.Distinct

theorem event_carries {l : Logger} {blocks : List Fields} (inside : l.context = contextOf [] blocks)
    (r : Record) : Carries blocks r (l.event r) := by
  have distinct : l.context.Distinct :=
    inside ▸ distinct_contextOf Fields.distinct_nil blocks
  have found (name : String) (other : name ≠ "level") :
      (l.event r).lookup name = (innermost blocks name).or (r.own name) := by
    rw [event_lookup distinct, if_neg other, inside, lookup_contextOf, List.lookup_nil,
      Option.or_none]
  exact {
    level := by rw [event_lookup distinct, if_pos rfl]
    bound := fun name v other bound => by rw [found name other, bound, Option.some_or]
    free := fun name other free => by rw [found name other, free, Option.none_or]
    distinct := fun given => event_distinct given l }

/-! What is written -/

def lineItem (name : String) (v : Value) : String :=
  match columns.find? (·.field == name) with
  | some c => (c.render v.shown).escaped
  | none => name ++ "=" ++ fieldText v

/-- What is written of an event shows its fields: on the console in the line, up to blanks at its
end, or below it, unless there is nothing to show; in a JSON object all of them in their plain form,
but the time of writing for a time. An error in hand is in neither. -/
def Shown (event : Fields) : LogFormat → Prop
  | .console => ∀ name v, event.lookup name = some v → name ≠ errorInHand → ∃ before behind,
      if name ∈ blocks then v ≠ .null → below event = before ++ ("\n" ++ v.shown.escaped) ++ behind
      else consoleLine event =
        dropEndBlanks (before ++ lineItem name v ++ behind) ++ below event ++ "\n"
  | .json => ∀ time, ∃ entries, jsonEvent time event = .object entries ∧ ∀ name : String,
      Entries.get? entries name = if name = "timestamp" then some (plain time)
        else if name = errorInHand then none else (event.lookup name).map plain

theorem mem_intercalate (sep : String) {t : String} {ts : List String} (member : t ∈ ts) :
    ∃ before behind, sep.intercalate ts = before ++ t ++ behind := by
  induction ts with
  | nil => cases member
  | cons u us ih =>
    by_cases last : us = []
    · subst last
      cases List.mem_singleton.mp member
      exact ⟨"", "", by simp⟩
    · rw [String.intercalate_cons_of_ne_nil last]
      obtain rfl | later := List.mem_cons.mp member
      · exact ⟨"", sep ++ sep.intercalate us, by simp [String.append_assoc]⟩
      · obtain ⟨before, behind, joined⟩ := ih later
        exact ⟨u ++ sep ++ before, behind, by simp [joined, String.append_assoc]⟩

theorem mem_line {event : Fields} {item : String} {front named : List String}
    (line : consoleLine event = dropEndBlanks
      (" ".intercalate ((front ++ named).filter (· ≠ ""))) ++ below event ++ "\n")
    (member : item ∈ front ++ named) : ∃ before behind, consoleLine event =
      dropEndBlanks (before ++ item ++ behind) ++ below event ++ "\n" := by
  rw [line]
  by_cases empty : item = ""
  · exact ⟨"", _, by rw [empty, String.empty_append, String.empty_append]⟩
  · have kept : item ∈ (front ++ named).filter (· ≠ "") :=
      List.mem_filter.mpr ⟨member, decide_eq_true empty⟩
    obtain ⟨before, behind, joined⟩ := mem_intercalate " " kept
    exact ⟨before, behind, by rw [joined]⟩

theorem shown_line {event : Fields} {name : String} {v : Value}
    (found : event.lookup name = some v) (error : name ≠ errorInHand) (inLine : name ∉ blocks) :
    ∃ before behind, consoleLine event =
      dropEndBlanks (before ++ lineItem name v ++ behind) ++ below event ++ "\n" := by
  refine mem_line rfl ?_
  rw [List.mem_append, lineItem]
  split
  · rename_i c column
    have own : c.field = name := by simpa using List.find?_some column
    refine Or.inl (List.mem_filterMap.mpr ⟨c, List.mem_of_find?_eq_some column, ?_⟩)
    rw [own, found, Option.map_some]
  · rename_i free
    have named : isNamed name = true := by
      rw [List.find?_eq_none] at free
      simpa [isNamed, error, inLine] using free
    obtain ⟨_, _, split, _⟩ := List.lookup_eq_some_iff.mp found
    have member : (name, v) ∈ event := split ▸ List.mem_append_right _ List.mem_cons_self
    refine Or.inr (List.mem_map.mpr ⟨(name, v), List.mem_mergeSort.mpr ?_, rfl⟩)
    exact List.mem_filter.mpr ⟨member, named⟩

theorem shown_below {event : Fields} {name : String} {v : Value}
    (found : event.lookup name = some v) (block : name ∈ blocks) (some : v ≠ .null) :
    ∃ before behind, below event = before ++ ("\n" ++ v.shown.escaped) ++ behind := by
  have text : blockText event name = Option.some ("\n" ++ v.shown.escaped) := by
    rw [blockText, found]
    cases v with
    | null => exact absurd rfl some
    | _ => rfl
  obtain rfl | rfl : name = "stack" ∨ name = "exception" := by simpa [blocks] using block
  · let error := blockText event "exception"
    let announced := !((event.lookup errorInHand).getD .null).isBlank
    exact ⟨"", (if announced || error.isSome then divider else "") ++ error.getD "",
      by simp [below, blocks, text, error, announced, String.append_assoc]⟩
  · cases stack : blockText event "stack" with
    | none => exact ⟨"", "", by simp [below, blocks, text, stack]⟩
    | some t => exact ⟨t ++ divider, "", by simp [below, blocks, text, stack, String.append_assoc]⟩

theorem shown_console (event : Fields) : Shown event .console := by
  intro name v found error
  by_cases block : name ∈ blocks
  · simp only [if_pos block]
    by_cases null : v = .null
    · exact ⟨"", "", fun some => absurd null some⟩
    · obtain ⟨before, behind, shown⟩ := shown_below found block null
      exact ⟨before, behind, fun _ => shown⟩
  · simp only [if_neg block]
    exact shown_line found error block

theorem get?_plain (fs : Fields) (name : String) :
    Entries.get? (fs.map fun (k, v) => (.str k, plain v)) name = (fs.lookup name).map plain := by
  induction fs with
  | nil => rfl
  | cons f fs ih =>
    rw [List.map_cons, Entries.get?_cons, Fields.lookup_first, ih]
    simp only [Text.whole.injEq]
    by_cases same : f.1 = name
    · rw [if_pos same, if_pos same.symm, Option.map_some]
    · rw [if_neg same, if_neg (Ne.symm same)]

theorem lookup_withoutError (event : Fields) (name : String) : (withoutError event).lookup name =
    if name = errorInHand then none else event.lookup name := by
  rw [withoutError]
  induction event with
  | nil => rw [List.filter_nil, List.lookup_nil, ite_self]
  | cons f fs ih =>
    rw [List.filter_cons, Fields.lookup_first]
    split
    · rw [Fields.lookup_first, ih]
      grind
    · rw [ih]
      grind

theorem shown_json (event : Fields) : Shown event .json := by
  intro time
  refine ⟨_, rfl, fun name => ?_⟩
  rw [get?_plain, Fields.lookup_set, lookup_withoutError]
  split
  · rfl
  · split <;> rfl

theorem shown (event : Fields) : ∀ format, Shown event format
  | .console => shown_console event
  | .json => shown_json event

end Columnar.Log
