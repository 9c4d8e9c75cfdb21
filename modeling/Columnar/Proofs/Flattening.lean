import Columnar.Column.Decode
import Columnar.Proofs.Documents
import Columnar.Schema.Compile

namespace Columnar

namespace TypeUnion

theorem encode_none {u : TypeUnion} : u.encode = none ↔ u.isEmpty = true := by
  obtain ⟨names⟩ := u
  match names with
  | [] | [_] | _ :: _ :: _ => simp [encode, isEmpty]

theorem encode_some {u : TypeUnion} {v : Value} (h : u.encode = some v) :
    (∃ name, u = ⟨[name]⟩ ∧ v = .str name) ∨ v = .list (u.names.map .str) := by
  obtain ⟨names⟩ := u
  match names with
  | [] => cases h
  | [name] => cases h; exact .inl ⟨name, rfl, rfl⟩
  | _ :: _ :: _ => cases h; exact .inr rfl

theorem encode_json {allowed : Value → Prop} {u : TypeUnion} {v : Value}
    (h : u.encode = some v) (texts : ∀ name ∈ u.names, allowed (.str name)) : v.IsJson allowed := by
  rcases encode_some h with ⟨name, rfl, rfl⟩ | rfl
  · exact .scalar rfl (texts name List.mem_cons_self)
  · apply Value.IsJson.list
    intro v hv
    obtain ⟨name, member, rfl⟩ := List.mem_map.mp hv
    exact .scalar rfl (texts name member)

end TypeUnion

namespace Column

def keywords (es : Entries) : Entries := es.filter fun e => !isField e.1

theorem bagOf_eq (es : Entries) :
    Schema.bagOf es = if (keywords es).isEmpty then none else some (keywords es) := rfl

theorem bagOf_some {es fs : Entries} (bag : Schema.bagOf es = some fs) :
    fs = keywords es ∧ fs ≠ [] := by
  rw [bagOf_eq] at bag
  split at bag
  · cases bag
  · rename_i nonempty
    cases bag
    exact ⟨rfl, by simpa using nonempty⟩

theorem keywords_named {es : Entries} (named : es.Named) : (keywords es).Named :=
  Entries.named_sublist named List.filter_sublist

theorem keywords_get? (es : Entries) (name : Text) : (keywords es).get? name =
    if isField (.str name) then none else es.get? name := by
  split
  · rename_i field
    rw [Entries.get?_eq_none]
    intro e he same
    have keyword := (List.mem_filter.mp he).2
    rw [same, field] at keyword
    cases keyword
  · rename_i keyword
    apply Entries.get?_filter
    intro e _ same
    simp [same, keyword]

def bag (c : Column) : Entries := c.validation.getD []

/-- Whether the plain form leaves the type out. -/
def lacksUnion (c : Column) : Bool := c.type.all TypeUnion.isEmpty

def HoldsJson (allowed : Value → Prop) (c : Column) : Prop :=
  ∀ es ∈ c.validation, Value.IsJson allowed (.object es)

/-- The bag is unset, or holds something and no name of a field. -/
def KeepsBag (c : Column) : Prop :=
  ∀ es ∈ c.validation, es ≠ [] ∧ ∀ e ∈ es, isField e.1 = false

def FieldFree (c : Column) : Prop := ∀ e ∈ c.bag, isField e.1 = false

theorem bag_json {allowed : Value → Prop} {c : Column} (json : c.HoldsJson allowed) :
    Value.IsJson allowed (.object c.bag) := by
  cases h : c.validation with
  | none => simp [bag, h]
  | some es => simpa [bag, h] using json es h

theorem lacksUnion_eq (c : Column) : c.lacksUnion = (c.type.bind TypeUnion.encode).isNone := by
  rw [Bool.eq_iff_iff]
  cases h : c.type with
  | none => simp [lacksUnion, h]
  | some u => simp [lacksUnion, h, TypeUnion.encode_none]

theorem fieldEntries_fields (c : Column) :
    ∀ f ∈ c.fieldEntries, ∃ s, f.1 = .str s ∧ isField f.1 = true := by
  intro f hf
  simp only [fieldEntries, typeEntry, descriptionEntry, List.mem_cons, List.mem_append] at hf
  rcases hf with rfl | hf | hf
  · exact ⟨"title", rfl, rfl⟩
  · split at hf
    · cases List.mem_singleton.mp hf; exact ⟨"type", rfl, rfl⟩
    · cases hf
  · split at hf
    · cases hf
    · cases List.mem_singleton.mp hf; exact ⟨"description", rfl, rfl⟩

/-- A keyword shows exactly where no field is written under its name. -/
theorem dump_get? (c : Column) (name : Text) :
    c.dump.get? name = (c.fieldEntries.get? name).or (c.bag.get? name) := by
  rw [dump, Entries.get?_append]
  cases h : c.fieldEntries.get? name with
  | some v => rfl
  | none =>
    have absent := Entries.get?_eq_none.mp h
    rw [Option.none_or, Option.none_or]
    apply Entries.get?_filter
    intro e _ he
    simp only [he, Value.beq_str, Bool.not_eq_true', List.any_eq_false, beq_iff_eq,
      Value.str?_eq_some]
    exact absent

theorem fields_get?_title (c : Column) : c.fieldEntries.get? "title" = some (.str c.title) := by
  simp [fieldEntries, Entries.get?_cons]

theorem fields_get?_type (c : Column) :
    c.fieldEntries.get? "type" = c.type.bind TypeUnion.encode := by
  rw [fieldEntries, Entries.get?_cons, if_neg (by decide), Entries.get?_append]
  have description : c.descriptionEntry.get? "type" = none := by
    unfold descriptionEntry
    split <;> simp [Entries.get?_cons]
  rw [description, Option.or_none, typeEntry]
  cases c.type.bind TypeUnion.encode <;> simp [Entries.get?_cons]

theorem fields_get?_description (c : Column) : c.fieldEntries.get? "description" =
    if c.description = "" then none else some (.str c.description) := by
  rw [fieldEntries, Entries.get?_cons, if_neg (by decide), Entries.get?_append]
  have type : c.typeEntry.get? "description" = none := by
    unfold typeEntry
    split <;> simp [Entries.get?_cons]
  rw [type, Option.none_or, descriptionEntry]
  split <;> simp [Entries.get?_cons]

theorem dump_title (c : Column) : c.dump.get? "title" = some (.str c.title) := by
  rw [dump_get?, fields_get?_title, Option.some_or]

theorem dump_type (c : Column) :
    c.dump.get? "type" = (c.type.bind TypeUnion.encode).or (c.bag.get? "type") := by
  rw [dump_get?, fields_get?_type]

theorem dump_description (c : Column) : c.dump.get? "description" =
    if c.description = "" then c.bag.get? "description" else some (.str c.description) := by
  rw [dump_get?, fields_get?_description]
  split <;> rfl

theorem dump_keywords (c : Column) :
    c.dump.filter (fun e => !isField e.1) = c.bag.filter fun e => !isField e.1 := by
  have fields : c.fieldEntries.filter (fun e => !isField e.1) = [] := by
    rw [List.filter_eq_nil_iff]
    intro f hf
    obtain ⟨_, _, field⟩ := fieldEntries_fields c f hf
    simp [field]
  rw [dump, List.filter_append, fields, List.nil_append, List.filter_filter]
  apply List.filter_congr
  intro e _
  cases named : isField e.1 with
  | true => rfl
  | false =>
    have free : (c.fieldEntries.any fun f => f.1 == e.1) = false := by
      rw [List.any_eq_false]
      intro f hf same
      obtain ⟨s, hs, field⟩ := fieldEntries_fields c f hf
      rw [hs, Value.str_beq, beq_iff_eq, Value.str?_eq_some] at same
      rw [hs, ← same, named] at field
      cases field
    rw [free]
    rfl

theorem keeps_free {c : Column} (keeps : c.KeepsBag) : c.FieldFree := by
  intro e he
  cases h : c.validation with
  | none => simp [bag, h] at he
  | some es => exact (keeps es h).2 e (by simpa [bag, h] using he)

theorem free_absent {c : Column} (free : c.FieldFree) (name : Text)
    (field : isField (.str name) = true) : c.bag.get? name = none := by
  rw [Entries.get?_eq_none]
  intro e he same
  have none := free e he
  rw [same, field] at none
  cases none

theorem free_filter {c : Column} (free : c.FieldFree) :
    c.bag.filter (fun e => !isField e.1) = c.bag := by
  rw [List.filter_eq_self]
  intro e he
  simp [free e he]

theorem keeps_bag {c : Column} (keeps : c.KeepsBag) : Schema.bagOf c.bag = c.validation := by
  rw [Schema.bagOf, free_filter (keeps_free keeps)]
  cases h : c.validation with
  | none => simp [bag, h]
  | some es => simp [bag, h, (keeps es h).1]

theorem bagOf_getD (es : Entries) :
    (Schema.bagOf es).getD [] = es.filter fun e => !isField e.1 := by
  simp only [Schema.bagOf]
  split
  · rename_i empty
    simpa using (List.isEmpty_iff.mp empty).symm
  · rfl

theorem bagOf_keeps {es fs : Entries} (h : Schema.bagOf es = some fs) :
    fs ≠ [] ∧ ∀ e ∈ fs, isField e.1 = false := by
  obtain ⟨rfl, nonempty⟩ := bagOf_some h
  exact ⟨nonempty, fun e he => by simpa using (List.mem_filter.mp he).2⟩

theorem fields_json {allowed : Value → Prop} (texts : ∀ s, allowed (.str s)) (c : Column) :
    Value.IsJson allowed (.object c.fieldEntries) := by
  refine .object ⟨fun f hf => ?_, ?_⟩ fun f hf => ?_
  · obtain ⟨s, hs, _⟩ := fieldEntries_fields c f hf
    rw [hs]
    rfl
  · unfold fieldEntries typeEntry descriptionEntry
    split <;> split <;> simp
  · simp only [fieldEntries, typeEntry, descriptionEntry, List.mem_cons, List.mem_append] at hf
    rcases hf with rfl | hf | hf
    · exact .scalar rfl (texts _)
    · split at hf
      · rename_i v encoded
        obtain ⟨u, _, hu⟩ := Option.bind_eq_some_iff.mp encoded
        cases List.mem_singleton.mp hf
        exact TypeUnion.encode_json hu fun name _ => texts name
      · cases hf
    · split at hf
      · cases hf
      · cases List.mem_singleton.mp hf
        exact .scalar rfl (texts _)

/-- The plain form is a document again: a keyword already written as a field is left out, so no name
comes twice. -/
theorem toValue_json {allowed : Value → Prop} (texts : ∀ s, allowed (.str s)) {c : Column}
    (json : c.HoldsJson allowed) : c.toValue.IsJson allowed := by
  have fields := fields_json texts c
  have kept := (bag_json json).sublist (List.filter_sublist (p := fun e =>
    !(c.fieldEntries.any fun f => f.1 == e.1)))
  refine .object ⟨fun e he => ?_, ?_⟩ fun e he => ?_
  · rcases List.mem_append.mp he with he | he
    · exact fields.named.texts e he
    · exact kept.named.texts e he
  · rw [dump, List.map_append, List.nodup_append]
    refine ⟨fields.named.distinct, kept.named.distinct, ?_⟩
    intro k field _ keyword differ
    obtain ⟨f, hf, name⟩ := List.mem_map.mp field
    obtain ⟨e, he, same⟩ := List.mem_map.mp keyword
    obtain ⟨s, hs, _⟩ := fieldEntries_fields c f hf
    have apart := (List.mem_filter.mp he).2
    simp only [Bool.not_eq_true', List.any_eq_false] at apart
    exact apart f hf (by simp [same, ← differ, ← name, hs, Value.str?])
  · rcases List.mem_append.mp he with he | he
    · exact fields.values e he
    · exact kept.values e he

theorem equal_self {c : Column} (json : c.HoldsJson Value.NotNaN) (sameNaN : Bool) :
    c.equal sameNaN c = true := by
  have bags : bagsEqual sameNaN c.validation c.validation = true := by
    cases h : c.validation with
    | none => rfl
    | some es => exact Value.equal_self (json es h) sameNaN
  simp [equal, bags]

theorem bag_equal_iff {c : Column} (json : c.HoldsJson Value.NotNaN) (sameNaN : Bool) :
    bagsEqual sameNaN (Schema.bagOf c.bag) c.validation = true ↔ c.KeepsBag := by
  constructor
  · intro same es h
    have given : c.validation = some es := h
    simp only [bag, given, Option.getD_some] at same
    cases kept : Schema.bagOf es with
    | none => simp [kept, bagsEqual] at same
    | some fs =>
      simp only [kept, bagsEqual, Value.equal, Bool.and_eq_true, beq_iff_eq] at same
      simp only [Schema.bagOf] at kept
      split at kept
      · cases kept
      · rename_i nonempty
        cases kept
        have all := List.length_filter_eq_length_iff.mp same.1
        refine ⟨?_, fun e he => by simpa using all e he⟩
        rintro rfl
        simp at nonempty
  · intro keeps
    have same := equal_self json sameNaN
    simp only [equal, Bool.and_eq_true] at same
    rw [keeps_bag keeps]
    exact same.2

end Column

namespace Columns

theorem equal_map_iff (f : Column → Column) (sameNaN : Bool) (cs : Columns) :
    equal sameNaN (cs.map f) cs = true ↔ ∀ c ∈ cs, (f c).equal sameNaN c = true := by
  induction cs with
  | nil => simp [equal]
  | cons c cs ih => simp [equal, ih]

theorem equal_self {cs : Columns} (json : ∀ c ∈ cs, c.HoldsJson Value.NotNaN) (sameNaN : Bool) :
    cs.equal sameNaN cs = true := by
  have whole := (equal_map_iff id sameNaN cs).mpr fun c hc => Column.equal_self (json c hc) sameNaN
  rwa [List.map_id] at whole

end Columns
end Columnar
