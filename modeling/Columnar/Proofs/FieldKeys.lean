import Columnar.Proofs.Flattening

namespace Columnar.Column
open Value

variable {c : Column}

/-- The fields alone decide what is written under their names, and the bag decides the rest. -/
structure FieldsDecide (c : Column) : Prop where
  title : ∀ v, (.str "title", v) ∈ c.dump ↔ v = .str c.title
  type : ∀ v, (.str "type", v) ∈ c.dump ↔
    ∃ u, c.type = some u ∧ u.names ≠ [] ∧ u.encode = some v
  description : ∀ v, (.str "description", v) ∈ c.dump ↔
    c.description ≠ "" ∧ v = .str c.description
  keywords : ∀ k v, isField k = false → ((k, v) ∈ c.dump ↔ (k, v) ∈ c.bag)

theorem fields_named (c : Column) : c.fieldEntries.Named :=
  (fields_json (fun _ => trivial) c : Value.IsJson (fun _ => True) _).named

theorem mem_dump {e : Value × Value} :
    e ∈ c.dump ↔ e ∈ c.fieldEntries ∨ e ∈ c.bag ∧ ∀ f ∈ c.fieldEntries, f.1 ≠ e.1 := by
  rw [dump, List.mem_append, List.mem_filter, bag]
  refine or_congr_right (and_congr_right fun _ => ?_)
  rw [Bool.not_eq_true', List.any_eq_false]
  refine forall₂_congr fun f member => not_congr ?_
  obtain ⟨name, text, _⟩ := fieldEntries_fields c f member
  rw [text, str_beq, beq_iff_eq, str?_eq_some, eq_comm]

theorem mem_dump_name {name : Text} {v : Value} : (.str name, v) ∈ c.dump ↔
    c.fieldEntries.get? name = some v ∨
      c.fieldEntries.get? name = none ∧ (.str name, v) ∈ c.bag := by
  rw [mem_dump, Entries.get?_eq_some c.fields_named, Entries.get?_eq_none, and_comm]

theorem mem_dump_title {v : Value} : (.str "title", v) ∈ c.dump ↔ v = .str c.title := by
  rw [mem_dump_name, fields_get?_title]
  simp [eq_comm]

theorem encode_named {u : TypeUnion} {v : Value} (written : u.encode = some v) : u.names ≠ [] := by
  rintro empty
  have none := TypeUnion.encode_none.mpr (List.isEmpty_iff.mpr empty)
  rw [none] at written
  cases written

theorem mem_dump_type {v : Value} : (.str "type", v) ∈ c.dump ↔
    (∃ u, c.type = some u ∧ u.names ≠ [] ∧ u.encode = some v) ∨
      c.lacksUnion = true ∧ (.str "type", v) ∈ c.bag := by
  rw [mem_dump_name, fields_get?_type, lacksUnion_eq, Option.isNone_iff_eq_none,
    Option.bind_eq_some_iff]
  refine or_congr_left (exists_congr fun u => and_congr_right fun _ => ?_)
  exact ⟨fun written => ⟨encode_named written, written⟩, And.right⟩

theorem mem_dump_description {v : Value} : (.str "description", v) ∈ c.dump ↔
    (c.description ≠ "" ∧ v = .str c.description) ∨
      c.description = "" ∧ (.str "description", v) ∈ c.bag := by
  rw [mem_dump_name, fields_get?_description]
  split
  · rename_i empty
    simp [empty]
  · rename_i written
    simp [written, eq_comm]

theorem mem_dump_keyword {k v : Value} (keyword : isField k = false) :
    (k, v) ∈ c.dump ↔ (k, v) ∈ c.bag := by
  have apart : ∀ f ∈ c.fieldEntries, f.1 ≠ k := by
    intro f member same
    obtain ⟨_, _, field⟩ := fieldEntries_fields c f member
    rw [same, keyword] at field
    cases field
  rw [mem_dump, and_iff_left apart, or_iff_right]
  exact fun member => apart _ member rfl

def Apart (es : Entries) : Prop := es.Pairwise fun e f => (e.1 == f.1) = false

theorem named_apart {es : Entries} (named : es.Named) : Apart es := by
  refine (List.pairwise_map.mp named.distinct).imp_of_mem fun {e f} member _ differ => ?_
  obtain ⟨name, text⟩ := str_of_isStr (named.texts e member)
  rw [text] at differ
  rw [text, str_beq, beq_eq_false_iff_ne, Ne, str?_eq_some]
  exact differ ∘ Eq.symm

theorem dump_apart (apart : Apart c.bag) : Apart c.dump := by
  rw [dump, Apart, List.pairwise_append]
  refine ⟨named_apart c.fields_named, apart.sublist List.filter_sublist, fun f field e keyword => ?_⟩
  have free := (List.mem_filter.mp keyword).2
  rw [Bool.not_eq_true', List.any_eq_false] at free
  exact Bool.eq_false_iff.mpr (free f field)

theorem fieldsDecide_iff : c.FieldsDecide ↔
    (c.lacksUnion = true → ∀ v, (.str "type", v) ∉ c.bag) ∧
      (c.description = "" → ∀ v, (.str "description", v) ∉ c.bag) := by
  constructor
  · intro decide
    refine ⟨fun lacks v member => ?_, fun empty v member => ?_⟩
    · obtain ⟨u, set, named, _⟩ := (decide.type v).mp (mem_dump_type.mpr (.inr ⟨lacks, member⟩))
      rw [lacksUnion, set, Option.all_some, TypeUnion.isEmpty, List.isEmpty_iff] at lacks
      exact named lacks
    · have written := (decide.description v).mp (mem_dump_description.mpr (.inr ⟨empty, member⟩))
      exact written.1 empty
  · rintro ⟨type, description⟩
    refine ⟨fun _ => mem_dump_title, fun v => ?_, fun v => ?_, fun _ _ => mem_dump_keyword⟩
    · rw [mem_dump_type, or_iff_left]
      rintro ⟨lacks, member⟩
      exact type lacks v member
    · rw [mem_dump_description, or_iff_left]
      rintro ⟨empty, member⟩
      exact description empty v member

/-- What stands under each name in the plain form: of the fields what is written of them; under the
name of a field that is left out, what the bag holds there; and all other keywords. No key stands
twice. The fields alone decide under their names just if the bag does not use those left out. -/
theorem dump_iff_field_or_keyword (c : Column) :
    (∀ v, (.str "title", v) ∈ c.dump ↔ v = .str c.title) ∧
    (∀ v, (.str "type", v) ∈ c.dump ↔
      (∃ u, c.type = some u ∧ u.names ≠ [] ∧ u.encode = some v) ∨
        c.lacksUnion = true ∧ (.str "type", v) ∈ c.bag) ∧
    (∀ v, (.str "description", v) ∈ c.dump ↔
      (c.description ≠ "" ∧ v = .str c.description) ∨
        c.description = "" ∧ (.str "description", v) ∈ c.bag) ∧
    (∀ k v, isField k = false → ((k, v) ∈ c.dump ↔ (k, v) ∈ c.bag)) ∧
    (Apart c.bag → Apart c.dump) ∧
    (c.FieldsDecide ↔ (c.lacksUnion = true → ∀ v, (.str "type", v) ∉ c.bag) ∧
      (c.description = "" → ∀ v, (.str "description", v) ∉ c.bag)) :=
  ⟨fun _ => mem_dump_title, fun _ => mem_dump_type, fun _ => mem_dump_description,
    fun _ _ => mem_dump_keyword, dump_apart, fieldsDecide_iff⟩

theorem dump_iff_field_or_keyword_shadowed :
    let bag : Entries := [(.str "title", .str "other"), (.null, .int 1)]
    let c : Column := ⟨"a", some ⟨["string"]⟩, "", some bag⟩
    isField .null = false ∧ (.null, .int 1) ∈ c.dump ∧ (.str "title", .str "other") ∉ c.dump ∧
      Apart c.bag ∧ Apart c.dump ∧ c.FieldsDecide := by
  intro bag c
  obtain ⟨title, _, _, keywords, apart, decide⟩ := dump_iff_field_or_keyword c
  have keyword : isField .null = false := rfl
  have two : Apart c.bag := by simp [Apart, c, bag, Column.bag, str?]
  refine ⟨keyword, (keywords _ _ keyword).mpr (by simp [c, bag, Column.bag]), ?_, two, apart two, ?_⟩
  · rw [title]
    simp [c]
  · exact decide.mpr ⟨by simp [c, lacksUnion, TypeUnion.isEmpty], by simp [c, bag, Column.bag]⟩

/-- A type in the bag stands in for the type that the column has not. -/
theorem keyword_stands_in :
    ¬ FieldsDecide ⟨"a", none, "", some [(.str "type", .str "number")]⟩ := by
  intro fields
  obtain ⟨u, set, _⟩ := (fields.type (.str "number")).mp
    (mem_dump_type.mpr (.inr ⟨rfl, List.mem_singleton_self _⟩))
  cases set

end Columnar.Column
