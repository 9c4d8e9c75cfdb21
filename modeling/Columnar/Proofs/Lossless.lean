import Columnar.Proofs.Congruence

namespace Columnar

namespace Value

variable {sameNaN : Bool}

theorem texts_same {names : List Text} {ws : List Value}
    (same : List.Forall₂ (Same sameNaN) (names.map .str) ws) : ws = names.map .str := by
  have each := List.forall₂_map_left_iff.mp same
  clear same
  induction each with
  | nil => rfl
  | cons head _ ih => rw [same_str head, ih, List.map_cons]

theorem same_encoded {u : TypeUnion} {v w : Value} (written : u.encode = some v) :
    Same sameNaN v w ↔ w = v := by
  constructor
  · intro same
    rcases TypeUnion.encode_some written with ⟨name, _, rfl⟩ | rfl
    · exact same_str same
    · obtain ⟨ws, rfl⟩ := same_list same
      rw [texts_same (lists_same_iff.mp same)]
  · rintro rfl
    exact equal_self (TypeUnion.encode_json written (by simp [NotNaN])) sameNaN

theorem rel_some_str {s : Text} {w? : Option Value} :
    Option.Rel (Same sameNaN) (some (.str s)) w? ↔ w? = some (.str s) := by
  constructor
  · intro same
    exact (rel_str same).mp rfl
  · rintro rfl
    exact .some (by simp [Same, equal])

end Value

namespace Column
open Value

variable {sameNaN : Bool}

/-- An object as a column is written: a title, a type of one name or of several, and perhaps a
description that is not empty; its other entries are keywords. -/
structure PlainForm (es : Entries) : Prop where
  title : ∃ t, es.get? "title" = some (.str t)
  type : (∃ t, es.get? "type" = some (.str t)) ∨
    ∃ names : List Text, 2 ≤ names.length ∧ es.get? "type" = some (.list (names.map .str))
  description : ∀ v, es.get? "description" = some v → ∃ d, v = .str d ∧ d ≠ ""

theorem encoded_iff {v? : Option Value} : (∃ u v, TypeUnion.encode u = some v ∧ v? = some v) ↔
    (∃ t, v? = some (.str t)) ∨
      ∃ names : List Text, 2 ≤ names.length ∧ v? = some (.list (names.map .str)) := by
  constructor
  · rintro ⟨⟨names⟩, v, written, rfl⟩
    match names with
    | [] => cases written
    | [t] => cases written; exact .inl ⟨t, rfl⟩
    | s :: t :: names => cases written; exact .inr ⟨s :: t :: names, by simp, rfl⟩
  · rintro (⟨t, rfl⟩ | ⟨names, several, rfl⟩)
    · exact ⟨⟨[t]⟩, _, rfl, rfl⟩
    · match names with
      | [] | [_] => simp at several
      | s :: t :: names => exact ⟨⟨s :: t :: names⟩, _, rfl, rfl⟩

theorem type_back {v? : Option Value} :
    Option.Rel (Same sameNaN) (Schema.typeOf v?).encode v? ↔
      ∃ u v, TypeUnion.encode u = some v ∧ v? = some v := by
  constructor
  · intro same
    cases written : (Schema.typeOf v?).encode with
    | none =>
      rw [written, none_rel] at same
      rw [same] at written
      cases written
    | some v =>
      rw [written] at same
      cases same with
      | some same => exact ⟨_, v, written, congrArg some ((same_encoded written).mp same)⟩
  · rintro ⟨u, v, written, rfl⟩
    rw [typeOf_encode written, written]
    exact .some ((same_encoded written).mpr rfl)

theorem fields_get?_keyword (c : Column) {name : Text} (keyword : isField (.str name) = false) :
    c.fieldEntries.get? name = none := by
  rw [Entries.get?_eq_none]
  rintro f member same
  obtain ⟨_, _, field⟩ := fieldEntries_fields c f member
  rw [same, keyword] at field
  cases field

section
variable (i : Nat) (es : Entries)

theorem compiled_title_get? : (Schema.compileObject i es).1.dump.get? "title" =
    some (.str (((es.get? "title").bind str?).getD (Schema.defaultTitle i))) :=
  dump_title _

theorem compiled_bag_get? {name : Text} (field : isField (.str name) = true) :
    (Schema.compileObject i es).1.bag.get? name = none := by
  have keeps : (Schema.compileObject i es).1.KeepsBag := fun _ h => bagOf_keeps h
  exact free_absent (keeps_free keeps) name field

theorem compiled_type_get? : (Schema.compileObject i es).1.dump.get? "type" =
    (Schema.typeOf (es.get? "type")).encode := by
  rw [dump_type, compiled_bag_get? i es rfl, Option.or_none]
  rfl

theorem compiled_description_get? : (Schema.compileObject i es).1.dump.get? "description" =
    let d := ((es.get? "description").bind str?).getD ""
    if d = "" then none else some (.str d) := by
  rw [dump_description, compiled_bag_get? i es rfl]
  rfl

theorem compiled_keyword_get? {name : Text} (keyword : isField (.str name) = false) :
    (Schema.compileObject i es).1.dump.get? name = es.get? name := by
  have bag : (Schema.compileObject i es).1.bag = keywords es := bagOf_getD es
  rw [dump_get?, fields_get?_keyword _ keyword, Option.none_or, bag, keywords_get?, keyword]
  rfl

end

theorem description_back {v? : Option Value} :
    Option.Rel (Same sameNaN)
        (let d := (v?.bind str?).getD ""
        if d = "" then none else some (.str d)) v? ↔
      ∀ v, v? = some v → ∃ d, v = .str d ∧ d ≠ "" := by
  cases v? with
  | none => simp
  | some v =>
    cases text : v.str? with
    | some d =>
      obtain rfl := str?_eq_some.mp text
      by_cases empty : d = ""
      · simp [str?, empty]
      · simp [str?, empty, -Option.rel_some_some, rel_some_str]
    | none =>
      have other : ∀ d, v ≠ .str d := by
        rintro d rfl
        cases text
      simp [text, other]

theorem object_back {es : Entries} (json : (Value.object es).IsJson NotNaN) (i : Nat) :
    Same sameNaN (Schema.compileColumn i (.object es)).1.toValue (.object es) ↔ PlainForm es := by
  have whole := toValue_json (by simp [NotNaN]) (Schema.compileColumn_json i json)
  have names : Same sameNaN (Schema.compileColumn i (.object es)).1.toValue (.object es) ↔
      ∀ name, Option.Rel (Same sameNaN) ((Schema.compileObject i es).1.dump.get? name)
        (es.get? name) := objects_same_iff whole.named json.named
  rw [names]
  constructor
  · intro same
    have title := same "title"
    have type := same "type"
    have description := same "description"
    rw [compiled_title_get?, rel_some_str] at title
    rw [compiled_type_get?, type_back, encoded_iff] at type
    rw [compiled_description_get?, description_back] at description
    exact ⟨⟨_, title⟩, type, description⟩
  · rintro ⟨⟨t, title⟩, type, description⟩ name
    cases field : isField (.str name) with
    | false =>
      rw [compiled_keyword_get? i es field]
      cases found : es.get? name with
      | none => exact .none
      | some v => exact .some (Value.equal_self (json.get? found) sameNaN)
    | true =>
      simp only [isField, Bool.or_eq_true, beq_iff_eq] at field
      rcases field with (rfl | rfl) | rfl
      · rw [compiled_title_get?, title, rel_some_str]
        rfl
      · rwa [compiled_type_get?, type_back, encoded_iff]
      · rwa [compiled_description_get?, description_back]

theorem item_back (sameNaN : Bool) {v : Value} (json : v.IsJson NotNaN) (i : Nat) :
    Same sameNaN (Schema.compileColumn i v).1.toValue v ↔ ∃ es, v = .object es ∧ PlainForm es := by
  constructor
  · intro same
    obtain ⟨es, rfl⟩ := same_object same
    exact ⟨es, rfl, (object_back json i).mp same⟩
  · rintro ⟨es, rfl, plain⟩
    exact (object_back json i).mpr plain

end Column

namespace Schema
open Value

theorem items_back (sameNaN : Bool) {items : List Value} (json : ∀ v ∈ items, v.IsJson NotNaN) :
    Same sameNaN (compileItems items).columns.toValue (.list items) ↔
      ∀ v ∈ items, ∃ es, v = .object es ∧ Column.PlainForm es := by
  rw [Columns.toValue, lists_same_iff, List.forall₂_iff_get]
  -- By place, as the title that stands in for a missing one depends on it.
  have place (i : Nat) (bound : i < items.length) :=
    Column.item_back sameNaN (json _ (List.getElem_mem bound)) i
  constructor
  · rintro ⟨_, each⟩ v member
    obtain ⟨i, bound, rfl⟩ := List.getElem_of_mem member
    apply (place i bound).mp
    simpa [compileItems] using each i (by simpa [compileItems] using bound) bound
  · intro each
    refine ⟨by simp [compileItems], fun i _ bound => ?_⟩
    simpa [compileItems] using (place i bound).mpr (each _ (List.getElem_mem bound))

def HasKeys (es : Entries) (names : List Text) : Prop :=
  ∀ k, k ∈ es.map Prod.fst ↔ k ∈ names.map Value.str

theorem array_same (sameNaN : Bool) (v : Value) {es : Entries} (named : es.Named) :
    Same sameNaN (.object [(.str "type", .str "array"), (.str "items", v)]) (.object es) ↔
      HasKeys es ["type", "items"] ∧ es.get? "type" = some (.str "array") ∧
        ∃ w, es.get? "items" = some w ∧ Same sameNaN v w := by
  have pair : Entries.Named [(.str "type", .str "array"), (.str "items", v)] := by simp [isStr]
  rw [objects_same_iff pair named]
  simp only [Entries.get?_cons, Entries.get?_nil]
  constructor
  · intro same
    have type := rel_some_str.mp (same "type")
    have items : Option.Rel (Same sameNaN) (some v) (es.get? "items") := same "items"
    cases found : es.get? "items" with
    | none =>
      rw [found] at items
      cases items
    | some w =>
      rw [found] at items
      cases items with
      | some values =>
        refine ⟨fun k => ⟨fun member => ?_, fun known => ?_⟩, type, w, rfl, values⟩
        · obtain ⟨e, there, rfl⟩ := List.mem_map.mp member
          obtain ⟨name, text⟩ := str_of_isStr (named.texts e there)
          by_contra other
          simp [text] at other
          have absent := none_rel.mp (by simpa [Ne.symm other.1, Ne.symm other.2] using same name)
          exact Entries.get?_eq_none.mp absent e there text
        · simp only [List.map_cons, List.map_nil, List.mem_cons, List.not_mem_nil, or_false] at known
          rcases known with rfl | rfl
          · exact List.mem_map_of_mem (Entries.get?_mem type)
          · exact List.mem_map_of_mem (Entries.get?_mem found)
  · rintro ⟨keys, type, w, items, values⟩ name
    split
    · rename_i same
      rw [← same, type, rel_some_str]
    · split
      · rename_i same
        rw [← same, items]
        exact .some values
      · rename_i notType notItems
        rw [none_rel, Entries.get?_eq_none_iff_notMem, keys]
        simp [Ne.symm notType, Ne.symm notItems]

/-- A schema as columns are wrapped, with nothing in it beside the columns, each in its plain
form. -/
def PlainSchema (schema : Value) : Prop :=
  ∃ (outer rows : Entries) (items : List Value), schema = .object outer ∧
    HasKeys outer ["type", "items"] ∧ outer.get? "items" = some (.object rows) ∧
    HasKeys rows ["type", "items"] ∧ rows.get? "type" = some (.str "array") ∧
    rows.get? "items" = some (.list items) ∧
    ∀ v ∈ items, ∃ es, v = .object es ∧ Column.PlainForm es

/-- A schema equals the one that its columns are wrapped in just where it has that form already:
whatever else a schema may say, or leave to be filled in, its columns do not show. -/
theorem wrapped_back {schema : Value} (json : schema.IsJson NotNaN) {r : Compiled}
    (compiled : compile schema = .ok r) (sameNaN : Bool) :
    r.columns.toSchema.equal sameNaN schema = true ↔ PlainSchema schema := by
  obtain ⟨items, table, rfl⟩ := compile_ok_iff.mp compiled
  have back := items_back sameNaN (tabular_json json table)
  obtain ⟨array, rows, found, inside⟩ := table
  obtain ⟨outer, rfl, array⟩ := under_eq_some.mp array
  have found : outer.get? "items" = some (.object rows) := found
  have inner := array_same sameNaN (compileItems items).columns.toValue (json.get? found).named
  change Same sameNaN (Columns.wrap _) (.object outer) ↔ _
  rw [Columns.wrap, array_same sameNaN _ json.named]
  constructor
  · rintro ⟨keys, _, _, there, same⟩
    cases found.symm.trans there
    obtain ⟨keys', type, _, there, values⟩ := inner.mp same
    cases inside.symm.trans there
    exact ⟨outer, rows, items, rfl, keys, found, keys', type, inside, back.mp values⟩
  · rintro ⟨_, _, _, same, keys, there, keys', type, there', each⟩
    cases same
    cases found.symm.trans there
    cases inside.symm.trans there'
    exact ⟨keys, array, _, found, inner.mpr ⟨keys', type, _, inside, back.mpr each⟩⟩

theorem wrapped_back_reordered :
    let item := Value.object [(.str "items", .bool true), (.str "type", .list [.str "a", .str "a"]),
      (.str "title", .str "")]
    let schema := Value.object [(.str "items", .object [(.str "items", .list [item]),
      (.str "type", .str "array")]), (.str "type", .str "array")]
    schema.IsJson NotNaN ∧ ∃ r, compile schema = .ok r ∧ PlainSchema schema ∧
      r.columns.toSchema.equal false schema = true := by
  intro item schema
  have json : schema.IsJson NotNaN := by simp [schema, item, isStr, NotNaN]
  have plain : PlainSchema schema := by
    refine ⟨_, _, _, rfl, by simp [HasKeys, or_comm], rfl, by simp [HasKeys, or_comm], rfl, rfl, ?_⟩
    rw [List.forall_mem_singleton]
    exact ⟨_, rfl, ⟨"", rfl⟩, .inr ⟨["a", "a"], by decide, rfl⟩, by rintro _ ⟨⟩⟩
  exact ⟨json, _, rfl, plain, (wrapped_back json rfl false).mpr plain⟩

end Schema
end Columnar
