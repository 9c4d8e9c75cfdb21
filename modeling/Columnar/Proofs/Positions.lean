import Columnar.Proofs.Insertion
import Columnar.Proofs.Tables
import Mathlib

namespace Columnar.Schema
open Value

/-- The union that is written under a type: a text is its only name, of a list the texts are. -/
def UnionOf : Option Value → TypeUnion → Prop
  | some (.str t), u => u = ⟨[t]⟩
  | some (.list vs), u => u.names.map .str = vs.filter isStr
  | _, u => u = ⟨["string"]⟩

def others (es : Entries) : Entries :=
  es.filter fun e => e.1.str? ∉ ([some "title", some "type", some "description"] : List (Option Text))

structure Describes (i : Nat) (es : Entries) (c : Column) : Prop where
  title : c.title = match es.get? "title" with
    | some (.str t) => t
    | _ => s!"col_{i}"
  type : ∃ u, c.type = some u ∧ UnionOf (es.get? "type") u
  description : c.description = match es.get? "description" with
    | some (.str t) => t
    | _ => ""
  validation : c.validation = if (others es).isEmpty then none else some (others es)

/-- What is told of an object at a place. A type that cannot be used is not missing. -/
def missingOf (i : Nat) (es : Entries) : List Text :=
  (match es.get? "title" with
    | some (.str _) => []
    | _ => [s!"col. {i} title is not set"]) ++
  match es.get? "type" with
    | some _ => []
    | none => [s!"col, {i} type is not set, defaulting to string"]

inductive CompiledAt (i : Nat) : Value → Column → List Text → Prop
  | object {es : Entries} {c : Column} : Describes i es c →
      CompiledAt i (.object es) c (missingOf i es)
  | other {v : Value} : v.object? = none →
      CompiledAt i v ⟨s!"col_{i}", some ⟨["string"]⟩, "", none⟩
        [s!"col. {i} schema should be an object"]

theorem union_unique {v : Option Value} {t u : TypeUnion} (left : UnionOf v t) (right : UnionOf v u) :
    t = u := by
  cases v with
  | none => exact left.trans right.symm
  | some v =>
    cases v with
    | list vs =>
      have names := List.map_injective_iff.mpr (fun _ _ => Value.str.inj) (left.trans right.symm)
      exact congrArg TypeUnion.mk names
    | _ => exact left.trans right.symm

theorem describes_unique {i : Nat} {es : Entries} {c d : Column} (left : Describes i es c)
    (right : Describes i es d) : c = d := by
  obtain ⟨t, type, union⟩ := left.type
  obtain ⟨u, type', union'⟩ := right.type
  obtain rfl := union_unique union union'
  have title := left.title.trans right.title.symm
  have description := left.description.trans right.description.symm
  have validation := left.validation.trans right.validation.symm
  cases c
  cases d
  simp_all

theorem compiledAt_unique {i : Nat} {v : Value} {c d : Column} {ls ms : List Text}
    (left : CompiledAt i v c ls) (right : CompiledAt i v d ms) : c = d ∧ ls = ms := by
  cases left with
  | object described =>
    cases right with
    | object other => exact ⟨describes_unique described other, rfl⟩
    | other none => cases none
  | other none =>
    cases right with
    | object => cases none
    | other => exact ⟨rfl, rfl⟩

def linesAt (i : Nat) (v : Value) : List Text := (compileColumn i v).2.map fun p => (p.line : Text)

theorem filterMap_texts (vs : List Value) : (vs.filterMap str?).map .str = vs.filter isStr := by
  induction vs with
  | nil => rfl
  | cons v vs ih =>
    rw [List.filterMap_cons, List.filter_cons]
    cases v <;> simpa [str?, isStr] using ih

theorem unionOf_typeOf (v : Option Value) : UnionOf v (typeOf v) := by
  cases v with
  | none => rfl
  | some v =>
    cases v with
    | list vs => exact filterMap_texts vs
    | _ => rfl

theorem isField_eq (k : Value) : Column.isField k =
    decide (k.str? ∈ ([some "title", some "type", some "description"] : List (Option Text))) := by
  cases k <;> simp [Column.isField, str?, Bool.or_assoc, beq_eq_decide]

theorem others_eq (es : Entries) : others es = es.filter fun e => !Column.isField e.1 := by
  simp only [others, isField_eq, decide_not]

theorem text_match (v : Option Value) (default : Text) :
    ((v.bind str?).getD default) = match v with
      | some (.str t) => t
      | _ => default := by
  cases v with
  | none => rfl
  | some v => cases v <;> rfl

theorem describes_compiled (i : Nat) (es : Entries) : Describes i es (compileObject i es).1 where
  title := text_match _ _
  type := ⟨_, rfl, unionOf_typeOf _⟩
  description := text_match _ _
  validation := by rw [others_eq]; rfl

theorem missing_compiled (i : Nat) (es : Entries) :
    ((compileObject i es).2.map fun p => (p.line : Text)) = missingOf i es := by
  rw [compileObject, missingOf, List.map_append]
  congr 1
  · cases es.get? "title" with
    | none => rfl
    | some v => cases v <;> rfl
  · cases es.get? "type" <;> rfl

theorem compiledAt_compiled (i : Nat) (v : Value) :
    CompiledAt i v (compileColumn i v).1 (linesAt i v) := by
  cases v with
  | object es =>
    have lines : linesAt i (.object es) = missingOf i es := missing_compiled i es
    exact lines ▸ .object (describes_compiled i es)
  | _ => exact .other rfl

theorem linesAt_eq_nil {i : Nat} {v : Value} : linesAt i v = [] ↔ ∃ es, v = .object es ∧
    (∃ t, Entries.get? es "title" = some (.str t)) ∧ ∃ w, Entries.get? es "type" = some w := by
  cases v with
  | object es =>
    have lines : linesAt i (.object es) = missingOf i es := missing_compiled i es
    simp only [lines, missingOf, List.append_eq_nil_iff, Value.object.injEq, exists_eq_left']
    apply and_congr
    · split <;> simp_all
    · split <;> simp_all
  | _ => simp [linesAt, compileColumn]

/-! The same column, read off the entries of an object one after the other. -/

/-- What has been seen of the entries so far. A type that cannot be used is seen as the default. -/
structure Seen where
  title : Option Text
  type : Option TypeUnion
  description : Option Text
  bag : Entries

namespace Seen

def start : Seen := ⟨none, none, none, []⟩

def step (s : Seen) (e : Value × Value) : Seen :=
  match e.1.str? with
  | some (.whole "title") => { s with title := e.2.str?.or s.title }
  | some (.whole "type") => { s with type := some (typeOf (some e.2)) }
  | some (.whole "description") => { s with description := e.2.str?.or s.description }
  | _ => { s with bag := s.bag ++ [e] }

def whole (es : Entries) : Seen where
  title := (es.get? "title").bind str?
  type := (es.get? "type").map fun v => typeOf (some v)
  description := (es.get? "description").bind str?
  bag := es.filter fun e => !Column.isField e.1

def compiled (s : Seen) (i : Nat) : Column × List Problem :=
  (⟨s.title.getD (defaultTitle i), some (s.type.getD defaultType), s.description.getD "",
      if s.bag.isEmpty then none else some s.bag⟩,
    (if s.title.isNone then [.noTitle i] else []) ++ (if s.type.isNone then [.noType i] else []))

theorem get?_beside {es : Entries} {e : Value × Value} {name : Text}
    (other : e.1.str? ≠ some name) : Entries.get? (es ++ [e]) name = es.get? name := by
  have nothing : Entries.get? [e] name = none := by
    rw [Entries.get?_eq_none, List.forall_mem_singleton]
    exact fun same => other (same ▸ rfl)
  rw [Entries.get?_append, nothing, Option.or_none]

theorem step_whole {es : Entries} {e : Value × Value}
    (new : ∀ name, e.1 = .str name → es.get? name = none) :
    (whole es).step e = whole (es ++ [e]) := by
  unfold step
  split
  case h_4 title type description =>
    have bag : Column.isField e.1 = false := by
      simpa [isField_eq] using ⟨title, type, description⟩
    simp [whole, get?_beside title, get?_beside type, get?_beside description, bag]
  all_goals
    rename_i field
    have key := str?_eq_some.mp field
    obtain ⟨k, v⟩ := e
    obtain rfl : k = _ := key
    have absent := new _ rfl
    simp [whole, Entries.get?_append, Entries.get?_cons, absent, Column.isField]

theorem foldl_step {es : Entries} (distinct : es.DistinctTexts) :
    es.foldl step start = whole es := by
  induction es using List.reverseRecOn with
  | nil => rfl
  | append_singleton es e ih =>
    rw [Entries.DistinctTexts, List.map_append, List.filter_append, List.nodup_append] at distinct
    obtain ⟨front, _, apart⟩ := distinct
    rw [List.foldl_append, ih front]
    refine step_whole fun name key => Entries.get?_eq_none.mpr fun f member same => ?_
    have early : .str name ∈ (es.map Prod.fst).filter isStr :=
      List.mem_filter.mpr ⟨same ▸ List.mem_map_of_mem member, rfl⟩
    exact apart _ early _ (by simp [key, isStr]) rfl

theorem whole_compiled (i : Nat) (es : Entries) : (whole es).compiled i = compileObject i es := by
  have type : ((es.get? "type").map fun v => typeOf (some v)).getD defaultType =
      typeOf (es.get? "type") := by
    cases es.get? "type" <;> rfl
  simp only [compiled, whole, compileObject, type, Option.isNone_map]
  rfl

/-- An object is compiled entry by entry, if no name comes twice. -/
theorem compileObject_scan (i : Nat) {es : Entries} (distinct : es.DistinctTexts) :
    compileObject i es = (es.foldl step start).compiled i := by
  rw [foldl_step distinct, whole_compiled]

end Seen

theorem columns_getElem? (items : List Value) (i : Nat) :
    (compileItems items).columns[i]? = items[i]?.map fun v => (compileColumn i v).1 := by
  simp [compileItems, Function.comp_def]

theorem compileItems_lines (items : List Value) :
    (compileItems items).lines = (items.mapIdx linesAt).flatten := by
  have parts : ((items.mapIdx compileColumn).map Prod.snd).map (List.map fun p => (p.line : Text)) =
      items.mapIdx linesAt := by
    apply List.ext_getElem?
    simp only [List.getElem?_map, List.getElem?_mapIdx, Option.map_map]
    exact fun i => rfl
  rw [Compiled.lines, compileItems, List.map_flatten, parts]

theorem flatten_mapIdx_eq_nil {items : List Value} {f : Nat → Value → List Text}
    {p : Value → Prop} (each : ∀ i v, f i v = [] ↔ p v) :
    (items.mapIdx f).flatten = [] ↔ ∀ v ∈ items, p v := by
  simp only [List.flatten_eq_nil_iff, List.mem_mapIdx]
  constructor
  · intro none v member
    obtain ⟨i, bound, rfl⟩ := List.getElem_of_mem member
    exact (each i _).mp (none _ ⟨i, bound, rfl⟩)
  · rintro all _ ⟨i, bound, rfl⟩
    exact (each i _).mpr (all _ (List.getElem_mem bound))

/-- A table gives one column a place. The item at a place and the number of the place decide what
the column is and what is told of it, as described by `CompiledAt`; other items, and the rest of the
schema, change neither. What is told of the table is what is told of its places in order, and that
is nothing just where every item is an object with a text for a title and with a type. -/
theorem compiled_by_position {schema : Value} {r : Compiled} (compiled : compile schema = .ok r) :
    ∃ items, Tabular schema items ∧ r.columns.length = items.length ∧
      r.lines = (items.mapIdx linesAt).flatten ∧
      (∀ i v, items[i]? = some v →
        ∃ c, r.columns[i]? = some c ∧ CompiledAt i v c (linesAt i v)) ∧
      (∀ i v c d ls ms, CompiledAt i v c ls → CompiledAt i v d ms → c = d ∧ ls = ms) ∧
      (∀ (other : Value) (q : Compiled) (items' : List Value) (i : Nat), compile other = .ok q →
        Tabular other items' → items'[i]? = items[i]? → q.columns[i]? = r.columns[i]?) ∧
      (r.lines = [] ↔ ∀ v ∈ items, ∃ es, v = .object es ∧
        (∃ t, Entries.get? es "title" = some (.str t)) ∧ ∃ w, Entries.get? es "type" = some w) := by
  obtain ⟨items, table, rfl⟩ := compile_ok_iff.mp compiled
  refine ⟨items, table, by simp [compileItems], compileItems_lines items, ?_, ?_, ?_, ?_⟩
  · intro i v there
    exact ⟨_, by rw [columns_getElem?, there]; rfl, compiledAt_compiled i v⟩
  · exact fun i v c d ls ms => compiledAt_unique
  · intro other q items' i again table' same
    obtain ⟨_, table'', rfl⟩ := compile_ok_iff.mp again
    rw [tabular_unique table'' table', columns_getElem?, columns_getElem?, same]
  · rw [compileItems_lines]
    exact flatten_mapIdx_eq_nil fun _ _ => linesAt_eq_nil

theorem compiled_by_position_mixed :
    let second := Value.object [(.str "title", .int 0), (.str "min", .int 1),
      (.str "type", .list [.str "a", .null, .str "b"])]
    let items := [.int 3, second, .object [(.str "description", .str "d")]]
    ∃ r, compile (Columns.wrap (.list items)) = .ok r ∧ r.columns.length = 3 ∧
      r.lines = (["col. 0 schema should be an object", "col. 1 title is not set",
        "col. 2 title is not set", "col, 2 type is not set, defaulting to string"] : List Text) ∧
      ∃ c, r.columns[1]? = some c ∧ CompiledAt 1 second c ["col. 1 title is not set"] ∧
        c = ⟨"col_1", some ⟨["a", "b"]⟩, "", some [(.str "min", .int 1)]⟩ := by
  intro second items
  have compiled : compile (Columns.wrap (.list items)) = .ok (compileItems items) := rfl
  obtain ⟨items', table, columns, lines, each, _⟩ := compiled_by_position compiled
  obtain rfl : items' = items := tabular_unique table ⟨rfl, _, rfl, rfl⟩
  obtain ⟨c, there, described⟩ := each 1 second rfl
  cases there
  exact ⟨_, compiled, columns, lines.trans (by decide), _, rfl, described, rfl⟩

end Columnar.Schema
