import Columnar.Proofs.Recompile
import Columnar.Proofs.Tables

namespace Columnar.Schema
open Value

theorem compileColumn_typed (i : Nat) (v : Value) : ∃ u, (compileColumn i v).1.type = some u := by
  cases v <;> exact ⟨_, rfl⟩

theorem compileColumn_keeps (i : Nat) (v : Value) : (compileColumn i v).1.KeepsBag := by
  cases v with
  | object es => exact fun _ h => Column.bagOf_keeps h
  | _ => rintro _ ⟨⟩

theorem compileColumn_json {allowed : Value → Prop} (i : Nat) {v : Value}
    (json : v.IsJson allowed) : (compileColumn i v).1.HoldsJson allowed := by
  cases v with
  | object es =>
    intro fs h
    obtain ⟨rfl, _⟩ := Column.bagOf_some h
    exact json.sublist List.filter_sublist
  | _ => rintro _ ⟨⟩

/-- Every compiled column has a union, and a bag of keywords that the document holds. -/
theorem compiled_columns {schema : Value} {r : Compiled} (compiled : compile schema = .ok r) :
    ∀ c ∈ r.columns, c.KeepsBag ∧ (∃ u, c.type = some u) ∧
      ∀ allowed, schema.IsJson allowed → c.HoldsJson allowed := by
  obtain ⟨items, table, rfl⟩ := compile_ok_iff.mp compiled
  intro c member
  simp only [compileItems, List.mem_map, List.mem_mapIdx] at member
  obtain ⟨_, ⟨i, bound, rfl⟩, rfl⟩ := member
  refine ⟨compileColumn_keeps i _, compileColumn_typed i _, fun allowed json => ?_⟩
  exact compileColumn_json i (tabular_json json table _ (List.getElem_mem bound))

theorem lacksUnion_typed {c : Column} {u : TypeUnion} (typed : c.type = some u) :
    c.lacksUnion = (c.type == some ⟨[]⟩) := by
  obtain ⟨names⟩ := u
  rw [Bool.eq_iff_iff]
  cases names <;> simp [Column.lacksUnion, typed, TypeUnion.isEmpty]

theorem recompiled_typed {c : Column} (keeps : c.KeepsBag) {u : TypeUnion}
    (typed : c.type = some u) : c.recompiled =
      if c.type = some ⟨[]⟩ then { c with type := some (.single "string") } else c := by
  split
  · rename_i empty
    rw [Column.recompiled_keeps keeps, empty]
    rfl
  · rename_i nonempty
    have has : c.lacksUnion = false := by
      rw [lacksUnion_typed typed]
      simpa using nonempty
    exact Column.recompiled_fixed has keeps

theorem lacksType_typed {c : Column} (keeps : c.KeepsBag) {u : TypeUnion}
    (typed : c.type = some u) : c.lacksType = (c.type == some ⟨[]⟩) := by
  have absent := Column.free_absent (Column.keeps_free keeps) "type" rfl
  rw [Column.lacksType, Entries.hasName_eq, absent, lacksUnion_typed typed]
  simp

theorem compiled_fixed {schema : Value} {r : Compiled} (compiled : compile schema = .ok r)
    (whole : ∀ c ∈ r.columns, c.type ≠ some ⟨[]⟩) : r.columns.recompiled = ⟨r.columns, []⟩ := by
  apply Columns.recompiled_fixed
  intro c hc
  obtain ⟨keeps, ⟨u, typed⟩, _⟩ := compiled_columns compiled c hc
  exact ⟨by rw [lacksUnion_typed typed]; simpa using whole c hc, keeps⟩

/-- Compiled columns come back from their schema as they are, save that an empty union is read as
the default and reported. So they come back equal and without problems just where no union is
empty. -/
theorem compiled_recompiles {schema : Value} (json : schema.IsJson NotNaN) {r : Compiled}
    (compiled : compile schema = .ok r) :
    ∃ t, compile r.columns.toSchema = .ok t ∧
      (∀ sameNaN, (t.columns.equal sameNaN r.columns = true ∧ t.lines = []) ↔
        ∀ c ∈ r.columns, c.type ≠ some ⟨[]⟩) ∧
      (t.columns = r.columns.map fun c =>
        if c.type = some ⟨[]⟩ then { c with type := some (.single "string") } else c) ∧
      t.lines = ((r.columns.zipIdx.filter fun p => p.1.type == some ⟨[]⟩).map fun p =>
        (s!"col, {p.2} type is not set, defaulting to string" : Text)) := by
  have each := compiled_columns compiled
  have lines : r.columns.recompiled.lines =
      (r.columns.zipIdx.filter fun p => p.1.type == some ⟨[]⟩).map fun p =>
        (s!"col, {p.2} type is not set, defaulting to string" : Text) := by
    rw [Columns.recompiled_lines]
    congr 1
    apply List.filter_congr
    intro p hp
    obtain ⟨keeps, ⟨u, typed⟩, _⟩ := each p.1 (List.fst_mem_of_mem_zipIdx hp)
    exact lacksType_typed keeps typed
  have columns : r.columns.recompiled.columns = r.columns.map fun c =>
      if c.type = some ⟨[]⟩ then { c with type := some (.single "string") } else c := by
    apply List.map_congr_left
    intro c hc
    obtain ⟨keeps, ⟨u, typed⟩, _⟩ := each c hc
    exact recompiled_typed keeps typed
  have holds : ∀ c ∈ r.columns, c.HoldsJson NotNaN := fun c hc => (each c hc).2.2 _ json
  refine ⟨_, Columns.compile_toSchema _, fun sameNaN => ⟨?_, ?_⟩, columns, lines⟩
  · rintro ⟨same, -⟩ c hc empty
    have has := ((Columns.recompiled_equal_iff holds sameNaN).mp same c hc).1
    rw [lacksUnion_typed empty, empty] at has
    cases has
  · intro whole
    rw [compiled_fixed compiled whole]
    exact ⟨Columns.equal_self holds sameNaN, rfl⟩

theorem compiled_recompiles_defective :
    let schema := Columns.wrap (.list
      [.object [(.str "type", .list [.int 5]), (.str "min", .int 0)], .int 3])
    let r : Compiled := ⟨[⟨"col_0", some ⟨[]⟩, "", some [(.str "min", .int 0)]⟩,
      ⟨"col_1", some ⟨["string"]⟩, "", none⟩], [.noTitle 0, .notObject 1]⟩
    schema.IsJson NotNaN ∧ compile schema = .ok r ∧
      ∃ t, compile r.columns.toSchema = .ok t ∧
        t.columns = [⟨"col_0", some ⟨["string"]⟩, "", some [(.str "min", .int 0)]⟩,
          ⟨"col_1", some ⟨["string"]⟩, "", none⟩] ∧
        t.lines = (["col, 0 type is not set, defaulting to string"] : List Text) := by
  intro schema r
  have json : schema.IsJson NotNaN := by
    simp [schema, Columns.wrap, NotNaN, isStr]
  have compiled : compile schema = .ok r := rfl
  obtain ⟨t, again, _, columns, lines⟩ := compiled_recompiles json compiled
  exact ⟨json, compiled, t, again, columns, lines⟩

/-- A list of types without a text gives an empty union, and the column is not found again. -/
theorem empty_union_lost :
    let schema := Columns.wrap (.list [.object [(.str "title", .str "t"), (.str "type", .list [])]])
    schema.IsJson NotNaN ∧ ∃ r t, compile schema = .ok r ∧ r.lines = [] ∧
      compile r.columns.toSchema = .ok t ∧ t.columns.equal false r.columns = false ∧
      t.lines = (["col, 0 type is not set, defaulting to string"] : List Text) := by
  intro schema
  have json : schema.IsJson NotNaN := by
    simp [schema, Columns.wrap, NotNaN, isStr]
  exact ⟨json, ⟨[⟨"t", some ⟨[]⟩, "", none⟩], []⟩,
    ⟨[⟨"t", some ⟨["string"]⟩, "", none⟩], [.noType 0]⟩, rfl, rfl, rfl, rfl, rfl⟩

end Columnar.Schema
