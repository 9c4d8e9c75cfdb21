import Columnar.Proofs.Flattening

namespace Columnar

namespace Column

/-- Whether neither the union nor a keyword gives the plain form a type. -/
def lacksType (c : Column) : Bool := c.lacksUnion && !c.bag.hasName "type"

/-- The column that is compiled from the plain form. It is the same at every place. -/
def recompiled (c : Column) : Column where
  title := c.title
  type := some (Schema.typeOf ((c.type.bind TypeUnion.encode).or (c.bag.get? "type")))
  description :=
    if c.description = "" then ((c.bag.get? "description").bind Value.str?).getD ""
    else c.description
  validation := Schema.bagOf c.bag

theorem lacksType_eq (c : Column) : c.lacksType = (c.dump.get? "type").isNone := by
  rw [lacksType, lacksUnion_eq, Entries.hasName_eq, dump_type]
  cases c.type.bind TypeUnion.encode <;> simp

theorem compile_dump (i : Nat) (c : Column) : Schema.compileObject i c.dump =
    (c.recompiled, if c.lacksType then [.noType i] else []) := by
  have bag : Schema.bagOf c.dump = Schema.bagOf c.bag := by
    simp only [Schema.bagOf, dump_keywords]
  have description : ((c.dump.get? "description").bind Value.str?).getD "" =
      c.recompiled.description := by
    rw [dump_description, recompiled]
    split <;> rfl
  simp only [Schema.compileObject, bag, description, dump_title, lacksType_eq]
  simp [recompiled, dump_type, Value.str?]

theorem typeOf_encode {u : TypeUnion} {v : Value} (h : u.encode = some v) :
    Schema.typeOf (some v) = u := by
  rcases TypeUnion.encode_some h with ⟨_, rfl, rfl⟩ | rfl
  · rfl
  · simp [Schema.typeOf, Value.str?, List.filterMap_map, Function.comp_def]

theorem recompiled_keeps {c : Column} (keeps : c.KeepsBag) : c.recompiled =
    { c with type := some (Schema.typeOf (c.type.bind TypeUnion.encode)) } := by
  have free := keeps_free keeps
  rw [recompiled, free_absent free "type" rfl, free_absent free "description" rfl,
    keeps_bag keeps, Option.or_none]
  congr 1
  split <;> simp_all

theorem typed_keeps {c : Column} (typed : c.lacksUnion = false) :
    some (Schema.typeOf (c.type.bind TypeUnion.encode)) = c.type := by
  rw [lacksUnion_eq] at typed
  cases h : c.type with
  | none => simp [h] at typed
  | some u =>
    obtain ⟨v, hv⟩ : ∃ v, u.encode = some v :=
      Option.isSome_iff_exists.mp (by simpa [h] using typed)
    simp [hv, typeOf_encode hv]

theorem recompiled_fixed {c : Column} (typed : c.lacksUnion = false) (keeps : c.KeepsBag) :
    c.recompiled = c := by
  rw [recompiled_keeps keeps, typed_keeps typed]

theorem recompiled_keepsBag (c : Column) : c.recompiled.KeepsBag := fun _ h => bagOf_keeps h

/-- A union that was left out the first time is the default the second time. -/
theorem twice_typed (c : Column) : c.recompiled.recompiled.lacksUnion = false := by
  rw [recompiled_keeps c.recompiled_keepsBag, lacksUnion, Option.all_some]
  cases h : c.recompiled.type.bind TypeUnion.encode with
  | none => rfl
  | some v =>
    obtain ⟨u, _, hv⟩ := Option.bind_eq_some_iff.mp h
    rw [typeOf_encode hv]
    cases empty : u.isEmpty with
    | false => rfl
    | true => rw [TypeUnion.encode_none.mpr empty] at hv; cases hv

theorem recompiled_equal_iff {c : Column} (json : c.HoldsJson Value.NotNaN) (sameNaN : Bool) :
    c.recompiled.equal sameNaN c = true ↔ c.lacksUnion = false ∧ c.KeepsBag := by
  constructor
  · intro same
    simp only [equal, Bool.and_eq_true, beq_iff_eq] at same
    have keeps := (bag_equal_iff json sameNaN).mp same.2
    refine ⟨?_, keeps⟩
    have type := same.1.1.2
    rw [recompiled_keeps keeps] at type
    cases lacks : c.lacksUnion with
    | false => rfl
    | true =>
      rw [lacksUnion_eq, Option.isNone_iff_eq_none] at lacks
      rw [lacks] at type
      rw [← type] at lacks
      cases lacks
  · rintro ⟨typed, keeps⟩
    rw [recompiled_fixed typed keeps]
    exact equal_self json sameNaN

end Column

namespace Columns
open Schema

def recompiled (cs : Columns) : Compiled where
  columns := cs.map Column.recompiled
  problems := (cs.zipIdx.filter fun p => p.1.lacksType).map fun p => .noType p.2

theorem flatten_if {α β : Type} (test : α → Bool) (f : α → β) (xs : List α) :
    (xs.map fun x => if test x then [f x] else []).flatten = (xs.filter test).map f := by
  induction xs with
  | nil => rfl
  | cons x xs ih => cases h : test x <;> simp [h, ih]

theorem compile_toSchema (cs : Columns) : compile cs.toSchema = .ok cs.recompiled := by
  have parts : (cs.map Column.toValue).mapIdx compileColumn = cs.zipIdx.map fun p =>
      (p.1.recompiled, if p.1.lacksType then [.noType p.2] else []) := by
    rw [List.mapIdx_eq_zipIdx_map, List.zipIdx_map, List.map_map]
    exact List.map_congr_left fun p _ => Column.compile_dump p.2 p.1
  have columns : cs.zipIdx.map (fun p => p.1.recompiled) = cs.map Column.recompiled := by
    change cs.zipIdx.map (Column.recompiled ∘ Prod.fst) = _
    rw [← List.map_map, List.zipIdx_map_fst]
  have items : compileItems (cs.map Column.toValue) = cs.recompiled := by
    simp only [compileItems, parts, List.map_map, Function.comp_def, flatten_if, columns,
      recompiled]
  rw [← items]
  simp [compile, compileArray, toSchema, toValue, wrap, Entries.get?_cons]

theorem recompiled_lines (cs : Columns) : cs.recompiled.lines =
    (cs.zipIdx.filter fun p => p.1.lacksType).map fun p =>
      (s!"col, {p.2} type is not set, defaulting to string" : Text) := by
  simp [Compiled.lines, recompiled, Function.comp_def, Problem.line]

theorem recompiled_fixed {cs : Columns}
    (whole : ∀ c ∈ cs, c.lacksUnion = false ∧ c.KeepsBag) : cs.recompiled = ⟨cs, []⟩ := by
  have columns : cs.map Column.recompiled = cs := by
    conv_rhs => rw [← List.map_id cs]
    exact List.map_congr_left fun c hc => Column.recompiled_fixed (whole c hc).1 (whole c hc).2
  have typed : cs.zipIdx.filter (fun p => p.1.lacksType) = [] := by
    rw [List.filter_eq_nil_iff]
    intro p hp
    simp [Column.lacksType, (whole p.1 (List.fst_mem_of_mem_zipIdx hp)).1]
  rw [recompiled, columns, typed, List.map_nil]

theorem recompiled_equal_iff {cs : Columns} (json : ∀ c ∈ cs, c.HoldsJson Value.NotNaN)
    (sameNaN : Bool) : cs.recompiled.columns.equal sameNaN cs = true ↔
      ∀ c ∈ cs, c.lacksUnion = false ∧ c.KeepsBag := by
  rw [recompiled, equal_map_iff]
  exact forall₂_congr fun c hc => Column.recompiled_equal_iff (json c hc) sameNaN

/-- Recompiling keeps places and titles, gives back exactly the columns with a union and a bag of
their own, and reports the others; the second round is the last that changes anything. -/
theorem recompiled_twice_fixed (cs : Columns) (json : ∀ c ∈ cs, c.HoldsJson Value.NotNaN) :
    ∃ r s t, compile cs.toSchema = .ok r ∧ compile r.columns.toSchema = .ok s ∧
      compile s.columns.toSchema = .ok t ∧
      r.columns.titles = cs.titles ∧
      (∀ sameNaN, r.columns.equal sameNaN cs = true ↔
        ∀ c ∈ cs, c.lacksUnion = false ∧ c.KeepsBag) ∧
      r.lines = ((cs.zipIdx.filter fun p => p.1.lacksType).map fun p =>
        (s!"col, {p.2} type is not set, defaulting to string" : Text)) ∧
      t.columns = s.columns ∧ t.lines = [] := by
  refine ⟨_, _, _, compile_toSchema cs, compile_toSchema _, compile_toSchema _, ?_,
    recompiled_equal_iff json, recompiled_lines cs, ?_⟩
  · simp [titles, recompiled, Function.comp_def, Column.recompiled]
  · have whole : ∀ c ∈ cs.recompiled.columns.recompiled.columns,
        c.lacksUnion = false ∧ c.KeepsBag := by
      intro c hc
      simp only [recompiled, List.map_map, List.mem_map] at hc
      obtain ⟨d, _, rfl⟩ := hc
      exact ⟨d.twice_typed, Column.recompiled_keepsBag _⟩
    rw [recompiled_fixed whole]
    exact ⟨rfl, rfl⟩

theorem recompiled_twice_fixed_stand_in :
    let cs : Columns := [⟨"a", none, "", some [(.str "type", .list [.int 1])]⟩,
      ⟨"b", some ⟨[]⟩, "d", some []⟩]
    (∀ c ∈ cs, c.HoldsJson Value.NotNaN) ∧
      ∃ r s t, compile cs.toSchema = .ok r ∧ compile r.columns.toSchema = .ok s ∧
        compile s.columns.toSchema = .ok t ∧ r.columns.titles = (["a", "b"] : List Text) ∧
        r.columns.equal false cs = false ∧
        r.lines = (["col, 1 type is not set, defaulting to string"] : List Text) ∧
        t.columns = s.columns ∧ t.lines = [] := by
  intro cs
  have json : ∀ c ∈ cs, c.HoldsJson Value.NotNaN := by
    simp [cs, Column.HoldsJson, Value.NotNaN, Value.isStr]
  obtain ⟨r, s, t, first, second, third, titles, equal, lines, settled⟩ := recompiled_twice_fixed cs json
  refine ⟨json, r, s, t, first, second, third, titles, ?_, ?_, settled⟩
  · have lost : ¬ ∀ c ∈ cs, c.lacksUnion = false ∧ c.KeepsBag := by
      simp [cs, Column.lacksUnion]
    simpa [lost] using equal false
  · rw [lines]
    rfl

end Columns
end Columnar
