import Columnar.Proofs.Redecode
import Columnar.Proofs.Tables

namespace Columnar

namespace Column

variable {allowed : Value → Prop} {es : Entries}

theorem decode_fields (named : es.Named) {d : Column} (read : decode (.object es) = .ok d) :
    readText es "title" = .ok d.title ∧ readType es = .ok d.type ∧
      readText es "description" = .ok d.description ∧ d.validation = Schema.bagOf es := by
  change decodeObject es = _ at read
  rw [decodeObject_named named] at read
  split at read
  · rename_i title type description
    cases read
    exact ⟨title, type, description, rfl⟩
  · cases read

theorem readText_found (json : (Value.object es).IsJson allowed) {field : String} {s : Text}
    (read : readText es field = .ok s) :
    es.get? field = none ∧ s = "" ∨ es.get? field = some (.str s) := by
  cases found : es.get? field with
  | none =>
    rw [readText, found] at read
    cases read
    exact .inl ⟨rfl, rfl⟩
  | some v =>
    right
    by_cases text : ∃ t, v = .str t
    · obtain ⟨t, rfl⟩ := text
      rw [readText, found] at read
      cases read
      rfl
    · rw [readText_error found (json.get? found) text] at read
      cases read

theorem readType_found {type : Option TypeUnion} (read : readType es = .ok type) :
    (es.get? "type" = none ∨ es.get? "type" = some .null) ∧ type = none ∨
      ∃ v u, es.get? "type" = some v ∧ v ≠ .null ∧ TypeUnion.decode v = some u ∧ type = some u := by
  unfold readType at read
  split at read
  · rename_i absent
    cases read
    exact .inl ⟨.inl absent, rfl⟩
  · rename_i null
    cases read
    exact .inl ⟨.inr null, rfl⟩
  · rename_i v other found
    cases decoded : TypeUnion.decode v with
    | none => rw [decoded] at read; cases read
    | some u =>
      rw [decoded] at read
      cases read
      exact .inr ⟨v, u, found, fun null => other (by rw [null]), decoded, rfl⟩

end Column

namespace Schema

variable {allowed : Value → Prop}

/-- What the strict reader takes for a union is what the compiler takes it for. -/
theorem typeOf_decode {v : Value} (json : v.IsJson allowed) {u : TypeUnion}
    (decoded : TypeUnion.decode v = some u) : typeOf (some v) = u := by
  cases v with
  | str s => cases decoded; rfl
  | list vs =>
    obtain ⟨names, found, rfl⟩ := Option.map_eq_some_iff.mp decoded
    rw [TypeUnion.allStrings_some found, typeOf]
    simp [List.filterMap_map, Function.comp_def, Value.str?]
  | tuple vs => cases json with | scalar kind _ => cases kind
  | _ => cases decoded

def Problem.position : Problem → Nat
  | .notObject i | .noTitle i | .noType i => i

theorem compileColumn_positions (i : Nat) (v : Value) :
    ∀ p ∈ (compileColumn i v).2, p.position = i := by
  cases v with
  | object es =>
    intro p hp
    simp only [compileColumn, compileObject, List.mem_append] at hp
    rcases hp with hp | hp
    · split at hp
      · cases List.mem_singleton.mp hp; rfl
      · cases hp
    · split at hp
      · cases List.mem_singleton.mp hp; rfl
      · cases hp
  | _ => intro p hp; cases List.mem_singleton.mp hp; rfl

theorem problems_at (items : List Value) (start i : Nat) :
    ((items.zipIdx start).flatMap fun p => (compileColumn p.2 p.1).2).filter
        (fun p => p.position == start + i) =
      ((items[i]?).map fun v => (compileColumn (start + i) v).2).getD [] := by
  induction items generalizing start i with
  | nil => rfl
  | cons v vs ih =>
    rw [List.zipIdx_cons, List.flatMap_cons, List.filter_append]
    cases i with
    | zero =>
      have here : (compileColumn start v).2.filter (fun p => p.position == start + 0) =
          (compileColumn start v).2 := by
        rw [List.filter_eq_self]
        intro p hp
        simp [compileColumn_positions start v p hp]
      have others : ((vs.zipIdx (start + 1)).flatMap fun p => (compileColumn p.2 p.1).2).filter
          (fun p => p.position == start + 0) = [] := by
        rw [List.filter_eq_nil_iff]
        intro p hp
        obtain ⟨q, hq, inside⟩ := List.mem_flatMap.mp hp
        have behind := List.le_snd_of_mem_zipIdx hq
        have position := compileColumn_positions q.2 q.1 p inside
        simp only [beq_iff_eq]
        omega
      rw [here, others]
      simp
    | succ i =>
      have here : (compileColumn start v).2.filter (fun p => p.position == start + (i + 1)) = [] := by
        rw [List.filter_eq_nil_iff]
        intro p hp
        simp [compileColumn_positions start v p hp]
      have shifted : start + (i + 1) = start + 1 + i := by omega
      rw [here, List.nil_append, shifted, ih (start + 1) i, List.getElem?_cons_succ]

theorem compileItems_at (items : List Value) (i : Nat) :
    (compileItems items).columns[i]? = (items[i]?).map (fun v => (compileColumn i v).1) ∧
      (compileItems items).problems.filter (fun p => p.position == i) =
        ((items[i]?).map fun v => (compileColumn i v).2).getD [] := by
  constructor
  · simp [compileItems, Function.comp_def]
  · have inOrder : (compileItems items).problems =
        items.zipIdx.flatMap fun p => (compileColumn p.2 p.1).2 := by
      simp [compileItems, List.mapIdx_eq_zipIdx_map, List.flatMap, Function.comp_def]
    have found := problems_at items 0 i
    simpa [inOrder] using found

/-- What the compiler makes of an entry agrees with what the reader of columns makes of it. -/
structure AgreesAt (i : Nat) (es : Entries) (c : Column) (problems : List Problem) (d : Column) :
    Prop where
  description : c.description = d.description
  validation : c.validation = d.validation
  titled : es.hasName "title" = true → c.title = d.title
  untitled : es.hasName "title" = false → c.title = s!"col_{i}"
  typed : ∀ v, es.get? "type" = some v → v ≠ .null → c.type = d.type
  untyped : es.get? "type" = none ∨ es.get? "type" = some .null → c.type = some ⟨["string"]⟩
  problems : problems.map Problem.line =
    (if es.hasName "title" then [] else [s!"col. {i} title is not set"]) ++
      (if es.hasName "type" then [] else [s!"col, {i} type is not set, defaulting to string"])

theorem compileObject_agrees {es : Entries} (json : (Value.object es).IsJson allowed)
    {d : Column} (read : Column.decode (.object es) = .ok d) (i : Nat) :
    AgreesAt i es (compileObject i es).1 (compileObject i es).2 d := by
  obtain ⟨title, type, description, validation⟩ := Column.decode_fields json.named read
  have titles := Column.readText_found json title
  have types := Column.readType_found type
  have descriptions := Column.readText_found json description
  constructor
  · rcases descriptions with ⟨absent, empty⟩ | found
    · simp [compileObject, absent, empty]
    · simp [compileObject, found, Value.str?]
  · exact validation.symm
  · intro has
    rcases titles with ⟨absent, _⟩ | found
    · simp [Entries.hasName_eq, absent] at has
    · simp [compileObject, found, Value.str?]
  · intro lacks
    have absent : es.get? "title" = none := by simpa [Entries.hasName_eq] using lacks
    simp [compileObject, absent, defaultTitle]
  · intro v found notNull
    rcases types with ⟨absent | null, _⟩ | ⟨w, u, again, _, decoded, set⟩
    · rw [found] at absent; cases absent
    · rw [found] at null; exact absurd (Option.some.inj null) notNull
    · rw [found] at again
      cases again
      rw [set, compileObject, found, typeOf_decode (json.get? found) decoded]
  · rintro (absent | null)
    · simp [compileObject, absent, typeOf, defaultType, TypeUnion.single]
    · simp [compileObject, null, typeOf, defaultType, TypeUnion.single]
  · have untitled : ((es.get? "title").bind Value.str?).isNone = !es.hasName "title" := by
      rcases titles with ⟨absent, _⟩ | found
      · simp [Entries.hasName_eq, absent]
      · simp [Entries.hasName_eq, found, Value.str?]
    have untyped : (es.get? "type").isNone = !es.hasName "type" := by
      rw [Entries.hasName_eq, Option.not_isSome]
    simp only [compileObject, untitled, untyped]
    cases es.hasName "title" <;> cases es.hasName "type" <;> rfl

theorem compile_array {es rows : Entries} {items : List Value}
    (array : es.get? "type" = some (.str "array")) (found : es.get? "items" = some (.object rows))
    (inside : rows.get? "items" = some (.list items)) :
    compile (.object es) = .ok (compileItems items) :=
  compile_ok_iff.mpr ⟨items, ⟨array, rows, found, inside⟩, rfl⟩

/-- Every entry of an array of rows is compiled to a column. If it is an object that can also be
read as a column, the two agree, and what is reported about its place is just what it lacks. -/
theorem entry_readers_agree {es rows m : Entries} {items : List Value} {i : Nat}
    (array : es.get? "type" = some (.str "array")) (found : es.get? "items" = some (.object rows))
    (inside : rows.get? "items" = some (.list items)) (entry : items[i]? = some (.object m))
    (json : (Value.object m).IsJson fun _ => True) :
    ∃ r c, compile (.object es) = .ok r ∧ r.columns[i]? = some c ∧
      ∀ d, Column.decode (.object m) = .ok d →
        AgreesAt i m c (r.problems.filter fun p => p.position == i) d := by
  obtain ⟨column, problems⟩ := compileItems_at items i
  rw [entry] at column problems
  refine ⟨_, _, compile_array array found inside, column, fun d read => ?_⟩
  rw [problems]
  exact compileObject_agrees json read i

theorem entry_readers_agree_defaults :
    let m : Entries := [(.str "min", .float .nan), (.str "type", .null), (.str "validation", .int 1)]
    let items : List Value := [.object [(.str "title", .int 0)], .object m]
    let rows : Entries := [(.str "items", .list items)]
    let es : Entries := [(.str "type", .str "array"), (.str "items", .object rows)]
    let d : Column := ⟨"", none, "", some [(.str "min", .float .nan), (.str "validation", .int 1)]⟩
    es.get? "type" = some (.str "array") ∧ es.get? "items" = some (.object rows) ∧
      rows.get? "items" = some (.list items) ∧ items[1]? = some (.object m) ∧
      (Value.object m).IsJson (fun _ => True) ∧ Column.decode (.object m) = .ok d ∧
      ∃ r c, compile (.object es) = .ok r ∧ r.columns[1]? = some c ∧
        AgreesAt 1 m c (r.problems.filter fun p => p.position == 1) d := by
  intro m items rows es d
  have json : (Value.object m).IsJson fun _ => True := by simp [m, Value.isStr]
  have read : Column.decode (.object m) = .ok d := by
    change Column.decodeObject m = _
    rw [Column.decodeObject_named json.named]
    rfl
  have array : es.get? "type" = some (.str "array") := rfl
  have found : es.get? "items" = some (.object rows) := rfl
  have inside : rows.get? "items" = some (.list items) := rfl
  have entry : items[1]? = some (.object m) := rfl
  obtain ⟨r, c, compiled, column, agree⟩ := entry_readers_agree array found inside entry json
  exact ⟨array, found, inside, entry, json, read, r, c, compiled, column, agree d read⟩

end Schema
end Columnar
