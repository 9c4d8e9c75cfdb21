import Columnar.Proofs.Agreement
import Mathlib.Algebra.GroupWithZero.Nat

namespace Columnar

namespace Value

/-- What may stand as a type: null, a name, or a list of names. -/
def namesTypes : Value → Bool
  | .null | .str _ => true
  | .list vs => vs.all isStr
  | _ => false

theorem isStr_iff {v : Value} : v.isStr = true ↔ ∃ s, v = .str s :=
  ⟨str_of_isStr, fun ⟨_, text⟩ => text ▸ rfl⟩

theorem allStr_iff {vs : List Value} :
    vs.all isStr = true ↔ ∃ names : List Text, vs = names.map .str := by
  constructor
  · intro texts
    induction vs with
    | nil => exact ⟨[], rfl⟩
    | cons v vs ih =>
      rw [List.all_cons, Bool.and_eq_true] at texts
      obtain ⟨s, rfl⟩ := isStr_iff.mp texts.1
      obtain ⟨names, rfl⟩ := ih texts.2
      exact ⟨s :: names, rfl⟩
  · rintro ⟨names, rfl⟩
    simp [isStr]

theorem namesTypes_iff {v : Value} : v.namesTypes = true ↔ v.IsUnionForm := by
  cases v <;> simp [namesTypes, IsUnionForm, -List.all_eq_true, allStr_iff]

end Value

namespace Column

/-- A field as the plain form has it: the values that may stand under its name, and what is told of
the others. -/
structure Field where
  name : String
  takes : Value → Bool
  defect : Defect

def fields : List Field :=
  [⟨"title", Value.isStr, .notText⟩, ⟨"type", Value.namesTypes, .badUnion⟩,
    ⟨"description", Value.isStr, .notText⟩]

def Field.wrongIn (f : Field) (es : Entries) : Bool := (es.get? f.name).any fun v => !f.takes v

def Fits (es : Entries) : Prop :=
  ∀ f ∈ fields, ∀ v, es.get? f.name = some v → f.takes v = true

def defects : Value → List Detail
  | .object es => (fields.filter fun f => f.wrongIn es).map fun f => ⟨[.name f.name], f.defect⟩
  | _ => [⟨[], .notObject⟩]

/-- The column has the fields of the object, and all its other keys in the bag. -/
structure ReadFrom (es : Entries) (c : Column) : Prop where
  title : es.get? "title" = none ∧ c.title = "" ∨ es.get? "title" = some (.str c.title)
  type : (es.get? "type" = none ∨ es.get? "type" = some .null) ∧ c.type = none ∨
    (∃ s, es.get? "type" = some (.str s) ∧ c.type = some ⟨[s]⟩) ∨
    ∃ names : List Text, es.get? "type" = some (.list (names.map .str)) ∧ c.type = some ⟨names⟩
  description : es.get? "description" = none ∧ c.description = "" ∨
    es.get? "description" = some (.str c.description)
  validation : keywords es = [] ∧ c.validation = none ∨
    keywords es ≠ [] ∧ c.validation = some (keywords es)

variable {allowed : Value → Prop} {es : Entries}

theorem readText_failures (json : (Value.object es).IsJson allowed) (name : String) :
    failures (readText es name) =
      if (⟨name, Value.isStr, .notText⟩ : Field).wrongIn es then [⟨[.name name], .notText⟩] else [] := by
  cases found : es.get? name with
  | none => simp [readText, found, failures, Field.wrongIn]
  | some v =>
    by_cases text : ∃ s, v = .str s
    · obtain ⟨s, rfl⟩ := text
      simp [readText, found, Value.text?, failures, Value.isStr, Except.mapError, Field.wrongIn]
    · have other : v.isStr = false := by simpa using mt Value.isStr_iff.mp text
      rw [readText_error found (json.get? found) text]
      simp [other, failures, found, Field.wrongIn]

theorem readType_failures (json : (Value.object es).IsJson allowed) :
    failures (readType es) = if (⟨"type", Value.namesTypes, .badUnion⟩ : Field).wrongIn es then
      [⟨[.name "type"], .badUnion⟩] else [] := by
  cases found : es.get? "type" with
  | none => simp [readType, found, failures, Field.wrongIn]
  | some v =>
    by_cases form : v.IsUnionForm
    · have forms : ∀ w, es.get? "type" = some w → w.IsUnionForm := by
        rintro w again
        rw [found] at again
        cases again
        exact form
      rw [readType_ok forms]
      simp [Value.namesTypes_iff.mpr form, failures, found, Field.wrongIn]
    · have other : v.namesTypes = false := by simpa using mt Value.namesTypes_iff.mp form
      rw [readType_error found (json.get? found) form]
      simp [other, failures, found, Field.wrongIn]

theorem defects_object (json : (Value.object es).IsJson allowed) : defects (.object es) =
    failures (readText es "title") ++ failures (readType es) ++
      failures (readText es "description") := by
  rw [readText_failures json, readType_failures json, readText_failures json]
  simp only [defects, fields, List.filter_cons, List.filter_nil]
  split <;> split <;> split <;> rfl

theorem readFrom_decode (json : (Value.object es).IsJson allowed) {c : Column}
    (read : decode (.object es) = .ok c) : ReadFrom es c := by
  obtain ⟨title, type, description, validation⟩ := decode_fields json.named read
  refine ⟨readText_found json title, ?_, readText_found json description, ?_⟩
  · rcases readType_found type with unset | ⟨v, u, found, _, decoded, set⟩
    · exact .inl unset
    · right
      rw [set, found]
      cases v with
      | str s =>
        cases decoded
        exact .inl ⟨s, rfl, rfl⟩
      | list vs =>
        obtain ⟨names, all, rfl⟩ := Option.map_eq_some_iff.mp decoded
        exact .inr ⟨names, by rw [TypeUnion.allStrings_some all], rfl⟩
      | tuple vs => cases json.get? found with | scalar kind _ => cases kind
      | _ => cases decoded
  · rw [validation, bagOf_eq]
    by_cases empty : keywords es = []
    · exact .inl ⟨empty, by simp [empty]⟩
    · exact .inr ⟨empty, by simp [empty]⟩

theorem readFrom_keeps {c : Column} (read : ReadFrom es c) : c.KeepsBag := by
  intro bag held
  rcases read.validation with ⟨_, unset⟩ | ⟨nonempty, set⟩
  · rw [Option.mem_def, unset] at held
    cases held
  · rw [Option.mem_def, set] at held
    cases held
    exact ⟨nonempty, fun e he => by simpa using (List.mem_filter.mp he).2⟩

theorem readFrom_bag {c : Column} (read : ReadFrom es c) : c.bag = keywords es := by
  rcases read.validation with ⟨empty, unset⟩ | ⟨_, set⟩
  · rw [bag, unset, empty]
    rfl
  · rw [bag, set]
    rfl

theorem defects_eq_nil {v : Value} : defects v = [] ↔ ∃ es, v = .object es ∧ Fits es := by
  cases v with
  | object es =>
    simp [defects, Field.wrongIn, Fits, Option.any_eq_false]
  | _ => simp [defects]

theorem decode_ends {v : Value} (json : v.IsJson allowed) :
    (∃ es c, v = .object es ∧ defects v = [] ∧ decode v = .ok c ∧ ReadFrom es c) ∨
      defects v ≠ [] ∧ decode v = .error (defects v) := by
  cases v with
  | object es =>
    have told := defects_object json
    have read := decodeObject_named json.named
    -- Only where no field fails is there a column; else what fails is told, field by field.
    cases title : readText es "title" <;> cases type : readType es <;>
      cases description : readText es "description" <;>
      simp only [title, type, description, failures] at told read
    case ok.ok.ok =>
      exact .inl ⟨es, _, rfl, told, read, readFrom_decode json read⟩
    all_goals exact .inr ⟨by simp [told], told ▸ read⟩
  | _ => exact .inr ⟨by simp [defects], rfl⟩

end Column

namespace Columns

def defectsFrom (i : Nat) (vs : List Value) : List Detail :=
  (vs.zipIdx i).flatMap fun p => (Column.defects p.1).map (Detail.under (.index p.2))

variable {allowed : Value → Prop}

theorem defectsFrom_cons (i : Nat) (v : Value) (vs : List Value) : defectsFrom i (v :: vs) =
    (Column.defects v).map (Detail.under (.index i)) ++ defectsFrom (i + 1) vs := by
  rw [defectsFrom, List.zipIdx_cons, List.flatMap_cons, ← defectsFrom]

theorem length_defectsFrom (i : Nat) (vs : List Value) :
    (defectsFrom i vs).length = (vs.map fun v => (Column.defects v).length).sum := by
  induction vs generalizing i with
  | nil => rfl
  | cons v vs ih => simp [defectsFrom_cons, ih]

theorem defectsFrom_eq_nil {i : Nat} {vs : List Value} :
    defectsFrom i vs = [] ↔ ∀ v ∈ vs, Column.defects v = [] := by
  induction vs generalizing i with
  | nil => simp [defectsFrom]
  | cons v vs ih => simp [defectsFrom_cons, ih]

theorem decodeItems_ends {vs : List Value} (json : ∀ v ∈ vs, v.IsJson allowed) (i : Nat) :
    (∃ cs, defectsFrom i vs = [] ∧ decodeItems i vs = .ok cs ∧
        List.Forall₂ (fun v c => ∃ es, v = .object es ∧ Column.ReadFrom es c) vs cs) ∨
      defectsFrom i vs ≠ [] ∧ decodeItems i vs = .error (defectsFrom i vs) := by
  induction vs generalizing i with
  | nil => exact .inl ⟨[], rfl, rfl, .nil⟩
  | cons v vs ih =>
    obtain ⟨head, tail⟩ := List.forall_mem_cons.mp json
    rw [defectsFrom_cons, decodeItems]
    -- The items behind are looked at in either case, so their defects come after those of the first.
    rcases Column.decode_ends head with ⟨es, c, object, none, read, from_⟩ | ⟨some, told⟩ <;>
      rcases ih tail (i + 1) with ⟨cs, noneBehind, others, each⟩ | ⟨someBehind, others⟩
    · rw [none, noneBehind, read, others]
      exact .inl ⟨c :: cs, rfl, rfl, .cons ⟨es, object, from_⟩ each⟩
    · rw [none, read, others]
      exact .inr ⟨someBehind, rfl⟩
    · rw [noneBehind, told, others]
      exact .inr ⟨by simpa using some, by simp⟩
    · rw [told, others]
      exact .inr ⟨by simp [some], rfl⟩

inductive Reads : Value → Except (List Detail) Columns → Prop
  | columns {vs : List Value} {cs : Columns} : (∀ w ∈ vs, ∃ es, w = .object es ∧ Column.Fits es) →
      List.Forall₂ (fun w c => ∃ es, w = .object es ∧ Column.ReadFrom es c) vs cs →
      Reads (.list vs) (.ok cs)
  | defects {vs : List Value} : (¬ ∀ w ∈ vs, ∃ es, w = .object es ∧ Column.Fits es) →
      Reads (.list vs) (.error (defectsFrom 0 vs))
  | other {v : Value} : (¬ ∃ vs, v = .list vs) → Reads v (.error [⟨[], .notList⟩])

theorem decode_reads {v : Value} (json : v.IsJson allowed) : Reads v (decode v) := by
  cases json with
  | @scalar v kind _ =>
    cases v with
    | null | bool | int | float | str => exact .other nofun
    | _ => cases kind
  | @list vs json =>
    have fit : defectsFrom 0 vs = [] ↔ ∀ w ∈ vs, ∃ es, w = .object es ∧ Column.Fits es := by
      simp only [defectsFrom_eq_nil, Column.defects_eq_nil]
    have read : decode (.list vs) = decodeItems 0 vs := rfl
    rw [read]
    rcases decodeItems_ends json 0 with ⟨cs, none, taken, each⟩ | ⟨some, told⟩
    · rw [taken]
      exact .columns (fit.mp none) each
    · rw [told]
      exact .defects (mt fit.mpr some)
  | object _ _ => exact .other nofun

/-- A value is read just where it is a list of objects in which every field fits. Each column has
the fields of its object and all other keys in its bag; else the defects of all items are told. -/
theorem decode_iff_fits {v : Value} (json : v.IsJson fun _ => True) :
    ((∃ cs, decode v = .ok cs) ↔
        ∃ vs, v = .list vs ∧ ∀ w ∈ vs, ∃ es, w = .object es ∧ Column.Fits es) ∧
      (∀ cs, decode v = .ok cs → ∃ vs, v = .list vs ∧
        List.Forall₂ (fun w c => ∃ es, w = .object es ∧ Column.ReadFrom es c ∧ c.KeepsBag ∧
          c.bag.get? "validation" = es.get? "validation") vs cs) ∧
      ∀ ds, decode v = .error ds →
        (¬ ∃ vs, v = .list vs) ∧ ds = [⟨[], .notList⟩] ∨
        ∃ vs, v = .list vs ∧ ds = defectsFrom 0 vs ∧
          ds.length = (vs.map fun w => (Column.defects w).length).sum := by
  have reads := decode_reads json
  generalize decode v = result at reads
  cases reads with
  | @columns vs cs fits each =>
    refine ⟨⟨fun _ => ⟨vs, rfl, fits⟩, fun _ => ⟨cs, rfl⟩⟩, ?_, nofun⟩
    rintro _ ⟨⟩
    refine ⟨vs, rfl, each.imp ?_⟩
    rintro w c ⟨es, object, read⟩
    refine ⟨es, object, read, Column.readFrom_keeps read, ?_⟩
    rw [Column.readFrom_bag read, Column.keywords_get?]
    rfl
  | @defects vs unfit =>
    refine ⟨⟨nofun, ?_⟩, nofun, ?_⟩
    · rintro ⟨ws, list, fits⟩
      cases list
      exact absurd fits unfit
    · rintro _ ⟨⟩
      exact .inr ⟨vs, rfl, rfl, length_defectsFrom 0 vs⟩
  | other none =>
    refine ⟨⟨nofun, ?_⟩, nofun, ?_⟩
    · rintro ⟨vs, list, _⟩
      exact absurd ⟨vs, list⟩ none
    · rintro _ ⟨⟩
      exact .inl ⟨none, rfl⟩

theorem decode_iff_fits_defects :
    let good : Entries := [(.str "validation", .int 1), (.str "type", .list [.str "number"])]
    let bad : Entries := [(.str "type", .list [.int 5]), (.str "min", .int 0), (.str "title", .null)]
    let v : Value := .list [.object good]
    let w : Value := .list [.object bad, .object good, .bool true]
    v.IsJson (fun _ => True) ∧ w.IsJson (fun _ => True) ∧
      (∃ c, decode v = .ok [c] ∧ Column.ReadFrom good c ∧
        c.bag.get? "validation" = some (.int 1)) ∧
      decode w = .error [⟨[.index 0, .name "title"], .notText⟩, ⟨[.index 0, .name "type"], .badUnion⟩,
        ⟨[.index 2], .notObject⟩] := by
  intro good bad v w
  have json : v.IsJson fun _ => True := by simp [v, good, Value.isStr]
  have also : w.IsJson fun _ => True := by simp [w, good, bad, Value.isStr]
  have fits : Column.Fits good := by
    simp [Column.Fits, Column.fields, good, Entries.get?_cons, Value.namesTypes, Value.isStr]
  refine ⟨json, also, ?_, ?_⟩
  · obtain ⟨accepts, taken, _⟩ := decode_iff_fits json
    obtain ⟨cs, read⟩ := accepts.mpr ⟨_, rfl, List.forall_mem_singleton.mpr ⟨good, rfl, fits⟩⟩
    obtain ⟨_, list, each⟩ := taken cs read
    cases Value.list.inj list
    cases each with
    | @cons _ c _ _ head tail =>
      cases tail
      obtain ⟨_, ⟨⟩, from_, _, validation⟩ := head
      exact ⟨c, read, from_, validation⟩
  · obtain ⟨accepts, _, told⟩ := decode_iff_fits also
    cases read : decode w with
    | ok cs =>
      obtain ⟨_, list, all⟩ := accepts.mp ⟨cs, read⟩
      cases Value.list.inj list
      obtain ⟨_, object, _⟩ := all (.bool true) (by simp)
      cases object
    | error ds =>
      rcases told ds read with ⟨none, _⟩ | ⟨_, list, all, _⟩
      · exact absurd ⟨_, rfl⟩ none
      · cases Value.list.inj list
        rw [all]
        rfl

end Columns
end Columnar
