import Columnar.Proofs.Compatibility
import Columnar.Proofs.Compiled
import Columnar.Proofs.Json.Spelled
import Columnar.Proofs.Redecode
import Columnar.Proofs.Written

/-! What the check for JSON lets through, compiled and sent through the text of the columns. The
check knows no difference between numbers, so an infinity passes it; but the text has no name for
one, and a null comes back in its place. Everything else comes back, floating-point numbers to the
last bit. -/
namespace Columnar

namespace Column
open Value

def spelled (c : Column) : Column := { c with validation := c.validation.map spelledEntries }

theorem spelled_bag (c : Column) : c.spelled.bag = spelledEntries c.bag := by
  cases h : c.validation <;> simp [spelled, bag, h, spelledEntries]

theorem spelled_fields (c : Column) : spelledEntries c.fieldEntries = c.fieldEntries := by
  simpa [Value.spelled] using spelled_self (fields_json finite_str c)

theorem spelled_dump (c : Column) : c.spelled.dump = spelledEntries c.dump := by
  have fields : c.spelled.fieldEntries = c.fieldEntries := rfl
  have kept := spelledEntries_filter (fun k => !(c.fieldEntries.any fun f => f.1 == k)) c.bag
  change c.spelled.fieldEntries ++ c.spelled.bag.filter _ =
    spelledEntries (c.fieldEntries ++ c.bag.filter _)
  rw [spelledEntries_append, spelled_fields, spelled_bag, fields, ← kept]

theorem spelled_toValue (c : Column) : c.spelled.toValue = c.toValue.spelled :=
  congrArg Value.object c.spelled_dump

theorem spelled_keeps {c : Column} (keeps : c.KeepsBag) : c.spelled.KeepsBag := by
  intro fs given
  obtain ⟨es, held, rfl⟩ := Option.map_eq_some_iff.mp given
  obtain ⟨nonempty, free⟩ := keeps es held
  rw [spelledEntries_eq]
  exact ⟨by simpa using nonempty, List.forall_mem_map.mpr free⟩

theorem spelled_finite {allowed : Value → Prop} {c : Column} (json : c.HoldsJson allowed) :
    c.spelled.HoldsJson IsFinite := by
  intro fs given
  obtain ⟨es, held, rfl⟩ := Option.map_eq_some_iff.mp given
  have spelled := spelled_json (json es held)
  exact spelled.mono fun _ _ ok => ok.2

theorem spelled_equal_iff {allowed : Value → Prop} {c : Column} (json : c.HoldsJson allowed)
    (sameNaN : Bool) : c.spelled.equal sameNaN c = true ↔ c.HoldsJson IsFinite := by
  simp only [equal, spelled, BEq.rfl, Bool.true_and, HoldsJson]
  cases held : c.validation with
  | none => simp [bagsEqual]
  | some es => simpa [bagsEqual, Value.spelled] using Value.spelled_equal_iff (json es held) sameNaN

theorem redecoded_fixed {c : Column} (union : c.type ≠ some ⟨[]⟩) (keeps : c.KeepsBag) :
    c.redecoded = c := by
  have free := keeps_free keeps
  have type := (redecoded_type_eq_iff free).mpr union
  have description := redecoded_description_free free
  have bag : c.redecoded.validation = c.validation := keeps_bag keeps
  have title : c.redecoded.title = c.title := rfl
  cases h : c.redecoded
  simp_all

theorem decode_spelled {allowed : Value → Prop} {c : Column} (json : c.HoldsJson allowed)
    (union : c.type ≠ some ⟨[]⟩) (keeps : c.KeepsBag) :
    decode c.spelled.toValue = .ok c.spelled := by
  have kept := spelled_keeps keeps
  have same : c.spelled.redecoded = c.spelled := redecoded_fixed union kept
  rw [decode_ok (spelled_finite json) finite_str (clear_free (keeps_free kept)), same]

theorem toValue_whole {c : Column} (title : c.title.isWhole = true)
    (type : ∀ u, c.type = some u → ∀ name ∈ u.names, name.isWhole = true)
    (description : c.description.isWhole = true)
    (bag : ∀ es, c.validation = some es → (Value.object es).holdsHalf = false) :
    c.toValue.holdsHalf = false := by
  refine holds_object.mpr fun e member => ?_
  rcases List.mem_append.mp member with field | kept
  · rcases List.mem_cons.mp field with rfl | field
    · exact ⟨rfl, whole_str.mpr title⟩
    rcases List.mem_append.mp field with typed | described
    · obtain ⟨v, written, rfl⟩ : ∃ v, c.type.bind TypeUnion.encode = some v ∧
          e = (.str "type", v) := by
        unfold typeEntry at typed
        split at typed
        · exact ⟨_, ‹_›, List.mem_singleton.mp typed⟩
        · cases typed
      obtain ⟨u, given, encoded⟩ := Option.bind_eq_some_iff.mp written
      exact ⟨rfl, (TypeUnion.decode_whole (TypeUnion.decode_encode encoded)).mpr (type u given)⟩
    · unfold descriptionEntry at described
      split at described
      · cases described
      · rw [List.mem_singleton.mp described]
        exact ⟨rfl, whole_str.mpr description⟩
  · have inside := List.mem_of_mem_filter kept
    cases given : c.validation with
    | none => simp [given] at inside
    | some es =>
      rw [given] at inside
      exact holds_object.mp (bag es given) e inside

end Column

namespace Columns
open Value

theorem spelled_toValue (cs : Columns) :
    toValue (cs.map Column.spelled) = cs.toValue.spelled := by
  simp only [toValue, Value.spelled, spelledItems_eq, List.map_map]
  congr 1
  exact List.map_congr_left fun c _ => c.spelled_toValue

theorem toJson_spelled {cs : Columns} (json : ∀ c ∈ cs, c.HoldsJson Legible)
    (unions : ∀ c ∈ cs, c.type ≠ some ⟨[]⟩) (keep : ∀ c ∈ cs, c.KeepsBag)
    (whole : cs.toValue.holdsHalf = false) :
    ∃ text, cs.toJson = some text ∧ decodeJson decode text = .ok (cs.map Column.spelled) := by
  have plain : cs.toValue.IsJson Legible := toValue_json (fun _ => trivial) json
  have kept := Bool.eq_false_iff.mp (spelled_whole plain whole)
  have read : Json.read (Json.toText Json.compact cs.toValue).toList = .ok cs.toValue.spelled := by
    rw [Json.toText, String.toList_ofList]
    exact Json.read_write_spelled plain whole
  refine ⟨_, toJson_whole whole, ?_⟩
  simp only [decodeJson, read, if_neg kept]
  rw [← spelled_toValue]
  change decodeItems 0 ((cs.map Column.spelled).map Column.toValue) = _
  have each : ∀ c ∈ cs.map Column.spelled, Column.decode c.toValue = .ok (id c) :=
    List.forall_mem_map.mpr fun c hc => Column.decode_spelled (json c hc) (unions c hc) (keep c hc)
  rw [decodeItems_ok each, List.map_id]

end Columns

namespace Schema
open Value

theorem str?_whole {v? : Option Value} (whole : ∀ v, v? = some v → v.holdsHalf = false)
    {t : Text} (text : v?.bind Value.str? = some t) : t.isWhole = true := by
  obtain ⟨v, found, given⟩ := Option.bind_eq_some_iff.mp text
  rw [str?_eq_some.mp given] at found
  exact whole_str.mp (whole _ found)

theorem typeOf_whole {v? : Option Value} (whole : ∀ v, v? = some v → v.holdsHalf = false) :
    ∀ name ∈ (typeOf v?).names, name.isWhole = true := by
  unfold typeOf
  split
  · exact List.forall_mem_singleton.mpr (whole_str.mp (whole _ rfl))
  · intro name member
    obtain ⟨v, inside, given⟩ := List.mem_filterMap.mp member
    have part := holds_list.mp (whole _ rfl) v inside
    rw [str?_eq_some.mp given] at part
    exact whole_str.mp part
  · exact List.forall_mem_singleton.mpr rfl

theorem compileObject_whole (i : Nat) {es : Entries} (whole : (Value.object es).holdsHalf = false) :
    (compileObject i es).1.toValue.holdsHalf = false := by
  have field (name : String) : ∀ v, es.get? name = some v → v.holdsHalf = false :=
    fun v found => holds_get? whole found
  refine Column.toValue_whole ?_ ?_ ?_ ?_
  · cases title : (es.get? "title").bind Value.str? with
    | none => simp only [compileObject, title]; rfl
    | some t => simpa [compileObject, title] using str?_whole (field _) title
  · rintro u ⟨⟩
    exact typeOf_whole (field "type")
  · cases description : (es.get? "description").bind Value.str? with
    | none => simp only [compileObject, description]; rfl
    | some t => simpa [compileObject, description] using str?_whole (field _) description
  · intro fs bag
    obtain ⟨rfl, _⟩ := Column.bagOf_some bag
    exact holds_object.mpr fun e member => holds_object.mp whole e (List.mem_of_mem_filter member)

theorem compileColumn_whole (i : Nat) {v : Value} (whole : v.holdsHalf = false) :
    (compileColumn i v).1.toValue.holdsHalf = false := by
  cases v with
  | object es => exact compileObject_whole i whole
  | _ => rfl

theorem compiled_whole {schema : Value} {r : Compiled} (compiled : compile schema = .ok r)
    (whole : schema.holdsHalf = false) : r.columns.toValue.holdsHalf = false := by
  obtain ⟨items, ⟨_, rows, found, inside⟩, rfl⟩ := compile_ok_iff.mp compiled
  obtain ⟨es, rfl, found⟩ := under_eq_some.mp found
  have each := holds_list.mp (holds_get? (holds_get? whole found) inside)
  refine holds_list.mpr (List.forall_mem_map.mpr fun c member => ?_)
  simp only [compileItems, List.mem_map, List.mem_mapIdx] at member
  obtain ⟨_, ⟨i, bound, rfl⟩, rfl⟩ := member
  exact compileColumn_whole i (each _ (List.getElem_mem bound))

/-- Columns compiled from what passes the check are read back from their text, each number that is
not finite as a null; so they come back equal just where all numbers in their bags are finite. -/
theorem accepted_decodes_spelled {schema : Value} {start : Text} {r : Compiled}
    (accepted : Document.incompatibility schema start = none)
    (sound : ∀ w, schema.Holds w → w.Sound Legible) (whole : schema.holdsHalf = false)
    (compiled : compile schema = .ok r) (unions : ∀ c ∈ r.columns, c.type ≠ some ⟨[]⟩) :
    (∃ text, r.columns.toJson = some text ∧
      decodeJson Columns.decode text = .ok (r.columns.map Column.spelled)) ∧
      ∀ sameNaN, Columns.equal sameNaN (r.columns.map Column.spelled) r.columns = true ↔
        ∀ c ∈ r.columns, c.HoldsJson IsFinite := by
  have document : schema.IsJson Legible :=
    Document.json_of_firstDefect schema (Document.incompatibility_none.mp accepted) sound
  have each := compiled_columns compiled
  have json : ∀ c ∈ r.columns, c.HoldsJson Legible := fun c hc => (each c hc).2.2 _ document
  have keep : ∀ c ∈ r.columns, c.KeepsBag := fun c hc => (each c hc).1
  refine ⟨Columns.toJson_spelled json unions keep (compiled_whole compiled whole), fun sameNaN => ?_⟩
  rw [Columns.equal_map_iff]
  exact forall₂_congr fun c hc => Column.spelled_equal_iff (json c hc) sameNaN

theorem accepted_infinity_lost :
    let number : Binary64 := .finite false 4591870180066957722 (by decide)
    let limits (low high : Value) : Option Entries :=
      some [(.str "min", low), (.str "range", .list [high])]
    let entry (low high : Value) : Value :=
      .object [(.str "title", .str "a"), (.str "min", low), (.str "range", .list [high])]
    let schema := Columns.wrap (.list [entry (.float number) (.float (.infinite false))])
    let column (high : Value) : Column := ⟨"a", some ⟨["string"]⟩, "", limits (.float number) high⟩
    let r : Compiled := ⟨[column (.float (.infinite false))], [.noType 0]⟩
    Document.incompatibility schema "$" = none ∧ (∀ w, schema.Holds w → w.Sound Legible) ∧
      schema.holdsHalf = false ∧ compile schema = .ok r ∧ (∀ c ∈ r.columns, c.type ≠ some ⟨[]⟩) ∧
      (∃ text, r.columns.toJson = some text ∧
        decodeJson Columns.decode text = .ok [column .null]) ∧
      Columns.equal false [column .null] r.columns = false := by
  intro number limits entry schema column r
  have document : schema.IsJson Legible := by
    simp [schema, entry, Columns.wrap, Legible, isStr]
  have accepted : Document.incompatibility schema "$" = none :=
    Document.incompatibility_none.mpr (Document.firstDefect_json document)
  have sound : ∀ w, schema.Holds w → w.Sound Legible := fun _ => sound_of_json document
  have whole : schema.holdsHalf = false := by decide +kernel
  have compiled : compile schema = .ok r := rfl
  have unions : ∀ c ∈ r.columns, c.type ≠ some ⟨[]⟩ := by simp [r, column]
  obtain ⟨read, equal⟩ := accepted_decodes_spelled accepted sound whole compiled unions
  have lost : ¬ ∀ c ∈ r.columns, c.HoldsJson IsFinite := by
    intro finite
    have bag := finite _ List.mem_cons_self _ rfl
    have range := bag.values _ (List.mem_cons_of_mem _ List.mem_cons_self)
    have high := isJson_list.mp range _ List.mem_cons_self
    cases isJson_float.mp high _ rfl
  have unequal := mt (equal false).mp lost
  exact ⟨accepted, sound, whole, compiled, unions, read, Bool.eq_false_iff.mpr unequal⟩

end Schema
end Columnar
