import Columnar.Proofs.Compatibility
import Columnar.Proofs.Flattening
import Columnar.Proofs.Json.Visible
import Columnar.Proofs.Recompile
import Columnar.Proofs.Text.Utf8
import Columnar.Source.Load

/-! Columns by way of their JSON text. What the reader of plain values makes of the text is what it
makes of the plain form, so nothing about columns has to be proved a second time. In a schema file
written by hand around the text lie also the bytes of the file, its line ends and the check of the
document; none of them changes anything. -/
namespace Columnar

namespace Source
open Text

theorem readDocument_written (path : Path) {v : Value} (json : v.IsJson Value.Exact)
    (whole : v.holdsHalf = false) :
    readDocument path .json (Utf8.encode (Json.write Json.compact v)) = .ok v := by
  have read : Json.read (Json.write Json.compact v) = .ok v := Json.read_exact json whole
  simp only [readDocument, readJson, Utf8.decode_encode, Json.visible_unify (Json.write_visible json),
    read]

theorem selected_written (path : Path) (suffix : path.suffix = ".json") {es : Entries}
    (json : (Value.object es).IsJson Value.Exact) (whole : (Value.object es).holdsHalf = false) :
    selected path (some (.file (Utf8.encode (Json.write Json.compact (.object es))))) none =
      .ok (.object es) := by
  have format : Format.ofSuffix? path.suffix = some .json := by rw [suffix]; rfl
  simp only [selected, format, readDocument_written path json whole]
  rfl

theorem load_written (path : Path) (suffix : path.suffix = ".json") {es : Entries}
    (json : (Value.object es).IsJson Value.Exact) (whole : (Value.object es).holdsHalf = false) :
    load path (some (.file (Utf8.encode (Json.write Json.compact (.object es))))) none =
      .ok (.object es) := by
  have clear := Document.firstDefect_json json
  rw [load, selected_written path suffix json whole]
  change checked path none (.object es) = _
  simp only [checked, Document.check_passes.mpr clear]

end Source

namespace Columns
open Text

theorem toValue_json {allowed : Value → Prop} (texts : ∀ s, allowed (.str s)) {cs : Columns}
    (json : ∀ c ∈ cs, c.HoldsJson allowed) : cs.toValue.IsJson allowed := by
  apply Value.IsJson.list
  intro v member
  obtain ⟨c, hc, rfl⟩ := List.mem_map.mp member
  exact Column.toValue_json texts (json c hc)

theorem toJson_whole {cs : Columns} (whole : cs.toValue.holdsHalf = false) :
    cs.toJson = some (Json.toText Json.compact cs.toValue) := by
  rw [toJson, if_neg (Bool.eq_false_iff.mp whole)]

/-- The text of columns is read as their plain form, entry by entry in order; so reading columns
from the text succeeds just where reading them from the plain form does, and gives the same. -/
theorem toJson_reads_toValue (cs : Columns) (json : ∀ c ∈ cs, c.HoldsJson Value.Exact)
    (whole : cs.toValue.holdsHalf = false) :
    ∃ text, cs.toJson = some text ∧ Json.read text.toList = .ok cs.toValue ∧
      decodeJson decode text = decode cs.toValue := by
  have plain := toValue_json (fun _ => trivial) json
  have read : Json.read (Json.toText Json.compact cs.toValue).toList = .ok cs.toValue := by
    rw [Json.toText, String.toList_ofList]
    exact Json.read_exact plain whole
  refine ⟨_, toJson_whole whole, read, ?_⟩
  simp only [decodeJson, read, if_neg (Bool.eq_false_iff.mp whole)]

theorem toJson_reads_toValue_escaped :
    let cs : Columns := [⟨"a\"\\\n\x01\x7f\u00e9", some ⟨[]⟩, "",
      some [(.str "title", .null), (.str "type", .list [.int (-12), .bool true]),
        (.str "", .object [(.str "/", .list [.str "\t"])])]⟩]
    (∀ c ∈ cs, c.HoldsJson Value.Exact) ∧ cs.toValue.holdsHalf = false ∧
      ∃ text, cs.toJson = some text ∧ Json.read text.toList = .ok cs.toValue ∧
        decodeJson decode text = decode cs.toValue := by
  intro cs
  have short : (Nat.toDigits 10 12).length ≤ Json.maxDigits := by decide
  have json : ∀ c ∈ cs, c.HoldsJson Value.Exact := by
    simp [cs, Column.HoldsJson, Value.Exact, Value.isStr, short, or_imp, forall_and]
  have whole : cs.toValue.holdsHalf = false := by decide +kernel
  exact ⟨json, whole, toJson_reads_toValue cs json whole⟩

theorem toSchema_json {allowed : Value → Prop} (texts : ∀ s, allowed (.str s)) {cs : Columns}
    (json : ∀ c ∈ cs, c.HoldsJson allowed) : cs.toSchema.IsJson allowed := by
  have items := toValue_json texts json
  simp [toSchema, wrap, items, texts, Value.isStr]

theorem toSchema_whole {cs : Columns} (whole : cs.toValue.holdsHalf = false) :
    cs.toSchema.holdsHalf = false := by
  have text : ∀ s : String, (Value.str s).holds Value.isBroken = false := fun _ => rfl
  have rows : (Value.object [(.str "type", .str "array"), (.str "items", cs.toValue)]).holdsHalf =
      false :=
    Value.holds_object.mpr (by simp [text, show cs.toValue.holds Value.isBroken = false from whole])
  exact Value.holds_object.mpr
    (by simp [text, show (Value.object _).holds Value.isBroken = false from rows])

def schemaText (text : String) : String :=
  "\x7b\"type\":\"array\",\"items\":\x7b\"type\":\"array\",\"items\":" ++ text ++ "\x7d\x7d"

theorem write_wrap (items : Value) : Json.write Json.compact (wrap items) =
    "\x7b\"type\":\"array\",\"items\":\x7b\"type\":\"array\",\"items\":".toList ++
      Json.write Json.compact items ++ "\x7d\x7d".toList := by
  have type : Json.compact.string "type" = "\"type\"".toList := rfl
  have array : Json.compact.string "array" = "\"array\"".toList := rfl
  have key : Json.compact.string "items" = "\"items\"".toList := rfl
  have comma : Json.compact.comma = [','] := rfl
  have colon : Json.compact.colon = [':'] := rfl
  simp only [wrap, Json.write, Json.writeEntries, Json.scalarText, Json.keyName, type, array, key,
    comma, colon]
  simp

theorem toText_between (before behind : String) (v : Value) :
    (before ++ Json.toText Json.compact v ++ behind).toList =
      before.toList ++ Json.write Json.compact v ++ behind.toList := by
  rw [String.toList_append, String.toList_append, Json.toText, String.toList_ofList]

theorem schemaText_toList (items : Value) : (schemaText (Json.toText Json.compact items)).toList =
    Json.write Json.compact (wrap items) :=
  (toText_between _ _ items).trans (write_wrap items).symm

/-- Columns that have a union and only keywords in their bags come back unchanged from a schema file
written around their JSON text, whatever their texts hold: the file is loaded as their schema, and
the schema compiles to them without a problem. -/
theorem written_file_compiles (cs : Columns) (path : Source.Path) (suffix : path.suffix = ".json")
    (unions : ∀ c ∈ cs, c.lacksUnion = false ∧ c.KeepsBag)
    (exact : ∀ c ∈ cs, c.HoldsJson Value.Exact) (whole : cs.toValue.holdsHalf = false) :
    ∃ text, cs.toJson = some text ∧
      Source.load path (some (.file (Utf8.encode (schemaText text).toList))) none =
        .ok cs.toSchema ∧
      Schema.compileOutcome cs.toSchema = .ok cs [] := by
  have json : cs.toSchema.IsJson Value.Exact := toSchema_json (fun _ => trivial) exact
  refine ⟨_, toJson_whole whole, ?_, ?_⟩
  · rw [schemaText_toList]
    exact Source.load_written path suffix json (toSchema_whole whole)
  · rw [Schema.compileOutcome, compile_toSchema, recompiled_fixed unions]
    rfl

theorem written_file_compiles_line_ends :
    let cs : Columns := [⟨"a\r\n\u0085\u2028é€😀\"", some ⟨["number", "null"]⟩, "\r",
      some [(.str "min", .int (-3)), (.str "", .list [.object [(.str "\r", .null)]])]⟩]
    let path : Source.Path := ⟨.here, ["s.JSON"]⟩
    path.suffix = ".json" ∧ (∀ c ∈ cs, c.lacksUnion = false ∧ c.KeepsBag) ∧
      (∀ c ∈ cs, c.HoldsJson Value.Exact) ∧ cs.toValue.holdsHalf = false ∧
      ∃ text, cs.toJson = some text ∧
        Source.load path (some (.file (Utf8.encode (schemaText text).toList))) none =
          .ok cs.toSchema ∧
        Schema.compileOutcome cs.toSchema = .ok cs [] := by
  intro cs path
  have suffix : path.suffix = ".json" := by decide
  have unions : ∀ c ∈ cs, c.lacksUnion = false ∧ c.KeepsBag := by
    simp [cs, Column.lacksUnion, TypeUnion.isEmpty, Column.KeepsBag, Column.isField,
      or_imp, forall_and]
  have short : (Nat.toDigits 10 3).length ≤ Json.maxDigits := by decide
  have exact : ∀ c ∈ cs, c.HoldsJson Value.Exact := by
    simp [cs, Column.HoldsJson, Value.Exact, Value.isStr, short, or_imp, forall_and]
  have whole : cs.toValue.holdsHalf = false := by decide +kernel
  exact ⟨suffix, unions, exact, whole, written_file_compiles cs path suffix unions exact whole⟩

end Columns
end Columnar
