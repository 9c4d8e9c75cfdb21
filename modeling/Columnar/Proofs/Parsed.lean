import Columnar.Proofs.Loading
import Columnar.Proofs.Written

namespace Columnar

namespace Document

theorem check_json {allowed : Value → Prop} {v : Value} (json : v.IsJson allowed) (start : Text) :
    check v start = .ok none :=
  check_passes.mpr (firstDefect_json json)

theorem select_json {allowed : Value → Prop} {document : Value} (json : document.IsJson allowed)
    (null : allowed .null) (path : Text) : (select document path).IsJson allowed := by
  rcases select_holds document path with inside | nothing
  · exact json.within inside
  · rw [nothing]
    exact .scalar rfl null

end Document

namespace Source
open Text

theorem picked_json {allowed : Value → Prop} {document : Value} (json : document.IsJson allowed)
    (null : allowed .null) (key : Option Text) : (picked key document).IsJson allowed := by
  cases key with
  | none => exact json
  | some path => exact Document.select_json json null path

/-- How loading ends where nothing is asked of what is picked but that it is an object, and that its
values are not nested deeper than calls may be. -/
inductive EndsPicked (calls : Nat) (path : Path) (key : Option Text) (document : Value) :
    Except Error Value → Prop
  | loaded {es : Entries} : picked key document = .object es →
      Document.reach (picked key document) ≤ calls →
      EndsPicked calls path key document (.ok (picked key document))
  | tooDeep {es : Entries} : picked key document = .object es →
      calls < Document.reach (picked key document) →
      EndsPicked calls path key document (.error .tooDeep)
  | refused : (∀ es, picked key document ≠ .object es) →
      EndsPicked calls path key document (.error (.refused path (.notObject key)))

theorem checked_json (path : Path) (key : Option Text) {allowed : Value → Prop} {schema : Value}
    (json : schema.IsJson allowed) : checked path key schema = .ok schema := by
  rw [checked, Document.check_json json]

theorem readJson_parsed (path : Path) {data : List UInt8} {cs : List Char} {document : Value}
    (decoded : Utf8.decode data = .ok cs) (read : Json.read (unifyNewlines cs) = .ok document) :
    readJson path data = .ok document := by
  unfold readJson
  simp only [decoded, read]

section
variable {path : Path} (suffix : path.suffix = ".json")

include suffix

theorem ofSuffix_json : Format.ofSuffix? path.suffix = some .json := by
  rw [suffix]
  rfl

theorem loadWithin_parsed (calls : Nat) {data : List UInt8} {cs : List Char} {document : Value}
    (decoded : Utf8.decode data = .ok cs) (read : Json.read (unifyNewlines cs) = .ok document)
    (key : Option Text) : EndsPicked calls path (effectiveKey key) document
      (loadWithin calls path (some (.file data)) key) := by
  have parsed : readDocument path .json data = .ok document := readJson_parsed path decoded read
  have json := picked_json (Json.read_legible read) trivial (effectiveKey key)
  rw [loadWithin, selected_file (ofSuffix_json suffix), parsed]
  change EndsPicked _ _ _ _ ((selectObject path (effectiveKey key) document).bind _)
  unfold selectObject
  split
  · rename_i es chosen
    rw [← chosen]
    change EndsPicked _ _ _ _ (if calls < Document.reach (picked (effectiveKey key) document) then
      .error .tooDeep else checked path (effectiveKey key) (picked (effectiveKey key) document))
    rw [checked_json path _ json]
    split
    · rename_i deep
      exact .tooDeep chosen deep
    · rename_i enough
      exact .loaded chosen (Nat.not_lt.mp enough)
  · rename_i other
    exact .refused other

theorem loadWithin_compatible (calls : Nat) (node : Option Node) (key : Option Text)
    (problem : Text) :
    loadWithin calls path node key ≠ .error (.refused path (.incompatible problem)) := by
  intro refused
  rcases node with _ | (_ | data | _)
  · simp [loadWithin, selected, Except.bind] at refused
  · simp [loadWithin, selected, ofSuffix_json suffix, Except.bind] at refused
  · cases read : readJson path data with
    | error e =>
      have parsed : readDocument path .json data = .error e := read
      rw [loadWithin, selected_file (ofSuffix_json suffix), parsed] at refused
      cases refused
      unfold readJson at read
      split at read
      · cases read
      · dsimp only at read
        split at read <;> cases read
    | ok document =>
      obtain ⟨cs, decoded, parsed⟩ := readJson_ok read
      have ends := loadWithin_parsed suffix calls decoded parsed key
      rw [refused] at ends
      cases ends
  · simp [loadWithin, selected, ofSuffix_json suffix, Except.bind] at refused

end

/-- The check passes every document that comes of JSON and all that a path picks out of it. So no
JSON file is refused for what stands in it: where the file is read, loading gives what the key
picks, or refuses it for being no object. But the check goes into a value with a call for every
value on the way down, so of what is nested deeper than calls may be loading makes nothing. -/
theorem parsed_passes (calls : Nat) (path : Path) (suffix : path.suffix = ".json") :
    (∀ text document, Json.read text = .ok document → ∀ start,
      Document.check document start = .ok none ∧
        ∀ key, Document.check (Document.select document key) start = .ok none) ∧
    (∀ node key problem,
      loadWithin calls path node key ≠ .error (.refused path (.incompatible problem))) ∧
    ∀ data cs document key, Utf8.decode data = .ok cs →
      Json.read (unifyNewlines cs) = .ok document →
      EndsPicked calls path (effectiveKey key) document
        (loadWithin calls path (some (.file data)) key) := by
  refine ⟨fun text document read start => ?_, loadWithin_compatible suffix calls, ?_⟩
  · have json := Json.read_legible read
    exact ⟨Document.check_json json start, fun key =>
      Document.check_json (Document.select_json json trivial key) start⟩
  · intro data cs document key decoded read
    exact loadWithin_parsed suffix calls decoded read key

theorem parsed_passes_repeated :
    let path : Path := ⟨.here, ["s.JSON"]⟩
    let text := "\x7b\"k\":null,\"k\":\x7b\"x\":[NaN],\"y\":\x7b\x7d\x7d\x7d".toList
    let document : Value :=
      .object [(.str "k", .object [(.str "x", .list [.float .nan]), (.str "y", .object [])])]
    let file : Node := .file (Utf8.encode text)
    (path.suffix = ".json" ∧ Json.read text = .ok document) ∧
      Document.check document "$" = .ok none ∧
      loadWithin 3 path (some file) (some "k.y") = .ok (.object []) ∧
      loadWithin 2 path (some file) (some "k") = .error .tooDeep ∧
      loadWithin 3 path (some file) (some "k.x") =
        .error (.refused path (.notObject (some "k.x"))) := by
  intro path text document file
  have suffix : path.suffix = ".json" := by decide
  have lines : unifyNewlines text = text := by decide
  have read : Json.read text = .ok document := by
    unfold text document
    cbv
  have ends (calls : Nat) (key : String) := (parsed_passes calls path suffix).2.2 _ _ _
    (some (.whole key)) (Utf8.decode_encode text) (lines ▸ read)
  have object := ends 3 "k.y"
  have deep := ends 2 "k"
  have list := ends 3 "k.x"
  refine ⟨⟨suffix, read⟩, ((parsed_passes 3 path suffix).1 text document read "$").1, ?_, ?_, ?_⟩
  · generalize loadWithin 3 path _ _ = r at object ⊢
    cases object with
    | loaded _ _ => rfl
    | tooDeep _ deep => exact absurd deep (by decide)
    | refused other => exact absurd rfl (other _)
  · generalize loadWithin 2 path _ _ = r at deep ⊢
    cases deep with
    | loaded _ enough => exact absurd enough (by decide)
    | tooDeep _ _ => rfl
    | refused other => exact absurd rfl (other _)
  · generalize loadWithin 3 path _ _ = r at list ⊢
    cases list with
    | loaded chosen _ => cases chosen
    | tooDeep chosen _ => cases chosen
    | refused _ => rfl

/-! Nesting without a bound -/

def nested : Nat → Entries
  | 0 => []
  | depth + 1 => [(.str "a", .object (nested depth))]

theorem nested_json (depth : Nat) : (Value.object (nested depth)).IsJson Value.Exact := by
  induction depth with
  | zero => exact .object ⟨nofun, .nil⟩ nofun
  | succ depth ih =>
    refine .object ⟨?_, by simp [nested]⟩ ?_
    · simp [nested, Value.isStr]
    · simpa [nested] using ih

theorem nested_whole (depth : Nat) : (Value.object (nested depth)).holdsHalf = false := by
  induction depth with
  | zero => rfl
  | succ depth ih =>
    refine Value.holds_object.mpr ?_
    simp only [nested, List.forall_mem_singleton]
    exact ⟨rfl, ih⟩

theorem nested_reach (depth : Nat) : Document.reach (.object (nested depth)) = depth + 1 := by
  induction depth with
  | zero => rfl
  | succ depth ih =>
    have clear := Document.firstDefect_json (nested_json depth)
    rw [nested, Document.reach, Document.reachEntries, ih, clear]
    simp [Value.isStr, Document.reachEntries]

/-- However many calls may be open at once, there is a JSON file that loading makes nothing of. -/
theorem nested_fails (calls : Nat) :
    let path : Path := ⟨.here, ["s.json"]⟩
    let text := Json.write Json.compact (.object (nested calls))
    Json.read text = .ok (.object (nested calls)) ∧
      loadWithin calls path (some (.file (Utf8.encode text))) none = .error .tooDeep := by
  intro path text
  have suffix : path.suffix = ".json" := by decide
  refine ⟨Json.read_exact (nested_json calls) (nested_whole calls), ?_⟩
  rw [loadWithin, selected_written path suffix (nested_json calls) (nested_whole calls)]
  exact if_pos (by rw [nested_reach]; exact Nat.lt_succ_self calls)

theorem deep_file_fails :
    let path : Path := ⟨.here, ["s.json"]⟩
    let text := Json.write Json.compact (.object (nested 1000))
    Json.read text = .ok (.object (nested 1000)) ∧
      loadWithin 1000 path (some (.file (Utf8.encode text))) none = .error .tooDeep :=
  nested_fails 1000

end Source
end Columnar
