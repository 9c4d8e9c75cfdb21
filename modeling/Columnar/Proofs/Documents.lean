import Columnar.Document
import Columnar.Proofs.Text.Points

namespace Columnar

namespace Value

@[simp] theorem str_beq (s : Text) (k : Value) :
    ((.str s : Value) == k) = (k.str? == some s) := by
  change equal false (.str s) k = _
  cases k <;> simp [equal, scalarEqual, str?, int?, eq_comm, beq_eq_decide]

@[simp] theorem beq_str (k : Value) (s : Text) :
    (k == (.str s : Value)) = (k.str? == some s) := by
  change equal false k (.str s) = _
  cases k <;> simp [equal, scalarEqual, str?, int?, beq_eq_decide]

theorem str?_eq_some {k : Value} {s : Text} : k.str? = some s ↔ k = .str s := by
  cases k <;> simp [str?]

theorem str_of_isStr {k : Value} (h : k.isStr = true) : ∃ s, k = .str s := by
  cases k <;> simp [isStr] at h
  exact ⟨_, rfl⟩

def isLeaf : Value → Bool
  | .list _ | .object _ => false
  | _ => true

/-- Induction by way of the items of lists and the values of objects. -/
@[elab_as_elim]
theorem parts_induction {motive : Value → Prop} (list : ∀ vs, (∀ v ∈ vs, motive v) → motive (.list vs))
    (object : ∀ es : Entries, (∀ e ∈ es, motive e.2) → motive (.object es))
    (leaf : ∀ v, isLeaf v = true → motive v) (v : Value) : motive v := by
  match v with
  | .list vs => exact list vs fun w member => parts_induction list object leaf w
  | .object es => exact object es fun e member => parts_induction list object leaf e.2
  | .null | .bool _ | .int _ | .float _ | .str _ => exact leaf _ rfl
  | .bytes _ | .date _ | .datetime _ | .tuple _ | .set _ => exact leaf _ rfl
termination_by sizeOf v
decreasing_by
  · have smaller := List.sizeOf_lt_of_mem member
    simp
    omega
  · have smaller := List.sizeOf_lt_of_mem member
    obtain ⟨k, w⟩ := e
    simp at smaller ⊢
    omega

end Value

namespace Entries

/-- Entries as an object of texts has them: every key is a text, and no two are the same. -/
structure Named (es : Entries) : Prop where
  texts : ∀ e ∈ es, e.1.isStr = true
  distinct : (es.map Prod.fst).Nodup

@[simp] theorem named_nil : Named [] := ⟨by simp, by simp⟩

@[simp] theorem named_cons {k v : Value} {es : Entries} :
    Named ((k, v) :: es) ↔ k.isStr = true ∧ k ∉ es.map Prod.fst ∧ es.Named := by
  constructor
  · rintro ⟨texts, distinct⟩
    obtain ⟨head, tail⟩ := List.forall_mem_cons.mp texts
    obtain ⟨new, rest⟩ := List.nodup_cons.mp distinct
    exact ⟨head, new, tail, rest⟩
  · rintro ⟨head, new, tail, rest⟩
    exact ⟨List.forall_mem_cons.mpr ⟨head, tail⟩, List.nodup_cons.mpr ⟨new, rest⟩⟩

theorem named_sublist {es fs : Entries} (named : Named fs) (h : es.Sublist fs) : Named es :=
  ⟨fun e he => named.texts e (h.subset he), named.distinct.sublist (h.map Prod.fst)⟩

theorem insert_new {es : Entries} {k : Value} (text : k.isStr = true) (new : k ∉ es.map Prod.fst)
    (v : Value) : es.insert k v = es ++ [(k, v)] := by
  obtain ⟨s, rfl⟩ := Value.str_of_isStr text
  induction es with
  | nil => rfl
  | cons e es ih =>
    simp only [List.map_cons, List.mem_cons, not_or] at new
    have other : (e.1 == (.str s : Value)) = false := by
      simpa [Value.str?_eq_some] using fun h => new.1 h.symm
    simp only [insert, other, Bool.false_eq_true, if_false, ih new.2, List.cons_append]

theorem ofList_named {es : Entries} (named : Named es) : ofList es = es := by
  -- What is built so far stays in front, and the next name is none of its own.
  have go : ∀ (fs acc : Entries), Named (acc ++ fs) →
      fs.foldl (fun acc e => acc.insert e.1 e.2) acc = acc ++ fs := by
    intro fs
    induction fs with
    | nil => intro acc _; simp
    | cons e fs ih =>
      intro acc h
      have distinct := h.distinct
      rw [List.map_append, List.map_cons, List.nodup_append] at distinct
      have new : e.1 ∉ acc.map Prod.fst := fun he => distinct.2.2 _ he _ List.mem_cons_self rfl
      have split : acc ++ e :: fs = acc ++ [(e.1, e.2)] ++ fs := by simp
      rw [List.foldl_cons, insert_new (h.texts e (by simp)) new, split]
      exact ih _ (split ▸ h)
  exact go es [] named

theorem get?_append (es fs : Entries) (name : Text) :
    get? (es ++ fs) name = (es.get? name).or (fs.get? name) := by
  simp only [get?, List.find?_append]
  cases es.find? fun e => e.1.str? == some name <;> rfl

@[simp] theorem get?_nil (name : Text) : get? [] name = none := rfl

theorem get?_cons (k : Text) (v : Value) (es : Entries) (name : Text) :
    get? ((.str k, v) :: es) name = if k = name then some v else es.get? name := by
  by_cases h : k = name <;> simp [get?, Value.str?, h]

theorem get?_filter {es : Entries} {test : Value × Value → Bool} {name : Text}
    (kept : ∀ e ∈ es, e.1 = .str name → test e = true) :
    get? (es.filter test) name = es.get? name := by
  induction es with
  | nil => rfl
  | cons e es ih =>
    have tail := ih fun f hf => kept f (List.mem_cons_of_mem _ hf)
    have head := kept e List.mem_cons_self
    by_cases h : e.1 = .str name
    · simp [get?, head h, h, Value.str?]
    · have other : (e.1.str? == some name) = false := by simpa [Value.str?_eq_some] using h
      cases ht : test e <;> simp_all [get?]

theorem get?_mem {es : Entries} {name : Text} {v : Value} (found : es.get? name = some v) :
    (.str name, v) ∈ es := by
  obtain ⟨⟨k, w⟩, first, rfl⟩ := Option.map_eq_some_iff.mp found
  have key : k = .str name := by simpa [Value.str?_eq_some] using List.find?_some first
  exact key ▸ List.mem_of_find?_eq_some first

theorem get?_eq_none {es : Entries} {name : Text} :
    es.get? name = none ↔ ∀ e ∈ es, e.1 ≠ .str name := by
  simp [get?, Value.str?_eq_some]

theorem hasName_eq (es : Entries) (name : Text) : es.hasName name = (es.get? name).isSome := by
  rw [Bool.eq_iff_iff]
  simp [hasName, get?]

theorem get?_eq_some {es : Entries} (named : Named es) {name : Text} {v : Value} :
    es.get? name = some v ↔ (.str name, v) ∈ es := by
  induction es with
  | nil => simp
  | cons e es ih =>
    have rest := ih (named_sublist named (List.sublist_cons_self e es))
    have new := (List.nodup_cons.mp named.distinct).1
    by_cases h : e.1 = .str name
    · obtain ⟨k, w⟩ := e
      cases h
      have absent : (.str name, v) ∉ es := fun hv => new (List.mem_map.mpr ⟨_, hv, rfl⟩)
      simp [get?_cons, absent, eq_comm]
    · have other : (e.1.str? == some name) = false := by simpa [Value.str?_eq_some] using h
      have differs : (.str name, v) ≠ e := fun he => h (he ▸ rfl)
      rw [List.mem_cons, ← rest]
      simp [get?, other, differs]

end Entries

namespace Value

/-- What a JSON document can hold: scalars, lists, and objects of named entries. `allowed` has a
say on each scalar. -/
inductive IsJson (allowed : Value → Prop) : Value → Prop
  | scalar {v : Value} : Document.isScalar v = true → allowed v → IsJson allowed v
  | list {vs : List Value} : (∀ v ∈ vs, IsJson allowed v) → IsJson allowed (.list vs)
  | object {es : Entries} : es.Named → (∀ e ∈ es, IsJson allowed e.2) → IsJson allowed (.object es)

def NotNaN (v : Value) : Prop := v ≠ .float .nan

section
variable {allowed : Value → Prop}

theorem isJson_scalar {v : Value} (kind : Document.isScalar v = true) :
    IsJson allowed v ↔ allowed v := by
  constructor
  · intro json
    cases json with
    | scalar _ ok => exact ok
    | list _ | object _ _ => cases kind
  · exact .scalar kind

@[simp] theorem isJson_null : IsJson allowed .null ↔ allowed .null := isJson_scalar rfl

@[simp] theorem isJson_bool {b : Bool} : IsJson allowed (.bool b) ↔ allowed (.bool b) :=
  isJson_scalar rfl

@[simp] theorem isJson_int {n : Int} : IsJson allowed (.int n) ↔ allowed (.int n) :=
  isJson_scalar rfl

@[simp] theorem isJson_str {s : Text} : IsJson allowed (.str s) ↔ allowed (.str s) :=
  isJson_scalar rfl

@[simp] theorem isJson_float {x : Binary64} : IsJson allowed (.float x) ↔ allowed (.float x) :=
  isJson_scalar rfl

@[simp] theorem isJson_list {vs : List Value} :
    IsJson allowed (.list vs) ↔ ∀ v ∈ vs, IsJson allowed v := by
  refine ⟨fun json => ?_, .list⟩
  cases json with
  | scalar kind _ => cases kind
  | list items => exact items

@[simp] theorem isJson_object {es : Entries} :
    IsJson allowed (.object es) ↔ es.Named ∧ ∀ e ∈ es, IsJson allowed e.2 := by
  refine ⟨fun json => ?_, fun ⟨named, values⟩ => .object named values⟩
  cases json with
  | scalar kind _ => cases kind
  | object named values => exact ⟨named, values⟩

end

namespace IsJson

variable {allowed : Value → Prop}

theorem named {es : Entries} (json : IsJson allowed (.object es)) : es.Named :=
  (isJson_object.mp json).1

theorem values {es : Entries} (json : IsJson allowed (.object es)) : ∀ e ∈ es, IsJson allowed e.2 :=
  (isJson_object.mp json).2

theorem mono {other : Value → Prop} (weaker : ∀ v, Document.isScalar v = true → allowed v → other v)
    {v : Value} (json : IsJson allowed v) : IsJson other v := by
  induction json with
  | scalar kind ok => exact .scalar kind (weaker _ kind ok)
  | list _ ih => exact .list ih
  | object named _ ih => exact .object named ih

theorem sublist {es fs : Entries} (json : IsJson allowed (.object fs)) (h : es.Sublist fs) :
    IsJson allowed (.object es) :=
  .object (Entries.named_sublist json.named h) fun e he => json.values e (h.subset he)

theorem get? {es : Entries} (json : IsJson allowed (.object es)) {name : Text} {v : Value}
    (h : es.get? name = some v) : IsJson allowed v :=
  json.values _ ((Entries.get?_eq_some json.named).mp h)

end IsJson

theorem scalar_equal_self {sameNaN : Bool} {v : Value} (kind : Document.isScalar v = true)
    (number : v.NotNaN) : equal sameNaN v v = true := by
  cases v with
  | float x => cases x <;> simp_all [equal, scalarEqual, Binary64.equal, NotNaN]
  | null | bool b | int n | str s => simp [equal, scalarEqual, int?]
  | _ => cases kind

theorem items_equal_self {sameNaN : Bool} {vs : List Value}
    (h : ∀ v ∈ vs, equal sameNaN v v = true) : equalItems sameNaN vs vs = true := by
  induction vs with
  | nil => simp [equalItems]
  | cons v vs ih =>
    rw [equalItems, h v List.mem_cons_self, ih fun w hw => h w (List.mem_cons_of_mem _ hw)]
    rfl

theorem entriesIn_iff {sameNaN : Bool} {es fs : Entries} : entriesIn sameNaN es fs = true ↔
    ∀ e ∈ es, ∃ f ∈ fs, equal sameNaN e.1 f.1 = true ∧ equal sameNaN e.2 f.2 = true := by
  induction es with
  | nil => simp [entriesIn]
  | cons e es ih =>
    rw [entriesIn, Bool.and_eq_true, ih, List.forall_mem_cons]
    simp only [List.any_eq_true, Bool.and_eq_true]

theorem entries_in {sameNaN : Bool} {es fs : Entries} (sub : ∀ e ∈ es, e ∈ fs)
    (h : ∀ e ∈ es, equal sameNaN e.1 e.1 = true ∧ equal sameNaN e.2 e.2 = true) :
    entriesIn sameNaN es fs = true := by
  rw [entriesIn_iff]
  exact fun e he => ⟨e, sub e he, h e he⟩

/-- Without a NaN every document equals itself, also where its parts are made anew. -/
theorem equal_self {v : Value} (json : v.IsJson NotNaN) (sameNaN : Bool) :
    equal sameNaN v v = true := by
  induction json with
  | scalar kind number => exact scalar_equal_self kind number
  | list _ ih => rw [equal, items_equal_self ih]
  | @object es named _ ih =>
    have both : ∀ e ∈ es, equal sameNaN e.1 e.1 = true ∧ equal sameNaN e.2 e.2 = true := by
      intro e he
      obtain ⟨s, hs⟩ := str_of_isStr (named.texts e he)
      exact ⟨by simp [hs, equal], ih e he⟩
    simp only [equal, BEq.rfl, entries_in (fun e he => he) both, Bool.and_self]

end Value
end Columnar
