import Columnar.Proofs.Json.Floats

namespace Columnar

def Binary64.isFinite : Binary64 → Bool
  | .finite _ _ _ => true
  | _ => false

namespace Value

mutual

def spelled : Value → Value
  | .float x => if x.isFinite then .float x else .null
  | .list vs => .list (spelledItems vs)
  | .object es => .object (spelledEntries es)
  | v => v

def spelledItems : List Value → List Value
  | [] => []
  | v :: vs => spelled v :: spelledItems vs

def spelledEntries : Entries → Entries
  | [] => []
  | (k, v) :: es => (k, spelled v) :: spelledEntries es

end

def IsFinite (v : Value) : Prop := ∀ x, v = .float x → x.isFinite = true

theorem finite_str (s : Text) : IsFinite (.str s) := by rintro x ⟨⟩

def Legible : Value → Prop
  | .int n => (Nat.toDigits 10 n.natAbs).length ≤ Json.maxDigits
  | _ => True

theorem spelledItems_eq (vs : List Value) : spelledItems vs = vs.map spelled := by
  induction vs with
  | nil => rfl
  | cons v vs ih => rw [spelledItems, ih, List.map_cons]

theorem spelledEntries_eq (es : Entries) :
    spelledEntries es = es.map fun e => (e.1, e.2.spelled) := by
  induction es with
  | nil => rfl
  | cons e es ih => rw [spelledEntries, ih, List.map_cons]

@[simp] theorem spelledEntries_keys (es : Entries) :
    (spelledEntries es).map Prod.fst = es.map Prod.fst := by
  simp [spelledEntries_eq, Function.comp_def]

theorem spelledEntries_append (es fs : Entries) :
    spelledEntries (es ++ fs) = spelledEntries es ++ spelledEntries fs := by
  simp only [spelledEntries_eq, List.map_append]

theorem spelledEntries_filter (test : Value → Bool) (es : Entries) :
    (spelledEntries es).filter (fun e => test e.1) =
      spelledEntries (es.filter fun e => test e.1) := by
  simp only [spelledEntries_eq, List.filter_map, Function.comp_def]

theorem named_spelled {es : Entries} (named : es.Named) : (spelledEntries es).Named := by
  refine ⟨fun f member => ?_, by rw [spelledEntries_keys]; exact named.distinct⟩
  rw [spelledEntries_eq] at member
  obtain ⟨e, inside, rfl⟩ := List.mem_map.mp member
  exact named.texts e inside

section
variable {allowed : Value → Prop} {v : Value}

theorem spelled_json (json : v.IsJson allowed) :
    v.spelled.IsJson fun w => (w = .null ∨ allowed w) ∧ w.IsFinite := by
  induction json with
  | @scalar v kind ok =>
    cases v with
    | float x =>
      rw [spelled]
      split
      · rename_i finite
        exact .scalar rfl ⟨.inr ok, by rintro y ⟨⟩; exact finite⟩
      · exact .scalar rfl ⟨.inl rfl, by rintro y ⟨⟩⟩
    | null | bool | int | str => exact .scalar rfl ⟨.inr ok, by rintro y ⟨⟩⟩
    | _ => cases kind
  | list _ ih =>
    rw [spelled, spelledItems_eq]
    exact .list (List.forall_mem_map.mpr ih)
  | object named _ ih =>
    refine .object (named_spelled named) ?_
    rw [spelledEntries_eq]
    exact List.forall_mem_map.mpr ih

theorem spelled_self (json : v.IsJson IsFinite) : v.spelled = v := by
  induction json with
  | @scalar v kind finite =>
    cases v with
    | float x => rw [spelled, if_pos (finite x rfl)]
    | null | bool | int | str => rfl
    | _ => cases kind
  | list _ ih =>
    rw [spelled, spelledItems_eq, List.map_congr_left ih, List.map_id']
  | @object es _ _ ih =>
    have same : ∀ e ∈ es, (e.1, e.2.spelled) = id e := fun e he => by rw [ih e he]; rfl
    rw [spelled, spelledEntries_eq, List.map_congr_left same, List.map_id]

theorem spelled_whole (json : v.IsJson allowed) (whole : v.holdsHalf = false) :
    v.spelled.holdsHalf = false := by
  induction json with
  | @scalar v kind _ =>
    cases v with
    | float x => rw [spelled]; split <;> rfl
    | null | bool | int | str => exact whole
    | _ => cases kind
  | list _ ih =>
    rw [spelled, spelledItems_eq]
    refine holds_list.mpr (List.forall_mem_map.mpr fun v member => ?_)
    exact ih v member (holds_list.mp whole v member)
  | object _ _ ih =>
    rw [spelled, spelledEntries_eq]
    refine holds_object.mpr (List.forall_mem_map.mpr fun e member => ?_)
    obtain ⟨key, value⟩ := holds_object.mp whole e member
    exact ⟨key, ih e member value⟩

theorem items_equal_spelled {sameNaN : Bool} {vs : List Value}
    (same : equalItems sameNaN (spelledItems vs) vs = true) :
    ∀ v ∈ vs, equal sameNaN v.spelled v = true := by
  induction vs with
  | nil => nofun
  | cons v vs ih =>
    rw [spelledItems, equalItems, Bool.and_eq_true] at same
    exact List.forall_mem_cons.mpr ⟨same.1, ih same.2⟩

theorem entries_equal_spelled {sameNaN : Bool} {es : Entries} (named : es.Named)
    (same : entriesIn sameNaN (spelledEntries es) es = true) :
    ∀ e ∈ es, equal sameNaN e.2.spelled e.2 = true := by
  intro e member
  rw [spelledEntries_eq, entriesIn_iff, List.forall_mem_map] at same
  obtain ⟨f, other, key, value⟩ := same e member
  obtain ⟨s, name⟩ := str_of_isStr (named.texts e member)
  obtain ⟨t, again⟩ := str_of_isStr (named.texts f other)
  have names : s = t := by simpa [name, again, equal] using key
  -- Under distinct names an entry can only be found in its own place.
  have one : e = f := List.inj_on_of_nodup_map named.distinct member other (by
    rw [name, again, names])
  rwa [← one] at value

/-- The document that is spelled is equal to the document just where every number is finite. -/
theorem spelled_equal_iff (json : v.IsJson allowed) (sameNaN : Bool) :
    equal sameNaN v.spelled v = true ↔ v.IsJson IsFinite := by
  constructor
  · intro same
    induction json with
    | @scalar v kind _ =>
      refine .scalar kind ?_
      rintro x rfl
      by_contra unbounded
      rw [spelled, if_neg unbounded] at same
      simp [equal, scalarEqual, int?] at same
    | list _ ih =>
      rw [spelled, equal] at same
      exact .list fun v hv => ih v hv (items_equal_spelled same v hv)
    | object named _ ih =>
      rw [spelled, equal, Bool.and_eq_true] at same
      exact .object named fun e he => ih e he (entries_equal_spelled named same.2 e he)
  · intro finite
    have number : v.IsJson NotNaN := finite.mono fun w _ ok nan => by cases ok _ nan
    rw [spelled_self finite]
    exact equal_self number sameNaN

end

end Value

namespace Json
open Value

theorem writeItems_congr {style : Style} {vs : List Value}
    (same : ∀ v ∈ vs, write style v.spelled = write style v) :
    writeItems style (spelledItems vs) = writeItems style vs := by
  induction vs with
  | nil => rfl
  | cons v vs ih =>
    obtain ⟨head, tail⟩ := List.forall_mem_cons.mp same
    cases vs with
    | nil => simp only [spelledItems, writeItems, head]
    | cons w ws =>
      have others := ih tail
      simp only [spelledItems] at others
      simp only [spelledItems, writeItems, head, others]

theorem writeEntries_congr {style : Style} {es : Entries}
    (same : ∀ e ∈ es, write style e.2.spelled = write style e.2) :
    writeEntries style (spelledEntries es) = writeEntries style es := by
  induction es with
  | nil => rfl
  | cons e es ih =>
    obtain ⟨head, tail⟩ := List.forall_mem_cons.mp same
    obtain ⟨k, v⟩ := e
    cases es with
    | nil => simp only [spelledEntries, writeEntries, head]
    | cons f fs =>
      have others := ih tail
      simp only [spelledEntries] at others
      simp only [spelledEntries, writeEntries, head, others]

theorem write_spelled {allowed : Value → Prop} {v : Value} (json : v.IsJson allowed) :
    write compact v.spelled = write compact v := by
  induction json with
  | @scalar v kind _ =>
    cases v with
    | float x =>
      cases x with
      | nan | finite => rfl
      | infinite negative => cases negative <;> rfl
    | null | bool | int | str => rfl
    | _ => cases kind
  | list _ ih => simp only [spelled, write, writeItems_congr ih]
  | object _ _ ih => simp only [spelled, write, writeEntries_congr ih]

theorem legible_readsBack {v : Value} (kind : Document.isScalar v = true)
    (legible : v = .null ∨ v.Legible) (finite : v.IsFinite) (apart : v.isSplit = false) :
    ReadsBack compact v := by
  cases v with
  | null => exact exact_readsBack rfl trivial apart
  | bool => exact exact_readsBack rfl trivial apart
  | str => exact exact_readsBack rfl trivial apart
  | int n => exact int_readsBack (legible.resolve_left nofun)
  | float x =>
    cases x with
    | finite negative rank bounded => exact finite_readsBack negative bounded
    | nan => cases finite _ rfl
    | infinite => cases finite _ rfl
  | _ => cases kind

theorem read_write_spelled {v : Value} (json : v.IsJson Legible) (whole : v.holdsHalf = false) :
    read (write compact v) = .ok v.spelled := by
  have kept := apart_of_whole (spelled_json json) (spelled_whole json whole)
  rw [← write_spelled json]
  exact read_write compact_lawful (((spelled_json json).without kept).mono
    fun _ kind ok => legible_readsBack kind ok.1.1 ok.1.2 ok.2) kept

end Json
end Columnar
