import Columnar.Proofs.Compiled
import Columnar.Proofs.Equality

namespace Columnar

namespace Value

variable {allowed : Value → Prop} {sameNaN : Bool}

section
variable {v? w? : Option Value}

theorem rel_str (same : Option.Rel (Same sameNaN) v? w?) {s : Text} :
    v? = some (.str s) ↔ w? = some (.str s) := by
  cases same with
  | none => simp
  | some same =>
    simp only [Option.some.injEq]
    constructor
    · rintro rfl
      exact same_str same
    · rintro rfl
      exact str_same same

theorem rel_object (same : Option.Rel (Same sameNaN) v? w?) {es : Entries}
    (found : v? = some (.object es)) :
    ∃ fs, w? = some (.object fs) ∧ Same sameNaN (.object es) (.object fs) := by
  cases same with
  | none => cases found
  | some same =>
    cases found
    obtain ⟨fs, rfl⟩ := same_object same
    exact ⟨fs, rfl, same⟩

theorem object_rel (same : Option.Rel (Same sameNaN) v? w?) {fs : Entries}
    (found : w? = some (.object fs)) : ∃ es, v? = some (.object es) := by
  cases same with
  | none => cases found
  | some same =>
    cases found
    obtain ⟨es, rfl⟩ := object_same same
    exact ⟨es, rfl⟩

theorem rel_list (same : Option.Rel (Same sameNaN) v? w?) {vs : List Value}
    (found : v? = some (.list vs)) :
    ∃ ws, w? = some (.list ws) ∧ List.Forall₂ (Same sameNaN) vs ws := by
  cases same with
  | none => cases found
  | some same =>
    cases found
    obtain ⟨ws, rfl⟩ := same_list same
    exact ⟨ws, rfl, lists_same_iff.mp same⟩

theorem list_rel (same : Option.Rel (Same sameNaN) v? w?) {ws : List Value}
    (found : w? = some (.list ws)) : ∃ vs, v? = some (.list vs) := by
  cases same with
  | none => cases found
  | some same =>
    cases found
    obtain ⟨vs, rfl⟩ := list_same same
    exact ⟨vs, rfl⟩

theorem rel_isNone (same : Option.Rel (Same sameNaN) v? w?) : v?.isNone = w?.isNone := by
  cases same <;> rfl

theorem rel_text (same : Option.Rel (Same sameNaN) v? w?) : v?.bind str? = w?.bind str? := by
  cases same with
  | none => rfl
  | some same => exact str?_congr same

end

theorem objects_get? {es fs : Entries} (left : (Value.object es).IsJson allowed)
    (right : (Value.object fs).IsJson allowed) (same : Same sameNaN (.object es) (.object fs))
    (name : Text) : Option.Rel (Same sameNaN) (es.get? name) (fs.get? name) :=
  (objects_same_iff left.named right.named).mp same name

theorem under_congr {s t : Value} (left : s.IsJson allowed) (right : t.IsJson allowed)
    (same : Same sameNaN s t) (name : Text) :
    Option.Rel (Same sameNaN) (s.under name) (t.under name) := by
  by_cases object : ∃ es, s = .object es
  · obtain ⟨es, rfl⟩ := object
    obtain ⟨fs, rfl⟩ := same_object same
    exact objects_get? left right same name
  · have neither : s.under name = none ∧ t.under name = none := by
      constructor
      · rw [Option.eq_none_iff_forall_ne_some]
        intro v found
        obtain ⟨es, rfl, _⟩ := under_eq_some.mp found
        exact object ⟨es, rfl⟩
      · rw [Option.eq_none_iff_forall_ne_some]
        intro w found
        obtain ⟨fs, rfl, _⟩ := under_eq_some.mp found
        exact object (object_same same)
    rw [neither.1, neither.2]
    exact .none

end Value

namespace Schema
open Value

variable {allowed : Value → Prop} {sameNaN : Bool}

theorem refused_congr {s t : Value} (left : s.IsJson allowed) (right : t.IsJson allowed)
    (same : Same sameNaN s t) {e : TableError} (refused : Refused s e) : Refused t e := by
  have type := under_congr left right same "type"
  have items := under_congr left right same "items"
  cases refused with
  | noType other => exact .noType fun name found => other name ((rel_str type).mpr found)
  | objectRows found => exact .objectRows ((rel_str type).mp found)
  | unknownType found notArray notObject =>
    exact .unknownType ((rel_str type).mp found) notArray notObject
  | noItems array other =>
    refine .noItems ((rel_str type).mp array) fun rows found => ?_
    obtain ⟨es, found⟩ := object_rel items found
    exact other es found
  | noColumns array found other =>
    obtain ⟨rows, again, rowsSame⟩ := rel_object items found
    have inside := objects_get? (left.under found) (right.under again) rowsSame "items"
    refine .noColumns ((rel_str type).mp array) again fun ws h => ?_
    obtain ⟨vs, h⟩ := list_rel inside h
    exact other vs h

theorem tabular_congr {s t : Value} (left : s.IsJson allowed) (right : t.IsJson allowed)
    (same : Same sameNaN s t) {vs : List Value} (table : Tabular s vs) :
    ∃ ws, Tabular t ws ∧ List.Forall₂ (Same sameNaN) vs ws := by
  obtain ⟨array, rows, found, inside⟩ := table
  have type := under_congr left right same "type"
  obtain ⟨others, again, rowsSame⟩ := rel_object (under_congr left right same "items") found
  have within := objects_get? (left.under found) (right.under again) rowsSame "items"
  obtain ⟨ws, inside, each⟩ := rel_list within inside
  exact ⟨ws, ⟨(rel_str type).mp array, others, again, inside⟩, each⟩

theorem names_congr {vs ws : List Value} (each : List.Forall₂ (Same sameNaN) vs ws) :
    vs.filterMap str? = ws.filterMap str? := by
  induction each with
  | nil => rfl
  | cons head _ ih => simp only [List.filterMap_cons, str?_congr head, ih]

theorem typeOf_other {v : Value} (noText : ∀ s, v ≠ .str s) (noList : ∀ vs, v ≠ .list vs) :
    typeOf (some v) = defaultType := by
  cases v with
  | str s => exact absurd rfl (noText s)
  | list vs => exact absurd rfl (noList vs)
  | _ => rfl

theorem typeOf_congr {v? w? : Option Value} (same : Option.Rel (Same sameNaN) v? w?) :
    typeOf v? = typeOf w? := by
  cases same with
  | none => rfl
  | @some v w same =>
    by_cases text : ∃ s, v = .str s
    · obtain ⟨s, rfl⟩ := text
      rw [same_str same]
    · by_cases items : ∃ vs, v = .list vs
      · obtain ⟨vs, rfl⟩ := items
        obtain ⟨ws, rfl⟩ := same_list same
        simp only [typeOf, names_congr (lists_same_iff.mp same)]
      · rw [typeOf_other (fun s h => text ⟨s, h⟩) fun vs h => items ⟨vs, h⟩, typeOf_other]
        · rintro s rfl
          exact text ⟨s, str_same same⟩
        · rintro ws rfl
          exact items (list_same same)

theorem bagOf_congr {es fs : Entries} (left : (Value.object es).IsJson allowed)
    (right : (Value.object fs).IsJson allowed) (same : Same sameNaN (.object es) (.object fs)) :
    Column.bagsEqual sameNaN (bagOf es) (bagOf fs) = true := by
  have kept : Same sameNaN (.object (Column.keywords es)) (.object (Column.keywords fs)) := by
    refine (objects_same_iff (Column.keywords_named left.named)
      (Column.keywords_named right.named)).mpr fun name => ?_
    rw [Column.keywords_get?, Column.keywords_get?]
    split
    · exact .none
    · exact objects_get? left right same name
  have size : (Column.keywords es).isEmpty = (Column.keywords fs).isEmpty := by
    have lengths := kept
    simp only [Same, equal, Bool.and_eq_true, beq_iff_eq] at lengths
    rw [Bool.eq_iff_iff, List.isEmpty_iff_length_eq_zero, List.isEmpty_iff_length_eq_zero, lengths.1]
  rw [Column.bagOf_eq, Column.bagOf_eq, size]
  split
  · rfl
  · exact kept

theorem compileObject_congr {es fs : Entries} (left : (Value.object es).IsJson allowed)
    (right : (Value.object fs).IsJson allowed) (same : Same sameNaN (.object es) (.object fs))
    (i : Nat) : (compileObject i es).1.equal sameNaN (compileObject i fs).1 = true ∧
      (compileObject i es).2 = (compileObject i fs).2 := by
  have stands := objects_get? left right same
  simp only [compileObject, Column.equal, rel_text (stands "title"), rel_text (stands "description"),
    typeOf_congr (stands "type"), rel_isNone (stands "type"), bagOf_congr left right same, BEq.rfl,
    Bool.and_self, and_self]

theorem compileColumn_other {v : Value} (other : ∀ es, v ≠ .object es) (i : Nat) :
    compileColumn i v = (⟨defaultTitle i, some defaultType, "", none⟩, [.notObject i]) := by
  cases v with
  | object es => exact absurd rfl (other es)
  | _ => rfl

theorem compileColumn_congr {v w : Value} (left : v.IsJson allowed) (right : w.IsJson allowed)
    (same : Same sameNaN v w) (i : Nat) :
    (compileColumn i v).1.equal sameNaN (compileColumn i w).1 = true ∧
      (compileColumn i v).2 = (compileColumn i w).2 := by
  by_cases object : ∃ es, v = .object es
  · obtain ⟨es, rfl⟩ := object
    obtain ⟨fs, rfl⟩ := same_object same
    exact compileObject_congr left right same i
  · have neither : ∀ fs, w ≠ .object fs := by
      rintro fs rfl
      exact object (object_same same)
    rw [compileColumn_other (fun es h => object ⟨es, h⟩), compileColumn_other neither]
    simp [Column.equal, Column.bagsEqual]

end Schema

namespace Column
open Value

variable {allowed : Value → Prop} {sameNaN : Bool}

theorem bag_congr {a b : Column} (same : bagsEqual sameNaN a.validation b.validation = true) :
    Same sameNaN (.object a.bag) (.object b.bag) := by
  unfold bag
  cases ha : a.validation <;> cases hb : b.validation <;> rw [ha, hb] at same
  · simp [Same, Value.equal, entriesIn]
  · cases same
  · cases same
  · exact same

theorem toValue_congr {a b : Column} (texts : ∀ s, allowed (.str s)) (left : a.HoldsJson allowed)
    (right : b.HoldsJson allowed) (same : a.equal sameNaN b = true) :
    Same sameNaN a.toValue b.toValue := by
  simp only [equal, Bool.and_eq_true, beq_iff_eq] at same
  obtain ⟨⟨⟨title, type⟩, description⟩, bags⟩ := same
  have fields : b.fieldEntries = a.fieldEntries := by
    simp only [fieldEntries, typeEntry, descriptionEntry, title, type, description]
  have bags := objects_get? (bag_json left) (bag_json right) (bag_congr bags)
  refine (objects_same_iff (toValue_json texts left).named (toValue_json texts right).named).mpr ?_
  intro name
  rw [dump_get?, dump_get?, fields]
  -- A field is the same value in both; any other name is looked up in the bags.
  cases found : a.fieldEntries.get? name with
  | none => exact bags name
  | some v =>
    have number : ∀ s, NotNaN (.str s) := by simp [NotNaN]
    exact .some (Value.equal_self ((fields_json number a).get? found) sameNaN)

end Column

namespace Columns
open Value

variable {allowed : Value → Prop} {sameNaN : Bool}

theorem equal_iff {as bs : Columns} : as.equal sameNaN bs = true ↔
    List.Forall₂ (fun a b => Column.equal sameNaN a b = true) as bs := by
  induction as generalizing bs with
  | nil => cases bs <;> simp [equal]
  | cons a as ih => cases bs <;> simp [equal, ih]

theorem titles_congr {as bs : Columns} (same : as.equal sameNaN bs = true) :
    as.titles = bs.titles := by
  have each := equal_iff.mp same
  clear same
  induction each with
  | nil => rfl
  | cons head _ ih =>
    simp only [Column.equal, Bool.and_eq_true, beq_iff_eq] at head
    simp only [titles, List.map_cons, head.1.1.1] at ih ⊢
    rw [ih]

theorem toSchema_congr {as bs : Columns} (texts : ∀ s, allowed (.str s))
    (left : ∀ a ∈ as, a.HoldsJson allowed) (right : ∀ b ∈ bs, b.HoldsJson allowed)
    (same : as.equal sameNaN bs = true) : Same sameNaN as.toSchema bs.toSchema := by
  have items : Same sameNaN as.toValue bs.toValue := by
    obtain ⟨size, each⟩ := List.forall₂_iff_get.mp (equal_iff.mp same)
    refine lists_same_iff.mpr (List.forall₂_iff_get.mpr ⟨by simpa using size, fun i ha hb => ?_⟩)
    rw [List.length_map] at ha hb
    simpa using Column.toValue_congr texts (left _ (List.getElem_mem ha))
      (right _ (List.getElem_mem hb)) (each i ha hb)
  unfold Same at items ⊢
  simp [toSchema, wrap, Value.equal, entriesIn, items]

end Columns

namespace Schema
open Value

variable {allowed : Value → Prop} {sameNaN : Bool}

theorem compileItems_congr {vs ws : List Value} (left : ∀ v ∈ vs, v.IsJson allowed)
    (right : ∀ w ∈ ws, w.IsJson allowed) (each : List.Forall₂ (Same sameNaN) vs ws) :
    (compileItems vs).columns.equal sameNaN (compileItems ws).columns = true ∧
      (compileItems vs).problems = (compileItems ws).problems := by
  obtain ⟨size, each⟩ := List.forall₂_iff_get.mp each
  -- By place and not by induction, as a column's default title depends on its place.
  have parts (i : Nat) (hv : i < vs.length) (hw : i < ws.length) :=
    compileColumn_congr (left _ (List.getElem_mem hv)) (right _ (List.getElem_mem hw))
      (each i hv hw) i
  constructor
  · rw [Columns.equal_iff, List.forall₂_iff_get]
    refine ⟨by simp [compileItems, size], fun i hv hw => ?_⟩
    simpa [compileItems] using (parts i (by simpa [compileItems] using hv)
      (by simpa [compileItems] using hw)).1
  · have lists : (vs.mapIdx compileColumn).map Prod.snd = (ws.mapIdx compileColumn).map Prod.snd := by
      apply List.ext_getElem (by simp [size])
      intro i hv hw
      simpa using (parts i (by simpa using hv) (by simpa using hw)).2
    simp only [compileItems, lists]

/-- Two documents that are equal get the same error, or columns that are equal, with the same
problems and titles, and with equal schemas of their own. -/
theorem compile_congr {s t : Value} (left : s.IsJson fun _ => True) (right : t.IsJson fun _ => True)
    (same : s.equal sameNaN t = true) :
    (∃ f g, compile s = .error f ∧ compile t = .error g ∧ f.toError = g.toError) ∨
      ∃ r q, compile s = .ok r ∧ compile t = .ok q ∧ r.columns.equal sameNaN q.columns = true ∧
        r.lines = q.lines ∧ r.columns.titles = q.columns.titles ∧
        r.columns.toSchema.equal sameNaN q.columns.toSchema = true := by
  cases compiled : compile s with
  | error f =>
    have refused := compile_error_iff.mp ⟨f, compiled, rfl⟩
    obtain ⟨g, failed, error⟩ := compile_error_iff.mpr (refused_congr left right same refused)
    exact .inl ⟨f, g, rfl, failed, error.symm⟩
  | ok r =>
    obtain ⟨vs, table, rfl⟩ := compile_ok_iff.mp compiled
    obtain ⟨ws, other, each⟩ := tabular_congr left right same table
    have again := compile_ok_iff.mpr ⟨ws, other, rfl⟩
    obtain ⟨columns, problems⟩ :=
      compileItems_congr (tabular_json left table) (tabular_json right other) each
    refine .inr ⟨_, _, rfl, again, columns, ?_, Columns.titles_congr columns, ?_⟩
    · rw [Compiled.lines, problems, Compiled.lines]
    · exact Columns.toSchema_congr (fun _ => trivial)
        (fun c hc => (compiled_columns compiled c hc).2.2 _ left)
        (fun c hc => (compiled_columns again c hc).2.2 _ right) columns

theorem compile_congr_reordered :
    let one : Binary64 := .finite false 4607182418800017408 (by decide)
    let s := Columns.wrap (.list [.object [(.str "title", .str "a"), (.str "min", .int 1),
      (.str "enum", .list [.bool true, .float one])]])
    let t : Value := .object [(.str "items", .object [(.str "items", .list [.object
      [(.str "enum", .list [.float one, .int 1]), (.str "min", .bool true),
        (.str "title", .str "a")]]), (.str "type", .str "array")]), (.str "type", .str "array")]
    s.IsJson (fun _ => True) ∧ t.IsJson (fun _ => True) ∧ s.equal false t = true ∧
      ∃ r q, compile s = .ok r ∧ compile t = .ok q ∧ r.columns.equal false q.columns = true ∧
        r.lines = (["col, 0 type is not set, defaulting to string"] : List Text) ∧
        q.lines = r.lines ∧
        r.columns.toSchema.equal false q.columns.toSchema = true := by
  intro one s t
  have left : s.IsJson fun _ => True := by simp [s, Columns.wrap, isStr]
  have right : t.IsJson fun _ => True := by simp [t, isStr]
  have same : s.equal false t = true := by decide +kernel
  rcases compile_congr left right same with
    ⟨f, _, failed, _⟩ | ⟨r, q, first, second, equal, lines, _, wrapped⟩
  · cases failed
  · refine ⟨left, right, same, r, q, first, second, equal, ?_, lines.symm, wrapped⟩
    cases first
    rfl

end Schema
end Columnar
