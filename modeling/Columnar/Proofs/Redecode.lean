import Columnar.Proofs.Flattening
import Columnar.Proofs.Writable

namespace Columnar

namespace TypeUnion

theorem allStrings_map (names : List Text) : allStrings? (names.map .str) = some names := by
  induction names with
  | nil => rfl
  | cons name names ih => simp [allStrings?, ih]

theorem allStrings_some {vs : List Value} {names : List Text}
    (h : allStrings? vs = some names) : vs = names.map .str := by
  induction vs generalizing names with
  | nil => cases h; rfl
  | cons v vs ih =>
    cases v with
    | str s =>
      simp only [allStrings?, Option.map_eq_some_iff] at h
      obtain ⟨rest, found, rfl⟩ := h
      simp [ih found]
    | _ => cases h

theorem decode_encode {u : TypeUnion} {v : Value} (h : u.encode = some v) : decode v = some u := by
  rcases encode_some h with ⟨_, rfl, rfl⟩ | rfl
  · rfl
  · simp only [decode, allStrings_map, Option.map_some]

theorem decode_some {v : Value} {u : TypeUnion} : decode v = some u ↔
    (∃ name, v = .str name ∧ u.names = [name]) ∨ v = .list (u.names.map .str) ∨
      v = .tuple (u.names.map .str) := by
  obtain ⟨names⟩ := u
  constructor
  · intro found
    cases v with
    | str name => cases found; exact .inl ⟨name, rfl, rfl⟩
    | list vs =>
      obtain ⟨_, texts, same⟩ := Option.map_eq_some_iff.mp found
      cases same
      exact .inr (.inl (congrArg Value.list (allStrings_some texts)))
    | tuple vs =>
      obtain ⟨_, texts, same⟩ := Option.map_eq_some_iff.mp found
      cases same
      exact .inr (.inr (congrArg Value.tuple (allStrings_some texts)))
    | _ => cases found
  · rintro (⟨name, rfl, one⟩ | rfl | rfl)
    · cases one; rfl
    · rw [decode, allStrings_map]; rfl
    · rw [decode, allStrings_map]; rfl

theorem decode_whole {v : Value} {u : TypeUnion} (found : decode v = some u) :
    v.holdsHalf = false ↔ ∀ name ∈ u.names, name.isWhole = true := by
  rcases decode_some.mp found with ⟨name, rfl, one⟩ | rfl | rfl
  · rw [Value.whole_str, one, List.forall_mem_singleton]
  · simp [Value.holdsHalf, Value.holds, Value.isBroken]
  · simp [Value.holdsHalf, Value.holds, Value.isBroken]

end TypeUnion

namespace Value

def IsUnionForm (v : Value) : Prop :=
  v = .null ∨ (∃ s, v = .str s) ∨ ∃ names : List Text, v = .list (names.map .str)

theorem decode_form {v : Value} (form : v.IsUnionForm) :
    v = .null ∨ ∃ u, TypeUnion.decode v = some u := by
  rcases form with rfl | ⟨s, rfl⟩ | ⟨names, rfl⟩
  · exact .inl rfl
  · exact .inr ⟨_, rfl⟩
  · exact .inr ⟨⟨names⟩, by simp [TypeUnion.decode, TypeUnion.allStrings_map]⟩

theorem decode_no_form {allowed : Value → Prop} {v : Value} (json : v.IsJson allowed)
    (form : ¬ v.IsUnionForm) : v ≠ .null ∧ TypeUnion.decode v = none := by
  refine ⟨fun null => form (.inl null), ?_⟩
  cases json with
  | scalar kind _ =>
    cases v with
    | str s => exact absurd (.inr (.inl ⟨s, rfl⟩)) form
    | null | bool | int | float => rfl
    | _ => cases kind
  | @list vs _ =>
    cases found : TypeUnion.allStrings? vs with
    | none => simp [TypeUnion.decode, found]
    | some names =>
      exact absurd (.inr (.inr ⟨names, by rw [TypeUnion.allStrings_some found]⟩)) form
  | object _ _ => rfl

theorem text_no_str {allowed : Value → Prop} {v : Value} (json : v.IsJson allowed)
    (other : ¬ ∃ s, v = .str s) : v.text? = .error .notText := by
  cases json with
  | scalar kind _ =>
    cases v with
    | str s => exact absurd ⟨s, rfl⟩ other
    | null | bool | int | float => rfl
    | _ => cases kind
  | list _ => rfl
  | object _ _ => rfl

end Value

namespace Column

theorem readType_ok {es : Entries} (forms : ∀ v, es.get? "type" = some v → v.IsUnionForm) :
    readType es = .ok ((es.get? "type").bind TypeUnion.decode) := by
  unfold readType
  split
  · rename_i absent; rw [absent]; rfl
  · rename_i null; rw [null]; rfl
  · rename_i v notNull found
    rcases Value.decode_form (forms v found) with rfl | ⟨u, hu⟩
    · exact absurd rfl notNull
    · rw [found, Option.bind_some, hu]

theorem readType_error {allowed : Value → Prop} {es : Entries} {v : Value}
    (found : es.get? "type" = some v) (json : v.IsJson allowed) (form : ¬ v.IsUnionForm) :
    readType es = .error ⟨[.name "type"], .badUnion⟩ := by
  obtain ⟨notNull, undecoded⟩ := Value.decode_no_form json form
  unfold readType
  split
  · rename_i absent; rw [found] at absent; cases absent
  · rename_i null; rw [found] at null; exact absurd (Option.some.inj null) notNull
  · rename_i w _ again
    rw [found] at again
    cases again
    rw [undecoded]

theorem readText_ok {es : Entries} {field : String}
    (texts : ∀ v, es.get? field = some v → ∃ s, v = .str s) :
    readText es field = .ok (((es.get? field).bind Value.str?).getD "") := by
  unfold readText
  split
  · rename_i absent; rw [absent]; rfl
  · rename_i v found
    obtain ⟨s, rfl⟩ := texts v found
    rw [found]
    rfl

theorem readText_error {allowed : Value → Prop} {es : Entries} {field : String} {v : Value}
    (found : es.get? field = some v) (json : v.IsJson allowed) (other : ¬ ∃ s, v = .str s) :
    readText es field = .error ⟨[.name field], .notText⟩ := by
  rw [readText, found]
  simp only [Value.text_no_str json other]
  rfl

theorem readBag_named {es : Entries} (named : es.Named) : readBag es = (es, []) := by
  induction es with
  | nil => rfl
  | cons e es ih =>
    obtain ⟨k, v⟩ := e
    obtain ⟨s, rfl⟩ := Value.str_of_isStr (named.texts (k, v) List.mem_cons_self)
    rw [readBag, ih (Entries.named_sublist named (List.sublist_cons_self _ es))]
    rfl

/-- Under distinct names only the three fields can be at fault, and the bag is that of the
compiler. -/
theorem decodeObject_named {es : Entries} (named : es.Named) : decodeObject es =
    match readText es "title", readType es, readText es "description" with
    | .ok title, .ok type, .ok description => .ok ⟨title, type, description, Schema.bagOf es⟩
    | title, type, description =>
      .error (failures title ++ failures type ++ failures description) := by
  have kept := Entries.named_sublist named (List.filter_sublist (p := fun e => !isField e.1))
  rw [decodeObject, readBag_named kept]
  cases readText es "title" <;> cases readType es <;> cases readText es "description" <;>
    simp [Schema.bagOf, Entries.ofList_named kept, failures]

/-- Whether a keyword that takes the place of a field has a value that the field cannot have. -/
def Misread (c : Column) : Prop :=
  (c.lacksUnion = true ∧ ∃ v, (.str "type", v) ∈ c.bag ∧ ¬ v.IsUnionForm) ∨
    (c.description = "" ∧ ∃ v, (.str "description", v) ∈ c.bag ∧ ¬ ∃ s, v = .str s)

def redecoded (c : Column) : Column where
  title := c.title
  type := ((c.type.bind TypeUnion.encode).or (c.bag.get? "type")).bind TypeUnion.decode
  description := ((c.dump.get? "description").bind Value.str?).getD ""
  validation := Schema.bagOf c.bag

variable {allowed : Value → Prop} {c : Column}

theorem encode_form {u : TypeUnion} {v : Value} (h : u.encode = some v) : v.IsUnionForm := by
  rcases TypeUnion.encode_some h with ⟨name, _, rfl⟩ | rfl
  · exact .inr (.inl ⟨name, rfl⟩)
  · exact .inr (.inr ⟨u.names, rfl⟩)

theorem decode_dump (json : c.HoldsJson allowed) (texts : ∀ s, allowed (.str s)) :
    decode c.toValue = match readType c.dump, readText c.dump "description" with
      | .ok type, .ok description => .ok ⟨c.title, type, description, Schema.bagOf c.bag⟩
      | type, description => .error (failures type ++ failures description) := by
  have title : readText c.dump "title" = .ok c.title := by
    rw [readText, dump_title]
    rfl
  have bag : Schema.bagOf c.dump = Schema.bagOf c.bag := by simp only [Schema.bagOf, dump_keywords]
  change decodeObject c.dump = _
  rw [decodeObject_named (toValue_json texts json).named, title, bag]
  cases readType c.dump <;> cases readText c.dump "description" <;> simp [failures]

theorem dump_type_found {v : Value} (found : c.dump.get? "type" = some v) :
    (∃ u : TypeUnion, u.encode = some v) ∨ c.lacksUnion = true ∧ c.bag.get? "type" = some v := by
  rw [dump_type] at found
  rw [lacksUnion_eq]
  cases h : c.type.bind TypeUnion.encode with
  | some w =>
    obtain ⟨u, _, hu⟩ := Option.bind_eq_some_iff.mp h
    rw [h, Option.some_or] at found
    exact .inl ⟨u, hu.trans found⟩
  | none =>
    rw [h, Option.none_or] at found
    exact .inr ⟨rfl, found⟩

theorem decode_ok (json : c.HoldsJson allowed) (texts : ∀ s, allowed (.str s))
    (clear : ¬ c.Misread) : decode c.toValue = .ok c.redecoded := by
  have named := (bag_json json).named
  have type : readType c.dump = .ok c.redecoded.type := by
    rw [redecoded, ← dump_type]
    apply readType_ok
    intro v found
    rcases dump_type_found found with ⟨u, hu⟩ | ⟨lacks, found⟩
    · exact encode_form hu
    · by_contra form
      exact clear (.inl ⟨lacks, v, (Entries.get?_eq_some named).mp found, form⟩)
  have description : readText c.dump "description" = .ok c.redecoded.description := by
    apply readText_ok
    intro v found
    rw [dump_description] at found
    split at found
    · rename_i empty
      by_contra other
      exact clear (.inr ⟨empty, v, (Entries.get?_eq_some named).mp found, other⟩)
    · exact ⟨_, (Option.some.inj found).symm⟩
  rw [decode_dump json texts, type, description]
  rfl

theorem decode_misread (json : c.HoldsJson allowed) (texts : ∀ s, allowed (.str s))
    (misread : c.Misread) : ∃ ds, decode c.toValue = .error ds := by
  have held := bag_json json
  rw [decode_dump json texts]
  rcases misread with ⟨lacks, v, member, form⟩ | ⟨empty, v, member, other⟩
  · have found : c.dump.get? "type" = some v := by
      rw [lacksUnion_eq, Option.isNone_iff_eq_none] at lacks
      rw [dump_type, lacks, Option.none_or]
      exact (Entries.get?_eq_some held.named).mpr member
    rw [readType_error found (held.values _ member) form]
    exact ⟨_, rfl⟩
  · have found : c.dump.get? "description" = some v := by
      rw [dump_description, if_pos empty]
      exact (Entries.get?_eq_some held.named).mpr member
    rw [readText_error found (held.values _ member) other]
    cases readType c.dump <;> exact ⟨_, rfl⟩

theorem decode_error_iff (json : c.HoldsJson allowed) (texts : ∀ s, allowed (.str s)) :
    (∃ ds, decode c.toValue = .error ds) ↔ c.Misread := by
  constructor
  · rintro ⟨ds, failed⟩
    by_contra clear
    rw [decode_ok json texts clear] at failed
    cases failed
  · exact decode_misread json texts

theorem redecoded_type_free (free : c.FieldFree) :
    c.redecoded.type = (c.type.bind TypeUnion.encode).bind TypeUnion.decode := by
  rw [redecoded, free_absent free "type" rfl, Option.or_none]

theorem redecoded_description_free (free : c.FieldFree) :
    c.redecoded.description = c.description := by
  rw [redecoded, dump_description, free_absent free "description" rfl]
  split
  · rename_i empty; rw [empty]; rfl
  · rfl

theorem clear_free (free : c.FieldFree) : ¬ c.Misread := by
  rintro (⟨_, v, member, _⟩ | ⟨_, v, member, _⟩)
  · cases free _ member
  · cases free _ member

theorem encode_bind_decode (type : Option TypeUnion) :
    ((type.bind TypeUnion.encode).bind TypeUnion.decode).bind TypeUnion.encode =
      type.bind TypeUnion.encode := by
  cases h : type.bind TypeUnion.encode with
  | none => rfl
  | some v =>
    obtain ⟨u, _, hu⟩ := Option.bind_eq_some_iff.mp h
    rw [Option.bind_some, TypeUnion.decode_encode hu, Option.bind_some, hu]

theorem redecoded_type_eq_iff (free : c.FieldFree) :
    c.redecoded.type = c.type ↔ c.type ≠ some ⟨[]⟩ := by
  rw [redecoded_type_free free]
  cases h : c.type with
  | none => simp
  | some u =>
    obtain ⟨names⟩ := u
    cases names with
    | nil => simp [TypeUnion.encode]
    | cons name names =>
      obtain ⟨v, hv⟩ : ∃ v, TypeUnion.encode ⟨name :: names⟩ = some v := by
        cases names <;> exact ⟨_, rfl⟩
      simp [hv, TypeUnion.decode_encode hv]

theorem redecoded_equal_iff (json : c.HoldsJson Value.NotNaN) (sameNaN : Bool) :
    c.redecoded.equal sameNaN c = true ↔ c.type ≠ some ⟨[]⟩ ∧ c.KeepsBag := by
  constructor
  · intro same
    simp only [equal, Bool.and_eq_true, beq_iff_eq] at same
    have keeps := (bag_equal_iff json sameNaN).mp same.2
    exact ⟨(redecoded_type_eq_iff (keeps_free keeps)).mp same.1.1.2, keeps⟩
  · rintro ⟨union, keeps⟩
    have free := keeps_free keeps
    have bags := (bag_equal_iff json sameNaN).mpr keeps
    simp only [equal, Bool.and_eq_true, beq_iff_eq]
    exact ⟨⟨⟨rfl, (redecoded_type_eq_iff free).mpr union⟩, redecoded_description_free free⟩, bags⟩

theorem redecoded_dump (free : c.FieldFree) : c.redecoded.dump = c.dump := by
  have bag : c.redecoded.bag = c.bag := (bagOf_getD _).trans (free_filter free)
  have type : c.redecoded.type.bind TypeUnion.encode = c.type.bind TypeUnion.encode := by
    rw [redecoded_type_free free, encode_bind_decode]
  have fields : c.redecoded.fieldEntries = c.fieldEntries := by
    simp only [fieldEntries, typeEntry, descriptionEntry, type, redecoded_description_free free]
    rfl
  change c.redecoded.fieldEntries ++ c.redecoded.bag.filter _ = c.fieldEntries ++ c.bag.filter _
  rw [fields, bag]

end Column

namespace Columns

theorem decodeItems_ok {i : Nat} {cs : Columns} {f : Column → Column}
    (read : ∀ c ∈ cs, Column.decode c.toValue = .ok (f c)) :
    decodeItems i (cs.map Column.toValue) = .ok (cs.map f) := by
  induction cs generalizing i with
  | nil => rfl
  | cons c cs ih =>
    rw [List.map_cons, decodeItems, read c List.mem_cons_self,
      ih fun d hd => read d (List.mem_cons_of_mem _ hd)]
    rfl

theorem decodeItems_error_iff {i : Nat} {vs : List Value} :
    (∃ ds, decodeItems i vs = .error ds) ↔ ∃ v ∈ vs, ∃ ds, Column.decode v = .error ds := by
  induction vs generalizing i with
  | nil => simp [decodeItems]
  | cons v vs ih =>
    have rest := ih (i := i + 1)
    rw [decodeItems]
    cases head : Column.decode v <;> cases tail : decodeItems (i + 1) vs <;> simp_all

/-- Reading the plain form back fails just where a keyword is misread. What is read is equal to what
was written just where no union is empty and every bag keeps, and has the same plain form whenever
no keyword has the name of a field. -/
theorem plain_form_redecodes (cs : Columns) (json : ∀ c ∈ cs, c.HoldsJson Value.NotNaN) :
    ((∃ ds, decode cs.toValue = .error ds) ↔ ∃ c ∈ cs, c.Misread) ∧
      (∀ rs, decode cs.toValue = .ok rs → ∀ sameNaN, rs.equal sameNaN cs = true ↔
        ∀ c ∈ cs, c.type ≠ some ⟨[]⟩ ∧ c.KeepsBag) ∧
      ((∀ c ∈ cs, c.FieldFree) →
        ∃ rs, decode cs.toValue = .ok rs ∧ rs.toValue = cs.toValue) := by
  have texts : ∀ s, Value.NotNaN (.str s) := by simp [Value.NotNaN]
  have failure : (∃ ds, decode cs.toValue = .error ds) ↔ ∃ c ∈ cs, c.Misread := by
    change (∃ ds, decodeItems 0 (cs.map Column.toValue) = .error ds) ↔ _
    simp only [decodeItems_error_iff, List.mem_map, exists_exists_and_eq_and]
    exact exists_congr fun c => and_congr_right fun hc =>
      Column.decode_error_iff (json c hc) texts
  have success (clear : ∀ c ∈ cs, ¬ c.Misread) :
      decode cs.toValue = .ok (cs.map Column.redecoded) :=
    decodeItems_ok fun c hc => Column.decode_ok (json c hc) texts (clear c hc)
  refine ⟨failure, ?_, ?_⟩
  · intro rs read sameNaN
    have clear : ∀ c ∈ cs, ¬ c.Misread := by
      intro c hc misread
      obtain ⟨ds, failed⟩ := failure.mpr ⟨c, hc, misread⟩
      rw [read] at failed
      cases failed
    rw [success clear] at read
    cases read
    rw [equal_map_iff]
    exact forall₂_congr fun c hc => Column.redecoded_equal_iff (json c hc) sameNaN
  · intro free
    refine ⟨_, success fun c hc => Column.clear_free (free c hc), ?_⟩
    simp only [toValue, List.map_map]
    congr 1
    apply List.map_congr_left
    intro c hc
    exact congrArg Value.object (Column.redecoded_dump (free c hc))

theorem plain_form_redecodes_unequal :
    let cs : Columns := [⟨"a", some ⟨[]⟩, "d", some [(.str "min", .int 0)]⟩,
      ⟨"b", none, "", some []⟩]
    let ds : Columns := [⟨"c", none, "", some [(.str "type", .int 5)]⟩]
    (∀ c ∈ cs, c.HoldsJson Value.NotNaN) ∧
      (∃ rs, decode cs.toValue = .ok rs ∧ rs.equal false cs = false ∧ rs.toValue = cs.toValue) ∧
      (∀ c ∈ ds, c.HoldsJson Value.NotNaN) ∧ ∃ e, decode ds.toValue = .error e := by
  intro cs ds
  have json : ∀ c ∈ cs, c.HoldsJson Value.NotNaN := by
    simp [cs, Column.HoldsJson, Value.NotNaN, Value.isStr]
  have also : ∀ c ∈ ds, c.HoldsJson Value.NotNaN := by
    simp [ds, Column.HoldsJson, Value.NotNaN, Value.isStr]
  obtain ⟨_, equal, plain⟩ := plain_form_redecodes cs json
  have free : ∀ c ∈ cs, c.FieldFree := by
    simp [cs, Column.FieldFree, Column.bag, Column.isField]
  obtain ⟨rs, read, same⟩ := plain free
  have unequal : ¬ ∀ c ∈ cs, c.type ≠ some ⟨[]⟩ ∧ c.KeepsBag := by simp [cs]
  have misread : ∃ c ∈ ds, c.Misread := by
    simp [ds, Column.Misread, Column.lacksUnion, Column.bag, Value.IsUnionForm]
  refine ⟨json, ⟨rs, read, ?_, same⟩, also, (plain_form_redecodes ds also).1.mpr misread⟩
  simpa [unequal] using equal rs read false

end Columns
end Columnar
