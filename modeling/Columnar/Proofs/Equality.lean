import Columnar.Proofs.Documents
import Mathlib.Data.List.Perm.Subperm

namespace Columnar

namespace Entries

theorem get?_eq_none_iff_notMem {es : Entries} {name : Text} :
    es.get? name = none ↔ .str name ∉ es.map Prod.fst := by
  rw [get?_eq_none, List.mem_map]
  simp only [not_exists, not_and]

theorem keys_subset {es fs : Entries} (texts : ∀ e ∈ es, e.1.isStr = true)
    (found : ∀ name, fs.get? name = none → es.get? name = none) :
    es.map Prod.fst ⊆ fs.map Prod.fst := by
  intro k hk
  obtain ⟨e, he, rfl⟩ := List.mem_map.mp hk
  obtain ⟨name, hname⟩ := Value.str_of_isStr (texts e he)
  by_contra absent
  rw [hname] at hk absent
  exact get?_eq_none_iff_notMem.mp (found name (get?_eq_none_iff_notMem.mpr absent)) hk

end Entries

namespace Value

variable {sameNaN : Bool}

def Same (sameNaN : Bool) (v w : Value) : Prop := equal sameNaN v w = true

theorem same_str {s : Text} {w : Value} (same : Same sameNaN (.str s) w) : w = .str s := by
  cases w <;> simp_all [Same, equal, scalarEqual, int?]

theorem str_same {v : Value} {s : Text} (same : Same sameNaN v (.str s)) : v = .str s := by
  cases v <;> simp_all [Same, equal, scalarEqual, int?]

theorem same_list {vs : List Value} {w : Value} (same : Same sameNaN (.list vs) w) :
    ∃ ws, w = .list ws := by
  cases w <;> simp_all [Same, equal, scalarEqual, int?]

theorem list_same {v : Value} {ws : List Value} (same : Same sameNaN v (.list ws)) :
    ∃ vs, v = .list vs := by
  cases v <;> simp_all [Same, equal, scalarEqual, int?]

theorem same_object {es : Entries} {w : Value} (same : Same sameNaN (.object es) w) :
    ∃ fs, w = .object fs := by
  cases w <;> simp_all [Same, equal, scalarEqual, int?]

theorem object_same {v : Value} {fs : Entries} (same : Same sameNaN v (.object fs)) :
    ∃ es, v = .object es := by
  cases v <;> simp_all [Same, equal, scalarEqual, int?]

theorem str?_congr {v w : Value} (same : Same sameNaN v w) : v.str? = w.str? := by
  cases text : w.str? with
  | some s =>
    rw [str?_eq_some] at text
    subst text
    rw [str_same same, str?]
  | none =>
    rw [Option.eq_none_iff_forall_ne_some]
    intro s other
    rw [str?_eq_some] at other
    subst other
    rw [same_str same] at text
    cases text

theorem lists_same_iff {vs ws : List Value} :
    Same sameNaN (.list vs) (.list ws) ↔ List.Forall₂ (Same sameNaN) vs ws := by
  rw [Same, equal]
  induction vs generalizing ws with
  | nil => cases ws <;> simp [equalItems]
  | cons v vs ih => cases ws <;> simp [equalItems, Same, ih]

theorem rel_none {v? : Option Value} : Option.Rel (Same sameNaN) v? none ↔ v? = none := by
  cases v? <;> simp

theorem none_rel {w? : Option Value} : Option.Rel (Same sameNaN) none w? ↔ w? = none := by
  cases w? <;> simp

/-- Objects of named entries are equal just where equal values, or none, stand under each name. -/
theorem objects_same_iff {es fs : Entries} (left : es.Named) (right : fs.Named) :
    Same sameNaN (.object es) (.object fs) ↔
      ∀ name, Option.Rel (Same sameNaN) (es.get? name) (fs.get? name) := by
  simp only [Same, equal, Bool.and_eq_true, beq_iff_eq, entriesIn_iff]
  constructor
  · rintro ⟨size, partner⟩
    have found : ∀ name v, es.get? name = some v → ∃ w, fs.get? name = some w ∧ Same sameNaN v w := by
      intro name v hv
      obtain ⟨⟨k, w⟩, hf, key, value⟩ := partner _ ((Entries.get?_eq_some left).mp hv)
      cases same_str key
      exact ⟨w, (Entries.get?_eq_some right).mpr hf, value⟩
    have none : ∀ name, fs.get? name = none → es.get? name = none := by
      intro name absent
      cases h : es.get? name with
      | none => rfl
      | some v =>
        obtain ⟨w, hw, _⟩ := found name v h
        rw [absent] at hw
        cases hw
    -- The keys of the one are among those of the other, and both have as many: so they are the same.
    have keys : (es.map Prod.fst).Perm (fs.map Prod.fst) :=
      (List.subperm_of_subset left.distinct (Entries.keys_subset left.texts none)).perm_of_length_le
        (by simp [size])
    intro name
    cases h : es.get? name with
    | some v =>
      obtain ⟨w, hw, value⟩ := found name v h
      rw [hw]
      exact .some value
    | none =>
      rw [Entries.get?_eq_none_iff_notMem, keys.mem_iff, ← Entries.get?_eq_none_iff_notMem] at h
      rw [h]
      exact .none
  · intro same
    have keys : (es.map Prod.fst).Perm (fs.map Prod.fst) := by
      rw [List.perm_ext_iff_of_nodup left.distinct right.distinct]
      intro k
      constructor
      · apply Entries.keys_subset left.texts
        exact fun name absent => rel_none.mp (absent ▸ same name)
      · apply Entries.keys_subset right.texts
        exact fun name absent => none_rel.mp (absent ▸ same name)
    refine ⟨by simpa using keys.length_eq, fun e he => ?_⟩
    obtain ⟨name, hname⟩ := str_of_isStr (left.texts e he)
    have found : es.get? name = some e.2 := (Entries.get?_eq_some left).mpr (hname ▸ he)
    have value := same name
    rw [found] at value
    generalize hw : fs.get? name = w at value
    cases value with
    | some value =>
      exact ⟨_, (Entries.get?_eq_some right).mp hw, by rw [hname]; simp [equal], value⟩

end Value
end Columnar
