import Columnar.Proofs.Lossless
import Columnar.Proofs.Redecode

namespace Columnar.TypeUnion
open Value

def plain (u : TypeUnion) : Value := u.encode.getD .null

theorem plain_some {u : TypeUnion} {v : Value} (written : u.encode = some v) : u.plain = v := by
  rw [plain, written, Option.getD_some]

theorem plain_none {u : TypeUnion} (empty : u.encode = none) : u.plain = .null := by
  rw [plain, empty, Option.getD_none]

theorem names_eq_nil {u : TypeUnion} : u.names = [] ↔ u.encode = none := by
  rw [encode_none, isEmpty, List.isEmpty_iff]

theorem allStrings_isSome {vs : List Value} :
    (∃ names, allStrings? vs = some names) ↔ ∀ w ∈ vs, w.isStr = true := by
  constructor
  · rintro ⟨names, found⟩ w member
    rw [allStrings_some found] at member
    obtain ⟨name, _, rfl⟩ := List.mem_map.mp member
    rfl
  · intro texts
    induction vs with
    | nil => exact ⟨[], rfl⟩
    | cons w vs ih =>
      obtain ⟨first, others⟩ := List.forall_mem_cons.mp texts
      obtain ⟨name, rfl⟩ := str_of_isStr first
      obtain ⟨names, found⟩ := ih others
      exact ⟨name :: names, by rw [allStrings?, found]; rfl⟩

theorem decode_isSome {v : Value} : (∃ u, decode v = some u) ↔
    (∃ s, v = .str s) ∨ ∃ vs, (v = .list vs ∨ v = .tuple vs) ∧ ∀ w ∈ vs, w.isStr = true := by
  constructor
  · rintro ⟨u, found⟩
    have texts := allStrings_isSome.mp ⟨_, allStrings_map u.names⟩
    rcases decode_some.mp found with ⟨s, rfl, _⟩ | rfl | rfl
    · exact .inl ⟨s, rfl⟩
    · exact .inr ⟨_, .inl rfl, texts⟩
    · exact .inr ⟨_, .inr rfl, texts⟩
  · rintro (⟨s, rfl⟩ | ⟨vs, form, texts⟩)
    · exact ⟨_, rfl⟩
    · obtain ⟨names, found⟩ := allStrings_isSome.mpr texts
      rcases form with rfl | rfl
      · exact ⟨_, by rw [decode, found]; rfl⟩
      · exact ⟨_, by rw [decode, found]; rfl⟩

theorem decode_plain (u : TypeUnion) : decode u.plain = if u.names = [] then none else some u := by
  cases written : u.encode with
  | none => rw [plain_none written, if_pos (names_eq_nil.mpr written)]; rfl
  | some v =>
    have named : u.names ≠ [] := fun empty => by simp [names_eq_nil.mp empty] at written
    rw [plain_some written, if_neg named, decode_encode written]

theorem plain_equal {u : TypeUnion} {v : Value} : (u.plain == v) = true ↔ v = u.plain := by
  cases written : u.encode with
  | none =>
    rw [plain_none written]
    change equal false .null v = true ↔ _
    cases v <;> simp [equal, scalarEqual, int?]
  | some w =>
    rw [plain_some written]
    exact same_encoded written

theorem plain_injective : Function.Injective plain := by
  intro u w same
  have back := congrArg decode same
  rw [decode_plain, decode_plain] at back
  split_ifs at back with left right
  · exact congrArg TypeUnion.mk (left.trans right.symm)
  · exact Option.some.inj back

theorem eq_plain_iff {v : Value} {u : TypeUnion} (found : decode v = some u) :
    v = u.plain ↔ (∃ s, v = .str s) ∨ ∃ vs, v = .list vs ∧ 2 ≤ vs.length := by
  obtain ⟨names⟩ := u
  rcases decode_some.mp found with ⟨s, rfl, one⟩ | rfl | rfl
  · cases one
    simp [plain, encode]
  · rcases names with _ | ⟨_, _ | _⟩ <;> simp [plain, encode]
  · rcases names with _ | ⟨_, _ | _⟩ <;> simp [plain, encode]

/-- Which values are read as unions and as which, what is read back of a written union, and which
values are written again as they were read. -/
theorem decoded_iff_forms :
    (∀ v, (∃ u, decode v = some u) ↔
      (∃ s, v = .str s) ∨ ∃ vs, (v = .list vs ∨ v = .tuple vs) ∧ ∀ w ∈ vs, w.isStr = true) ∧
    (∀ v (u : TypeUnion), decode v = some u ↔ (∃ name, v = .str name ∧ u.names = [name]) ∨
      v = .list (u.names.map .str) ∨ v = .tuple (u.names.map .str)) ∧
    (∀ u : TypeUnion, decode u.plain = if u.names = [] then none else some u) ∧
    (∀ u w : TypeUnion, (u.plain == w.plain) = true ↔ u = w) ∧
    ∀ v u, decode v = some u →
      ((u.plain == v) = true ↔ (∃ s, v = .str s) ∨ ∃ vs, v = .list vs ∧ 2 ≤ vs.length) ∧
      (∀ name, v = .list [.str name] ∨ v = .tuple [.str name] → u.plain = .str name) ∧
      (v = .list [] ∨ v = .tuple [] → u.plain = .null) := by
  refine ⟨fun v => decode_isSome, fun v u => decode_some, decode_plain, fun u w => ?_,
    fun v u found => ⟨?_, ?_, ?_⟩⟩
  · rw [plain_equal]
    exact ⟨fun same => plain_injective same.symm, fun same => congrArg plain same.symm⟩
  · rw [plain_equal, eq_plain_iff found]
  · rintro name (rfl | rfl) <;> cases found <;> rfl
  · rintro (rfl | rfl) <;> cases found <;> rfl

theorem decoded_iff_forms_tuple :
    let v : Value := .tuple [.str "", .str "a"]
    let u : TypeUnion := ⟨["", "a"]⟩
    decode v = some u ∧ decode u.plain = some u ∧ (u.plain == v) = false := by
  intro v u
  obtain ⟨_, _, back, _, forth⟩ := decoded_iff_forms
  have found : decode v = some u := rfl
  have other := (forth v u found).1.not.mpr (by simp [v])
  exact ⟨found, back u, Bool.eq_false_iff.mpr other⟩

end Columnar.TypeUnion
