import Columnar.Proofs.Documents
import Columnar.Proofs.Slices
import Columnar.TypeUnion

namespace Columnar.TypeUnion

def HasAt (u : TypeUnion) (v : Value) (a b : Int) (i : Nat) : Prop :=
  a ≤ i ∧ i < b ∧ ∃ name, u.names[i]? = some name ∧ (Value.str name == v) = true

theorem isName_iff {v : Value} {name : Text} : isName v name = true ↔ v = .str name := by
  rw [isName, Value.beq_str, beq_iff_eq, Value.str?_eq_some]

theorem passes_isName (u : TypeUnion) (v : Value) (a b : Int) (i : Nat) :
    Passes (isName v) u.names a b i ↔ u.HasAt v a b i := by
  simp only [Passes, HasAt, isName, Value.beq_str, Value.str_beq]

theorem index_eq_some {u : TypeUnion} {v : Value} {start stop : Option Int} {a b : Int}
    (bounds : Slice.Bounds ⟨start, stop, 1⟩ u.names.length a b) {i : Nat} :
    u.index? v (start.getD 0) stop = some i ↔ IsLeast {i | u.HasAt v a b i} i := by
  simp only [← passes_isName]
  exact findPlace_eq_some bounds

theorem index_eq_none {u : TypeUnion} {v : Value} {start stop : Option Int} {a b : Int}
    (bounds : Slice.Bounds ⟨start, stop, 1⟩ u.names.length a b) :
    u.index? v (start.getD 0) stop = none ↔ ∀ i, ¬ u.HasAt v a b i := by
  simp only [← passes_isName]
  exact findPlace_eq_none bounds

theorem exists_hasAt {u : TypeUnion} {name : Text} :
    (∃ i, u.HasAt (.str name) 0 u.names.length i) ↔ name ∈ u.names := by
  constructor
  · rintro ⟨i, _, _, other, found, same⟩
    rw [Value.str_beq, Value.str?, beq_iff_eq, Option.some_inj] at same
    exact same ▸ List.mem_of_getElem? found
  · intro member
    obtain ⟨i, found⟩ := List.mem_iff_getElem?.mp member
    obtain ⟨inside, _⟩ := List.getElem?_eq_some_iff.mp found
    exact ⟨i, by omega, by omega, name, found, by simp [Value.str?]⟩

theorem membership_views (u : TypeUnion) (name : Text) :
    [name ∈ u.names, u.hasType name = true, u.contains (.str name) = true,
      0 < u.count (.str name), (u.index? (.str name) 0 none).isSome = true].TFAE := by
  tfae_have 2 ↔ 1 := by rw [hasType, List.contains_iff_mem]
  tfae_have 3 ↔ 1 := by
    rw [contains, List.any_eq_true]
    simp only [isName_iff, Value.str.injEq, exists_eq_right']
  tfae_have 4 ↔ 1 := by
    rw [count, List.countP_pos_iff]
    simp only [isName_iff, Value.str.injEq, exists_eq_right']
  tfae_have 5 ↔ 1 := by
    have whole := Slice.bounds_ends ⟨none, none, 1⟩ u.names.length
    have nowhere := index_eq_none (v := .str name) whole
    rw [← exists_hasAt, Option.isSome_iff_ne_none, ← not_forall_not, Ne, not_iff_not]
    exact nowhere
  tfae_finish

/-- A value is found at the least place in the window of the bounds where a name equals it, and
nowhere just if there is none; a text is found in the whole union if any of the other views knows
it. A slice takes the names at the places of a walk between its bounds. Cut at any place, a union is
its two parts, one behind the other; backwards it is its names reversed, and twice backwards
itself. -/
theorem places_and_slices (u : TypeUnion) :
    (∀ (v : Value) (start stop : Option Int), ∃ a b,
      Slice.Bounds ⟨start, stop, 1⟩ u.names.length a b ∧
      (∀ i, u.index? v (start.getD 0) stop = some i ↔ IsLeast {i | u.HasAt v a b i} i) ∧
      (u.index? v (start.getD 0) stop = none ↔ ∀ i, ¬ u.HasAt v a b i)) ∧
    (∀ name, [u.hasType name = true, u.contains (.str name) = true, 0 < u.count (.str name),
      (u.index? (.str name) 0 none).isSome = true].TFAE) ∧
    (∀ s : Slice, s.step ≠ 0 → ∃ a b places names, s.Bounds u.names.length a b ∧
      s.Walk a b places ∧ u.slice? s = some names ∧
      List.Forall₂ (fun i name => u.names[i]? = some name) places names) ∧
    (∀ m : Int, ∃ front back, u.slice? ⟨none, some m, 1⟩ = some front ∧
      u.slice? ⟨some m, none, 1⟩ = some back ∧ front ++ back = u.names) ∧
    u.slice? ⟨none, none, -1⟩ = some u.names.reverse ∧
    Slice.pick? ⟨none, none, -1⟩ u.names.reverse = some u.names := by
  refine ⟨fun v start stop => ?_, fun name => ?_, fun s step => ?_,
    fun m => Slice.windows_whole m u.names, Slice.pick_reverse u.names, ?_⟩
  · have bounds := Slice.bounds_ends ⟨start, stop, 1⟩ u.names.length
    exact ⟨_, _, bounds, fun i => index_eq_some bounds, index_eq_none bounds⟩
  · exact (List.tfae_cons_cons.mp (membership_views u name)).2
  · obtain ⟨names, picked, each⟩ := Slice.pick_places step u.names
    exact ⟨_, _, _, names, s.bounds_ends _, Slice.walk_places step _, picked, each⟩
  · rw [Slice.pick_reverse, List.reverse_reverse]

theorem places_and_slices_outside :
    let u : TypeUnion := ⟨["a", "b", "c"]⟩
    let s : Slice := ⟨some 9, some (-9), -2⟩
    s.step ≠ 0 ∧ u.slice? s = some (["c", "a"] : List Text) ∧ ∃ places, s.Walk 2 (-1) places ∧
      List.Forall₂ (fun i name => u.names[i]? = some name) places (["c", "a"] : List Text) := by
  intro u s
  have step : s.step ≠ 0 := by decide
  obtain ⟨_, _, slices, _⟩ := places_and_slices u
  obtain ⟨a, b, places, names, bounds, walk, picked, each⟩ := slices s step
  obtain ⟨rfl, rfl⟩ := bounds.backwards (by decide)
  have found : u.slice? s = some (["c", "a"] : List Text) := by decide
  cases picked.symm.trans found
  exact ⟨step, found, places, walk, each⟩

end Columnar.TypeUnion
