import Columnar.Outcome
import Mathlib

namespace Columnar.Outcome

variable {α β γ : Type}

theorem map_success (f : α → Option β) (v : Option α) (ws : List Text) :
    (success v ws).map f = success (v.bind f) ws := by
  cases v <;> rfl

theorem map_map_iff (r : Outcome α) (f : α → Option β) (g : Option β → Option γ) :
    (r.map f).map (fun w => g (some w)) = r.map (fun v => g (f v)) ↔
      ∀ v, r.value? = some v → f v = none → g none = none := by
  cases r with
  | failure e => simp [map, value?]
  | success v ws =>
    rw [map_success, map_success, map_success]
    cases v with
    | none => simp [value?]
    | some v => cases given : f v <;> simp [value?, given, eq_comm]

theorem unwrap_map (f : α → Option β) (r : Outcome α) :
    (r.map f).unwrap = r.unwrap.bind fun v => (f v).elim (.error .noValue) .ok := by
  cases r with
  | failure e => rfl
  | success v ws =>
    rw [map_success]
    cases v with
    | none => rfl
    | some v => cases given : f v <;> simp [unwrap, Except.bind, given]

theorem map_keeps (f : α → Option β) (r : Outcome α) : (r.map f).succeeded = r.succeeded ∧
    (r.map f).error? = r.error? ∧ (r.map f).warnings = r.warnings := by
  cases r with
  | failure e => exact ⟨rfl, rfl, rfl⟩
  | success v ws =>
    rw [map_success]
    exact ⟨rfl, rfl, rfl⟩

/-- Applying one function after another is applying them as one, just if the second one is not asked
to make something of nothing. What is taken out afterwards is what the function gives for what was
taken out before; where it gives nothing, as where nothing was held, there is nothing to take out. A
failure stays as it is, and nothing but the value is ever changed. -/
theorem map_composes_iff (r : Outcome α) (f : α → Option β) (g : Option β → Option γ) :
    ((r.map f).map (fun w => g (some w)) = r.map (fun v => g (f v)) ↔
        ∀ v, r.value? = some v → f v = none → g none = none) ∧
      (∀ v, r.unwrap = .ok v → (∀ w, f v = some w → (r.map f).unwrap = .ok w) ∧
        (f v = none → (r.map f).unwrap = .error .noValue)) ∧
      (∀ e, r.unwrap = .error e → (r.map f).unwrap = .error e) ∧
      (∀ e, r = .failure e → r.map f = .failure e) ∧
      (r.map f).succeeded = r.succeeded ∧ (r.map f).error? = r.error? ∧
      (r.map f).warnings = r.warnings := by
  refine ⟨map_map_iff r f g, fun v taken => ?_, fun e stuck => ?_, ?_, map_keeps f r⟩
  · rw [unwrap_map, taken]
    exact ⟨fun w given => by rw [Except.bind, given]; rfl,
      fun nothing => by rw [Except.bind, nothing]; rfl⟩
  · rw [unwrap_map, stuck]
    rfl
  · rintro e rfl
    rfl

theorem map_composes_iff_nothing :
    let f : Nat → Option Nat := fun n => if n = 0 then none else some (n + 1)
    let g : Option Nat → Option Nat := fun n => n.map (· + 1)
    let r : Outcome Nat := ok 0 ["w"]
    (f 0 = none ∧ g none = none) ∧
      (r.map f).map (fun w => g (some w)) = r.map (fun n => g (f n)) ∧
      (r.map f).unwrap = .error .noValue ∧ ((ok 1 []).map f).unwrap = .ok 2 ∧
      ((success none []).map f).unwrap = .error .noValue ∧ (failure "e").map f = .failure "e" := by
  intro f g r
  obtain ⟨composed, taken, _⟩ := map_composes_iff r f g
  obtain ⟨_, given, _⟩ := map_composes_iff (ok 1 []) f g
  obtain ⟨_, _, stuck, _⟩ := map_composes_iff (success none []) f g
  obtain ⟨_, _, _, failed, _⟩ := map_composes_iff (failure "e") f g
  exact ⟨⟨rfl, rfl⟩, composed.mpr fun _ _ _ => rfl, (taken 0 rfl).2 rfl, (given 1 rfl).1 2 rfl,
    stuck .noValue rfl, failed "e" rfl⟩

/-- Where a function gives nothing, the next one is not applied, and there is nothing to take
out. -/
theorem nothing_stops :
    let r : Outcome Value := ok (.int 1) []
    let nothing : Value → Option Value := fun _ => none
    let wrap : Option Value → Option Value := fun v => some (.list [v.getD .null])
    (r.map nothing).map (fun w => wrap (some w)) ≠ r.map (fun v => wrap (nothing v)) ∧
      r.succeeded = true ∧ (r.map nothing).unwrap = .error .noValue := by
  intro r nothing wrap
  refine ⟨fun same => ?_, rfl, rfl⟩
  cases same

end Columnar.Outcome
