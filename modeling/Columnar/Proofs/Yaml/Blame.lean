import Columnar.Yaml.Cursor

namespace Columnar.Yaml

def Blames {ε α : Type} (bad : ε → Prop) (r : Except ε α) : Prop := ∀ e, r = .error e → bad e

section
variable {ε α β : Type} {bad other : ε → Prop}

theorem blames_ok (a : α) : Blames bad (.ok a : Except ε α) := nofun

theorem Blames.mono {r : Except ε α} (blames : Blames bad r) (weaker : ∀ e, bad e → other e) :
    Blames other r :=
  fun e failed => weaker e (blames e failed)

theorem blames_ite {p : Prop} [Decidable p] {r s : Except ε α} (yes : Blames bad r)
    (no : Blames bad s) : Blames bad (if p then r else s) := by
  split
  · exact yes
  · exact no

theorem blames_if {p : Prop} [Decidable p] {r s : Except ε α} (yes : p → Blames bad r)
    (no : Blames bad s) : Blames bad (if p then r else s) := by
  split
  · exact yes ‹_›
  · exact no

theorem Blames.bind {r : Except ε α} {f : α → Except ε β} (first : Blames bad r)
    (second : ∀ a, r = .ok a → Blames bad (f a)) : Blames bad (r >>= f) := by
  intro e failed
  cases r with
  | error d => exact first e (by cases failed; rfl)
  | ok a => exact second a rfl e failed

theorem Blames.map {r : Except ε α} (blames : Blames bad r) (f : α → β) : Blames bad (r.map f) := by
  intro e failed
  cases r with
  | error d => exact blames e (by cases failed; rfl)
  | ok a => cases failed

theorem Blames.mapError {δ : Type} {worse : δ → Prop} {r : Except ε α} (blames : Blames bad r)
    {f : ε → δ} (told : ∀ e, bad e → worse (f e)) : Blames worse (r.mapError f) := by
  intro e failed
  cases r with
  | error d => cases failed; exact told d (blames d rfl)
  | ok a => cases failed

theorem blames_mapM {f : α → Except ε β} {xs : List α} (each : ∀ x ∈ xs, Blames bad (f x)) :
    Blames bad (xs.mapM f) := by
  induction xs with
  | nil => exact blames_ok _
  | cons x xs ih =>
    obtain ⟨head, tail⟩ := List.forall_mem_cons.mp each
    rw [List.mapM_cons]
    exact head.bind fun _ _ => (ih tail).bind fun _ _ => blames_ok _

theorem blames_forM {f : α → Except ε PUnit} {xs : List α} (each : ∀ x ∈ xs, Blames bad (f x)) :
    Blames bad (xs.forM f) := by
  induction xs with
  | nil => exact blames_ok _
  | cons x xs ih =>
    obtain ⟨head, tail⟩ := List.forall_mem_cons.mp each
    exact head.bind fun _ _ => ih tail

theorem bind_ok {r : Except ε α} {f : α → Except ε β} {b : β} (done : (r >>= f) = .ok b) :
    ∃ a, r = .ok a ∧ f a = .ok b := by
  cases r with
  | error e => cases done
  | ok a => exact ⟨a, rfl, done⟩

theorem map_ok {r : Except ε α} {f : α → β} {b : β} (done : r.map f = .ok b) :
    ∃ a, r = .ok a ∧ f a = b := by
  cases r with
  | error e => cases done
  | ok a => exact ⟨a, rfl, Except.ok.inj done⟩

theorem mapError_ok {δ : Type} {r : Except ε α} {f : ε → δ} {a : α} (done : r.mapError f = .ok a) :
    r = .ok a := by
  cases r with
  | error e => cases done
  | ok b => exact congrArg Except.ok (Except.ok.inj done)

theorem mapM_ok {f : α → Except ε β} {xs : List α} {ys : List β} (done : xs.mapM f = .ok ys) :
    ∀ y ∈ ys, ∃ x ∈ xs, f x = .ok y := by
  induction xs generalizing ys with
  | nil => cases done; nofun
  | cons x xs ih =>
    rw [List.mapM_cons] at done
    obtain ⟨z, head, done⟩ := bind_ok done
    obtain ⟨zs, tail, done⟩ := bind_ok done
    cases done
    intro y member
    rcases List.mem_cons.mp member with rfl | member
    · exact ⟨x, List.mem_cons_self, head⟩
    · obtain ⟨w, inside, value⟩ := ih tail y member
      exact ⟨w, List.mem_cons_of_mem _ inside, value⟩

end

inductive Stops (cause : Unreadable → Prop) : Fault → Prop
  | malformed : Stops cause .malformed
  | unreadable {u : Unreadable} (why : cause u) : Stops cause (.unreadable u)

section
variable {α : Type} {cause other : Unreadable → Prop}

theorem blames_malformed : Blames (Stops cause) (malformed : Except Fault α) := by
  rintro _ ⟨⟩
  exact .malformed

theorem Stops.mono {f : Fault} (stops : Stops cause f) (weaker : ∀ u, cause u → other u) :
    Stops other f := by
  cases stops with
  | malformed => exact .malformed
  | unreadable why => exact .unreadable (weaker _ why)

theorem Blames.weaken {r : Except Fault α} (blames : Blames (Stops cause) r)
    (weaker : ∀ u, cause u → other u) : Blames (Stops other) r :=
  blames.mono fun _ stops => stops.mono weaker

theorem Blames.never {r : Except Fault α} (blames : Blames (Stops fun _ => False) r) :
    Blames (Stops cause) r :=
  blames.weaken fun _ => False.elim

end

end Columnar.Yaml
