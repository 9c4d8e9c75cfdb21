import Columnar.Proofs.Documents
import Columnar.Value.Writable

namespace Columnar.Value

variable {test : Value → Bool}

@[simp] theorem holdsItem_eq (vs : List Value) : holdsItem test vs = vs.any (holds test) := by
  induction vs with
  | nil => rfl
  | cons v vs ih => rw [holdsItem, ih, List.any_cons]

@[simp] theorem holdsEntry_eq (es : Entries) :
    holdsEntry test es = es.any fun e => e.1.holds test || e.2.holds test := by
  induction es with
  | nil => rfl
  | cons e es ih => rw [holdsEntry, ih, List.any_cons]

@[simp] theorem holds_str (t : Text) : (Value.str t).holds test = test (.str t) := by
  rw [holds] <;> nofun

theorem holds_scalar {v : Value} (kind : Document.isScalar v = true) : v.holds test = test v := by
  cases v with
  | null | bool | int | float | str => rw [holds] <;> nofun
  | _ => cases kind

theorem holds_list {vs : List Value} :
    (Value.list vs).holds test = false ↔ ∀ v ∈ vs, v.holds test = false := by
  simp [holds]

theorem holds_object {es : Entries} : (Value.object es).holds test = false ↔
    ∀ e ∈ es, e.1.holds test = false ∧ e.2.holds test = false := by
  rw [holds, holdsEntry_eq, List.any_eq_false]
  simp

theorem IsJson.without {allowed : Value → Prop} {v : Value} (json : v.IsJson allowed)
    (free : v.holds test = false) : v.IsJson fun w => allowed w ∧ test w = false := by
  induction json with
  | scalar kind ok => exact .scalar kind ⟨ok, (holds_scalar kind).symm.trans free⟩
  | list _ ih => exact .list fun v member => ih v member (holds_list.mp free v member)
  | object named _ ih =>
    exact .object named fun e member => ih e member (holds_object.mp free e member).2

theorem IsJson.holds_mono {other : Value → Bool} {allowed : Value → Prop} {v : Value}
    (json : v.IsJson allowed) (only : ∀ w, other w = true → test w = true)
    (free : v.holds test = false) : v.holds other = false := by
  have scalar : ∀ w : Value, test w = false → other w = false := fun w fails =>
    Bool.eq_false_iff.mpr fun passes => absurd (only w passes) (Bool.eq_false_iff.mp fails)
  induction json with
  | scalar kind _ => exact (holds_scalar kind).trans (scalar _ ((holds_scalar kind).symm.trans free))
  | list _ ih => exact holds_list.mpr fun v member => ih v member (holds_list.mp free v member)
  | object named _ ih =>
    refine holds_object.mpr fun e member => ?_
    obtain ⟨key, value⟩ := holds_object.mp free e member
    obtain ⟨t, text⟩ := str_of_isStr (named.texts e member)
    rw [text, holds_str] at key
    exact ⟨by rw [text, holds_str, scalar _ key], ih e member value⟩

theorem holds_get? {es : Entries} {name : Text} {v : Value}
    (free : (Value.object es).holds test = false) (found : es.get? name = some v) :
    v.holds test = false :=
  (holds_object.mp free _ (Entries.get?_mem found)).2

@[simp] theorem whole_str {t : Text} : (Value.str t).holdsHalf = false ↔ t.isWhole = true := by
  simp [holdsHalf, isBroken]

@[simp] theorem holdsLong_int (n : Int) : (Value.int n).holdsLong = isLong n := rfl

end Columnar.Value
