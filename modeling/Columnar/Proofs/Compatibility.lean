import Columnar.Proofs.Documents

namespace Columnar

namespace Value

inductive Holds : Value → Value → Prop
  | self {v : Value} : Holds v v
  | item {vs : List Value} {v w : Value} : v ∈ vs → Holds v w → Holds (.list vs) w
  | entry {es : Entries} {e : Value × Value} {w : Value} :
      e ∈ es → Holds e.2 w → Holds (.object es) w

theorem Holds.trans {u v w : Value} (first : u.Holds v) (second : v.Holds w) : u.Holds w := by
  induction first with
  | self => exact second
  | item member _ ih => exact .item member (ih second)
  | entry member _ ih => exact .entry member (ih second)

theorem IsJson.within {allowed : Value → Prop} {v w : Value} (json : v.IsJson allowed)
    (inside : v.Holds w) : w.IsJson allowed := by
  induction inside with
  | self => exact json
  | item member _ ih => exact ih (isJson_list.mp json _ member)
  | entry member _ ih => exact ih (json.values _ member)

/-- An object keeps each key once; `allowed` has a say on each scalar. -/
def Sound (allowed : Value → Prop) : Value → Prop
  | .object es => (es.map Prod.fst).Nodup
  | v => Document.isScalar v = true → allowed v

theorem sound_of_json {allowed : Value → Prop} {v w : Value} (json : v.IsJson allowed)
    (inside : v.Holds w) : w.Sound allowed := by
  cases json.within inside with
  | scalar kind ok =>
    cases w with
    | object es => cases kind
    | _ => exact fun _ => ok
  | list _ => exact nofun
  | object named _ => exact named.distinct

def HasLongKey (v : Value) : Prop :=
  ∃ es, v.Holds (.object es) ∧ ∃ e ∈ es, e.1.holdsLong = true

theorem json_no_longKey {allowed : Value → Prop} {v : Value} (json : v.IsJson allowed) :
    ¬ v.HasLongKey := by
  rintro ⟨es, inside, e, member, long⟩
  obtain ⟨s, text⟩ := str_of_isStr ((json.within inside).named.texts e member)
  rw [text] at long
  cases long

theorem HasLongKey.outside {v w : Value} (long : w.HasLongKey) (inside : v.Holds w) :
    v.HasLongKey := by
  obtain ⟨es, place, key⟩ := long
  exact ⟨es, inside.trans place, key⟩

/-- Every object in reach has only texts for keys, and all else in reach is a scalar or a list. -/
def Clean (v : Value) : Prop :=
  ∀ w, v.Holds w → match w with
    | .object es => ∀ e ∈ es, e.1.isStr = true
    | .list _ => True
    | w => Document.isScalar w = true

theorem clean_list {vs : List Value} : Clean (.list vs) ↔ ∀ v ∈ vs, v.Clean := by
  constructor
  · exact fun clean v member w inside => clean w (.item member inside)
  · intro each w inside
    cases inside with
    | self => trivial
    | item member inside => exact each _ member w inside

theorem clean_object {es : Entries} :
    Clean (.object es) ↔ ∀ e ∈ es, e.1.isStr = true ∧ e.2.Clean := by
  constructor
  · exact fun clean e member => ⟨clean _ .self e member, fun w inside => clean w (.entry member inside)⟩
  · intro each w inside
    cases inside with
    | self => exact fun e member => (each e member).1
    | entry member inside => exact (each _ member).2 w inside

theorem clean_leaf {v : Value} (bare : v.isLeaf = true) :
    v.Clean ↔ Document.isScalar v = true := by
  constructor
  · intro clean
    have here := clean v .self
    cases v with
    | list | object => cases bare
    | _ => exact here
  · intro kind w inside
    cases inside with
    | self => cases v with
      | list | object => cases bare
      | _ => exact kind
    | item | entry => cases bare

end Value

namespace Document
open Value

theorem incompatibility_none {v : Value} {start : Text} :
    incompatibility v start = none ↔ firstDefect v = none := by
  simp [incompatibility]

theorem check_passes {v : Value} {start : Text} :
    check v start = .ok none ↔ firstDefect v = none := by
  cases found : firstDefect v with
  | none => simp [check, incompatibility, found]
  | some p => cases written : p.2.writable <;> simp [check, incompatibility, found, written]

theorem firstItemDefect_none {i : Nat} {vs : List Value} :
    firstItemDefect i vs = none ↔ ∀ v ∈ vs, firstDefect v = none := by
  induction vs generalizing i with
  | nil => simp [firstItemDefect]
  | cons v vs ih =>
    rw [firstItemDefect, List.forall_mem_cons, ← ih (i := i + 1)]
    cases firstDefect v <;> simp

theorem firstEntryDefect_none {es : Entries} :
    firstEntryDefect es = none ↔ ∀ e ∈ es, e.1.isStr = true ∧ firstDefect e.2 = none := by
  induction es with
  | nil => simp [firstEntryDefect]
  | cons e es ih =>
    obtain ⟨k, v⟩ := e
    rw [List.forall_mem_cons, ← ih]
    cases k with
    | str name => cases h : firstDefect v <;> simp [firstEntryDefect, h, isStr]
    | _ => simp [firstEntryDefect, isStr]

theorem firstDefect_leaf {v : Value} (bare : v.isLeaf = true) :
    firstDefect v = if isScalar v then none else some ([], .value v) := by
  cases v with
  | list | object => cases bare
  | _ => rfl

theorem firstDefect_none_iff (v : Value) : firstDefect v = none ↔ v.Clean := by
  induction v using parts_induction with
  | list vs ih =>
    rw [firstDefect, firstItemDefect_none, clean_list]
    exact forall₂_congr ih
  | object es ih =>
    rw [firstDefect, firstEntryDefect_none, clean_object]
    exact forall₂_congr fun e member => and_congr_right fun _ => ih e member
  | leaf v bare =>
    rw [firstDefect_leaf bare, clean_leaf bare]
    cases isScalar v <;> simp

theorem firstDefect_json {allowed : Value → Prop} {v : Value} (json : v.IsJson allowed) :
    firstDefect v = none := by
  induction json with
  | @scalar v kind _ =>
    cases v with
    | null | bool | int | float | str => rfl
    | _ => cases kind
  | list _ ih => exact firstItemDefect_none.mpr ih
  | object named _ ih => exact firstEntryDefect_none.mpr fun e he => ⟨named.texts e he, ih e he⟩

theorem json_of_firstDefect {allowed : Value → Prop} (v : Value) (accepted : firstDefect v = none)
    (sound : ∀ w, v.Holds w → w.Sound allowed) : v.IsJson allowed := by
  induction v using parts_induction with
  | list vs ih =>
    refine .list fun w member => ih w member (firstItemDefect_none.mp accepted w member) ?_
    exact fun x inside => sound x (.item member inside)
  | object es ih =>
    have each := firstEntryDefect_none.mp accepted
    refine .object ⟨fun e member => (each e member).1, sound _ .self⟩ fun e member => ?_
    exact ih e member (each e member).2 fun x inside => sound x (.entry member inside)
  | leaf v bare =>
    cases v with
    | null | bool | int | float | str => exact .scalar rfl (sound _ .self rfl)
    | bytes | date | datetime | tuple | set => cases accepted
    | list | object => cases bare

end Document
end Columnar
