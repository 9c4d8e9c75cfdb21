import Columnar.Proofs.Compatibility
import Mathlib.Data.List.Nodup

namespace Columnar

namespace Entries

def DistinctTexts (es : Entries) : Prop := ((es.map Prod.fst).filter Value.isStr).Nodup

theorem insert_keys (es : Entries) (k v : Value) : (es.insert k v).map Prod.fst =
    if es.any (fun e => e.1 == k) then es.map Prod.fst else es.map Prod.fst ++ [k] := by
  induction es with
  | nil => rfl
  | cons e es ih =>
    rw [insert, List.any_cons]
    cases same : e.1 == k with
    | true => simp
    | false =>
      simp only [Bool.false_eq_true, if_false, List.map_cons, ih, Bool.false_or]
      split <;> rfl

theorem insert_keeps {p q : Value → Prop} {es : Entries} {k v : Value}
    (kept : ∀ e ∈ es, p e.1 ∧ q e.2) (key : p k) (value : q v) :
    ∀ e ∈ es.insert k v, p e.1 ∧ q e.2 := by
  induction es with
  | nil => exact List.forall_mem_singleton.mpr ⟨key, value⟩
  | cons e es ih =>
    obtain ⟨head, tail⟩ := List.forall_mem_cons.mp kept
    rw [insert]
    split
    · exact List.forall_mem_cons.mpr ⟨⟨head.1, value⟩, tail⟩
    · exact List.forall_mem_cons.mpr ⟨head, ih tail⟩

theorem distinct_insert {es : Entries} (distinct : es.DistinctTexts) (k v : Value) :
    (es.insert k v).DistinctTexts := by
  rw [DistinctTexts, insert_keys]
  split
  · exact distinct
  · rename_i new
    rw [List.filter_append]
    cases k with
    | str s =>
      refine List.nodup_append.mpr ⟨distinct, List.nodup_singleton _, ?_⟩
      rintro j kept _ last rfl
      cases List.mem_singleton.mp last
      obtain ⟨e, member, same⟩ := List.mem_map.mp (List.mem_of_mem_filter kept)
      exact new (List.any_eq_true.mpr ⟨e, member, by simp [same, Value.str?]⟩)
    | _ => exact (List.append_nil _).symm ▸ distinct

theorem ofList_distinct (fs : Entries) : (ofList fs).DistinctTexts :=
  List.foldlRecOn fs _ List.nodup_nil fun _ distinct e _ => distinct_insert distinct e.1 e.2

theorem ofList_keeps {p q : Value → Prop} {fs : Entries} (each : ∀ f ∈ fs, p f.1 ∧ q f.2) :
    ∀ e ∈ ofList fs, p e.1 ∧ q e.2 :=
  List.foldlRecOn (motive := fun es : Entries => ∀ e ∈ es, p e.1 ∧ q e.2) fs _ (List.forall_mem_nil _)
    fun _ kept f came => insert_keeps kept (each f came).1 (each f came).2

theorem distinct_texts {es : Entries} (texts : ∀ e ∈ es, e.1.isStr = true)
    (distinct : es.DistinctTexts) : es.Named := by
  refine ⟨texts, ?_⟩
  rwa [DistinctTexts, List.filter_eq_self.mpr (List.forall_mem_map.mpr texts)] at distinct

end Entries

namespace Value

/-- In every object in reach no text is a key twice. -/
def Keyed (v : Value) : Prop := ∀ es, v.Holds (.object es) → Entries.DistinctTexts es

theorem Keyed.within {v w : Value} (keyed : v.Keyed) (inside : v.Holds w) : w.Keyed :=
  fun es deeper => keyed es (inside.trans deeper)

end Value
end Columnar
