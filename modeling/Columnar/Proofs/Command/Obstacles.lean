import Columnar.Command.Answer
import Columnar.Proofs.Flattening
import Columnar.Proofs.Text.Points
import Columnar.Proofs.Titles
import Columnar.Proofs.Writable

/-! What stops an answer: for each form that it can have, the texts, integers and depths that decide
whether it is given as a whole. A document of columns shows all that is in them, a table only some
of their texts; so where the document is given, the table could be given, too. -/
namespace Columnar

namespace Value

theorem holds_strings {test : Value → Bool} {ts : List Text} :
    (Value.list (ts.map .str)).holds test = false ↔ ∀ t ∈ ts, test (.str t) = false := by
  simp [holds_list]

end Value

namespace Column

structure Shown (c : Column) : Prop where
  title : c.title.isWhole = true
  names : ∀ n ∈ (c.type.map TypeUnion.names).getD [], n.isWhole = true
  description : c.description.isWhole = true
  keywords : ∀ e ∈ c.bag, ∀ t, e.1 = .str t → t.isWhole = true

theorem encode_whole {u : TypeUnion} (whole : ∀ v, u.encode = some v → v.holdsHalf = false) :
    ∀ n ∈ u.names, n.isWhole = true := by
  unfold TypeUnion.encode at whole
  intro n member
  split at whole
  · rename_i none
    rw [none] at member
    cases member
  · rename_i one
    rw [one, List.mem_singleton] at member
    exact member ▸ Value.whole_str.mp (whole _ rfl)
  · have names : (Value.list (u.names.map .str)).holdsHalf = false := whole _ rfl
    exact Value.whole_str.mp (Value.holds_strings.mp names n member)

/-- The plain form tells all that a table shows. -/
theorem shown_of_whole {c : Column} (whole : c.toValue.holdsHalf = false) : c.Shown where
  title := Value.whole_str.mp (Value.holds_get? whole c.dump_title)
  names := by
    intro n member
    cases typed : c.type with
    | none => rw [typed] at member; cases member
    | some u =>
      rw [typed] at member
      refine encode_whole (fun v encoded => ?_) n member
      have dumped : c.dump.get? "type" = some v := by
        rw [dump_type, typed, Option.bind_some, encoded, Option.some_or]
      exact Value.holds_get? whole dumped
  description := by
    by_cases empty : c.description = ""
    · rw [empty]
      rfl
    · refine Value.whole_str.mp (Value.holds_get? whole (?_ : c.dump.get? "description" = _))
      rw [dump_description, if_neg empty]
  keywords := by
    intro e member t key
    -- A keyword that is not written itself has the name of a field that is.
    by_cases field : c.fieldEntries.any (fun f => f.1 == e.1) = true
    · obtain ⟨f, listed, same⟩ := List.any_eq_true.mp field
      have dumped : f ∈ c.dump := List.mem_append_left _ listed
      rw [key, Value.beq_str, beq_iff_eq, Value.str?_eq_some] at same
      exact Value.whole_str.mp (same ▸ (Value.holds_object.mp whole f dumped).1)
    · have dumped : e ∈ c.dump :=
        List.mem_append_right _ (List.mem_filter.mpr ⟨member, by simpa using field⟩)
      rw [← Value.whole_str, ← key]
      exact (Value.holds_object.mp whole e dumped).1

end Column

namespace Command.Answer
open Value

structure Written (calls : Nat) (cs : Columns) : Prop where
  short : cs.toValue.holdsLong = false
  flat : cs.toValue.layers + 1 + moreCalls ≤ calls
  whole : cs.toValue.holdsHalf = false

theorem Written.shown {calls : Nat} {cs : Columns} (written : Written calls cs) :
    ∀ c ∈ cs, c.Shown := fun _ member =>
  Column.shown_of_whole (holds_list.mp written.whole _ (List.mem_map_of_mem member))

/-! The documents of answers, by what is in them -/

section
variable {calls : Nat}

def Told (calls : Nat) (json : Bool) (cs : Columns) : Prop :=
  if json then Written calls cs else ∀ c ∈ cs, c.Shown

end

end Command.Answer
end Columnar
