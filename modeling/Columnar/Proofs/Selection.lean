import Columnar.Document
import Columnar.Proofs.Documents

namespace Columnar

def Entries.HasAt (es : Entries) (name : Text) (v : Value) : Prop :=
  ∃ before behind, es = before ++ (.str name, v) :: behind ∧ ∀ e ∈ before, e.1 ≠ .str name

theorem Entries.get?_eq_some_iff {es : Entries} {name : Text} {v : Value} :
    es.get? name = some v ↔ es.HasAt name v := by
  simp only [get?, HasAt, Option.map_eq_some_iff, List.find?_eq_some_iff_append, beq_iff_eq,
    Value.str?_eq_some, Bool.not_eq_true', beq_eq_false_iff_ne, ne_eq]
  constructor
  · rintro ⟨⟨k, w⟩, ⟨rfl, before, behind, same, first⟩, rfl⟩
    exact ⟨before, behind, same, first⟩
  · rintro ⟨before, behind, same, first⟩
    exact ⟨(.str name, v), ⟨rfl, before, behind, same, first⟩, rfl⟩

namespace Document

/-- A chain of objects leads from a value to another: each of them has the next name for a key, and
under it the next value. -/
inductive Chain : Value → List Text → Value → Prop
  | here {v : Value} : Chain v [] v
  | through {es : Entries} {name : Text} {names : List Text} {v w : Value} :
      es.HasAt name v → Chain v names w → Chain (.object es) (name :: names) w

theorem parts_eq (ps : List Point) : parts ps = ps.splitOn (.char '.') := by
  induction ps with
  | nil => rfl
  | cons p ps ih =>
    rw [parts, ih, List.splitOn_cons_eq_if_modifyHead]
    simp only [beq_iff_eq]
    split
    · rfl
    · cases rest : ps.splitOn (.char '.') with
      | nil => exact absurd rest (List.splitOn_ne_nil _ ps)
      | cons part more => rfl

/-- Where the first path ends early, at a null, the second one ends there, too. -/
theorem select_behind (document : Value) (p q : Text) :
    select document (p ++ "." ++ q) = select (select document p) q := by
  have point : (p ++ "." ++ q).points = p.points ++ .char '.' :: q.points := by simp
  rw [select, select, select, parts_eq, parts_eq, parts_eq, point, List.splitOn_append_cons_self,
    List.foldl_append]

theorem select_names (document : Value) {names : List Text} (nonempty : names ≠ [])
    (plain : ∀ name ∈ names, .char '.' ∉ name.points) :
    select document (Text.intercalate "." names) =
      names.foldl (fun v name => step v name.points) document := by
  have path : (Text.intercalate "." names).points =
      [.char '.'].intercalate (names.map Text.points) := Text.points_intercalate "." names
  rw [select, parts_eq, path, List.splitOn_intercalate _ (List.forall_mem_map.mpr plain) (by simpa),
    List.foldl_map]

theorem step_object (es : Entries) (name : Text) :
    step (.object es) name.points = (es.get? name).getD .null := by
  rw [step, Text.ofPoints_points]

theorem chain_step {v w : Value} {name : Text} {names : List Text} (there : w ≠ .null) :
    Chain (step v name.points) names w ↔ Chain v (name :: names) w := by
  -- From a null no chain goes on, so it would have to be the end, which is none.
  have stuck : ¬ Chain .null names w := by
    intro chain
    cases chain
    exact there rfl
  constructor
  · intro chain
    cases v with
    | object es =>
      rw [step_object] at chain
      cases found : Entries.get? es name with
      | none =>
        rw [found] at chain
        exact absurd chain stuck
      | some u =>
        rw [found] at chain
        exact .through (Entries.get?_eq_some_iff.mp found) chain
    | _ => exact absurd chain stuck
  · intro chain
    cases chain with
    | through under chain =>
      rw [step_object, Entries.get?_eq_some_iff.mpr under]
      exact chain

theorem walk_eq {names : List Text} {v w : Value} (there : w ≠ .null) :
    names.foldl (fun v name => step v name.points) v = w ↔ Chain v names w := by
  induction names generalizing v with
  | nil =>
    constructor
    · rintro rfl
      exact .here
    · intro chain
      cases chain
      rfl
  | cons name names ih => rw [List.foldl_cons, ih, chain_step there]

/-- A path behind a path picks what the second one picks out of what the first one picked. The names
of a path pick a value just where a chain of objects leads to it through them, and null where no
chain leads to anything else. -/
theorem select_follows_chain (document : Value) :
    (∀ p q : Text, select document (p ++ "." ++ q) = select (select document p) q) ∧
    ∀ names : List Text, names ≠ [] → (∀ name ∈ names, .char '.' ∉ name.points) →
      (∀ v, v ≠ .null →
        (select document (Text.intercalate "." names) = v ↔ Chain document names v)) ∧
      (select document (Text.intercalate "." names) = .null ↔
        ∀ v, Chain document names v → v = .null) := by
  refine ⟨select_behind document, fun names nonempty plain => ?_⟩
  rw [select_names document nonempty plain]
  refine ⟨fun v there => walk_eq there, ?_, ?_⟩
  · intro nothing v chain
    by_contra there
    exact there ((walk_eq there).mpr chain ▸ nothing)
  · intro ends
    by_contra there
    exact there (ends _ ((walk_eq there).mp rfl))

theorem select_follows_chain_empty_name :
    let document : Value := .object [(.int 1, .null), (.null, .str "b"),
      (.str "", .object [(.bytes [97], .int 1), (.str "a", .int 2)])]
    ((["", "a"] : List Text) ≠ [] ∧ ∀ name ∈ (["", "a"] : List Text), .char '.' ∉ name.points) ∧
      select document ".a" = .int 2 ∧ select document ".b" = .null := by
  intro document
  have plain : ∀ name ∈ (["", "a"] : List Text), .char '.' ∉ name.points := by decide
  have chain : Chain document ["", "a"] (.int 2) :=
    .through ⟨[(.int 1, .null), (.null, .str "b")], [], rfl, by simp⟩
      (.through ⟨[(.bytes [97], .int 1)], [], rfl, by simp⟩ .here)
  obtain ⟨arrives, _⟩ := (select_follows_chain document).2 ["", "a"] (by decide) plain
  exact ⟨⟨by decide, plain⟩, (arrives (.int 2) (by simp)).mpr chain, rfl⟩

end Document
end Columnar
