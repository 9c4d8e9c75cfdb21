import Columnar.Proofs.Documents
import Columnar.Schema.Compile

namespace Columnar

namespace Value

def under (v : Value) (name : Text) : Option Value := v.object?.bind fun es => es.get? name

theorem under_eq_some {v w : Value} {name : Text} :
    v.under name = some w ↔ ∃ es : Entries, v = .object es ∧ es.get? name = some w := by
  cases v <;> simp [under, object?]

theorem IsJson.under {allowed : Value → Prop} {v w : Value} {name : Text}
    (json : v.IsJson allowed) (found : v.under name = some w) : w.IsJson allowed := by
  obtain ⟨es, rfl, found⟩ := under_eq_some.mp found
  exact json.get? found

end Value

namespace Schema
open Value

def Tabular (s : Value) (items : List Value) : Prop :=
  s.under "type" = some (.str "array") ∧
    ∃ rows : Entries, s.under "items" = some (.object rows) ∧ rows.get? "items" = some (.list items)

inductive Refused (s : Value) : TableError → Prop
  | noType : (∀ name, s.under "type" ≠ some (.str name)) →
      Refused s (.ofKind .invalidSchema "top-level 'type' field is required")
  | objectRows : s.under "type" = some (.str "object") →
      Refused s (.ofKind .unimplementedSchema "object-wrapper tabular schemas are not implemented")
  | unknownType {name : Text} : s.under "type" = some (.str name) → name ≠ "array" →
      name ≠ "object" →
      Refused s (.ofKind .invalidSchema
        ("'" ++ name ++ "' is not a valid type to describe the top level of a tabular schema"))
  | noItems : s.under "type" = some (.str "array") →
      (∀ rows : Entries, s.under "items" ≠ some (.object rows)) →
      Refused s (.ofKind .invalidSchema "top level 'items' property must be an object")
  | noColumns {rows : Entries} : s.under "type" = some (.str "array") →
      s.under "items" = some (.object rows) →
      (∀ items, rows.get? "items" ≠ some (.list items)) →
      Refused s (.ofKind .invalidSchema "items.items must be an array")

/-- How a compilation ends: with the columns of a table, or with the error of what is none. -/
inductive Ends (s : Value) : Except Fault Compiled → Prop
  | table {items : List Value} : Tabular s items → Ends s (.ok (compileItems items))
  | refused {f : Fault} : Refused s f.toError → Ends s (.error f)

theorem compileArray_ends {es : Entries} (array : es.get? "type" = some (.str "array")) :
    Ends (.object es) (compileArray es) := by
  unfold compileArray
  split
  · rename_i rows found
    split
    · rename_i items inside
      exact .table ⟨array, rows, found, inside⟩
    · rename_i other
      exact .refused (.noColumns array found other)
  · rename_i other
    exact .refused (.noItems array other)

theorem compile_ends (s : Value) : Ends s (compile s) := by
  cases s with
  | object es =>
    simp only [compile]
    split
    · rename_i array
      exact compileArray_ends array
    · rename_i object
      exact .refused (.objectRows object)
    · rename_i name notArray notObject found
      exact .refused (.unknownType found notArray notObject)
    · rename_i other
      exact .refused (.noType other)
  | _ => exact .refused (.noType nofun)

theorem tabular_json {allowed : Value → Prop} {s : Value} {items : List Value}
    (json : s.IsJson allowed) (table : Tabular s items) : ∀ v ∈ items, v.IsJson allowed := by
  obtain ⟨_, rows, found, inside⟩ := table
  exact isJson_list.mp ((json.under found).get? inside)

theorem tabular_unique {s : Value} {items others : List Value} (left : Tabular s items)
    (right : Tabular s others) : items = others := by
  obtain ⟨_, rows, found, inside⟩ := left
  obtain ⟨_, _, again, other⟩ := right
  rw [found] at again
  cases again
  rw [inside] at other
  cases other
  rfl

theorem refused_unique {s : Value} {d e : TableError} (left : Refused s d) (right : Refused s e) :
    d = e := by
  cases left <;> cases right <;> simp_all

theorem tabular_not_refused {s : Value} {items : List Value} {e : TableError}
    (table : Tabular s items) : ¬ Refused s e := by
  obtain ⟨array, rows, found, inside⟩ := table
  intro refused
  cases refused <;> simp_all

theorem compile_ok_iff {s : Value} {r : Compiled} :
    compile s = .ok r ↔ ∃ items, Tabular s items ∧ r = compileItems items := by
  have ends := compile_ends s
  constructor
  · intro compiled
    rw [compiled] at ends
    cases ends with
    | table table => exact ⟨_, table, rfl⟩
  · rintro ⟨items, table, rfl⟩
    generalize compile s = result at ends
    cases ends with
    | table again => rw [tabular_unique table again]
    | refused refused => exact absurd refused (tabular_not_refused table)

theorem compile_error_iff {s : Value} {e : TableError} :
    (∃ f, compile s = .error f ∧ f.toError = e) ↔ Refused s e := by
  have ends := compile_ends s
  constructor
  · rintro ⟨f, failed, rfl⟩
    rw [failed] at ends
    cases ends with
    | refused refused => exact refused
  · intro refused
    generalize compile s = result at ends
    cases ends with
    | table table => exact absurd refused (tabular_not_refused table)
    | refused again => exact ⟨_, rfl, refused_unique again refused⟩

structure Shows (o : Outcome Columns) (r : Compiled) : Prop where
  succeeded : o.succeeded = true
  value : o.value? = some r.columns
  warnings : o.warnings = r.lines
  error : o.error? = none
  unwrap : o.unwrap = .ok r.columns

structure Tells (o : Outcome Columns) (e : TableError) : Prop where
  kind : .tabularSchema ∈ e.kind.ancestors
  succeeded : o.succeeded = false
  value : o.value? = none
  warnings : o.warnings = []
  error : o.error? = some ("invalid tabular schema: " ++ e.specific)
  unwrap : ∃ u, o.unwrap = .error u ∧
    u.message = "Result failed: " ++ ("invalid tabular schema: " ++ e.specific)

/-- Compiling succeeds just on tables, and every other document gets its one error; the outcome says
the same, with the columns to be taken out of it just where there are some. -/
theorem compiles_iff_tabular (s : Value) :
    ((∃ r, compile s = .ok r) ↔ ∃ items, Tabular s items) ∧
      (∀ e, (∃ f, compile s = .error f ∧ f.toError = e) ↔ Refused s e) ∧
      match compile s with
      | .ok r => Shows (compileOutcome s) r
      | .error f => Tells (compileOutcome s) f.toError := by
  refine ⟨?_, fun e => compile_error_iff, ?_⟩
  · simp only [compile_ok_iff]
    exact ⟨fun ⟨_, items, table, _⟩ => ⟨items, table⟩, fun ⟨items, table⟩ => ⟨_, items, table, rfl⟩⟩
  · unfold compileOutcome
    cases compile s with
    | ok r => exact ⟨rfl, rfl, rfl, rfl, rfl⟩
    | error f =>
      refine ⟨?_, rfl, rfl, rfl, rfl, _, rfl, rfl⟩
      cases f <;> simp [Fault.toError, TableError.ofKind, Fault.kind, ErrorKind.ancestors]

example : (compileOutcome empty).unwrap = .ok [] := rfl

end Schema
end Columnar
