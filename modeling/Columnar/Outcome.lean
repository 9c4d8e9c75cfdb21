import Columnar.Value

namespace Columnar

/-- Kinds form a small tree: an invalid and an unimplemented schema are both compile errors, and all
kinds are errors of tabular schemas. -/
inductive ErrorKind
  | tabularSchema
  | compile
  | invalidSchema
  | unimplementedSchema
  | titles
  deriving DecidableEq, Repr

def ErrorKind.ancestors : ErrorKind → List ErrorKind
  | .tabularSchema => [.tabularSchema]
  | .compile => [.compile, .tabularSchema]
  | .invalidSchema => [.invalidSchema, .compile, .tabularSchema]
  | .unimplementedSchema => [.unimplementedSchema, .compile, .tabularSchema]
  | .titles => [.titles, .tabularSchema]

/-- `problems` lists what is wrong with titles, one line each, and is empty for other kinds. -/
structure TableError where
  kind : ErrorKind
  specific : Text
  problems : List Text
  deriving DecidableEq, Repr

namespace TableError

def message (e : TableError) : Text := "invalid tabular schema: " ++ e.specific

def ofKind (kind : ErrorKind) (specific : Text) : TableError := ⟨kind, specific, []⟩

def ofTitles (problems : List Text) : TableError :=
  ⟨.titles, "column names have problems:\n" ++ Text.intercalate "\n" problems, problems⟩

end TableError

inductive Outcome (α : Type)
  | success (value : Option α) (warnings : List Text)
  | failure (error : Text)

namespace Outcome

inductive UnwrapError
  | failed (error : Text)
  | noValue
  deriving DecidableEq, Repr

def UnwrapError.message : UnwrapError → Text
  | .failed error => "Result failed: " ++ error
  | .noValue => ""

variable {α β : Type}

def ok (value : α) (warnings : List Text) : Outcome α := .success (some value) warnings

def succeeded : Outcome α → Bool
  | .success _ _ => true
  | .failure _ => false

def value? : Outcome α → Option α
  | .success v _ => v
  | .failure _ => none

def error? : Outcome α → Option Text
  | .success _ _ => none
  | .failure e => some e

def warnings : Outcome α → List Text
  | .success _ ws => ws
  | .failure _ => []

def unwrap : Outcome α → Except UnwrapError α
  | .success (some v) _ => .ok v
  | .success none _ => .error .noValue
  | .failure e => .error (.failed e)

def map (f : α → Option β) : Outcome α → Outcome β
  | .success (some v) ws => .success (f v) ws
  | .success none ws => .success none ws
  | .failure e => .failure e

def toValue (plain : α → Value) (r : Outcome α) : Value :=
  .object [(.str "success", .bool r.succeeded),
    (.str "value", (r.value?.map plain).getD .null),
    (.str "error", (r.error?.map .str).getD .null),
    (.str "warnings", .list (r.warnings.map .str))]

end Outcome
end Columnar
