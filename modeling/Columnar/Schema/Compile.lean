import Columnar.Column
import Columnar.Column.Decode
import Columnar.Log.Logger
import Columnar.Outcome

/-! Compiling a schema into columns. A schema must be an array of rows, whose items are an array
with one column schema a place; anything else there is an error. What is missing of a single column
is a problem: it is listed, and a default stands in. -/
namespace Columnar.Schema

inductive Fault
  | noType
  | objectRows
  | unknownType (name : Text)
  | noItems
  | noColumns
  deriving DecidableEq, Repr

def Fault.text : Fault → Text
  | .noType => "top-level 'type' field is required"
  | .objectRows => "object-wrapper tabular schemas are not implemented"
  | .unknownType name =>
    "'" ++ name ++ "' is not a valid type to describe the top level of a tabular schema"
  | .noItems => "top level 'items' property must be an object"
  | .noColumns => "items.items must be an array"

def Fault.kind : Fault → ErrorKind
  | .objectRows => .unimplementedSchema
  | _ => .invalidSchema

def Fault.toError (f : Fault) : TableError := .ofKind f.kind f.text

inductive Problem
  | notObject (position : Nat)
  | noTitle (position : Nat)
  | noType (position : Nat)
  deriving DecidableEq, Repr

def Problem.line : Problem → String
  | .notObject i => s!"col. {i} schema should be an object"
  | .noTitle i => s!"col. {i} title is not set"
  | .noType i => s!"col, {i} type is not set, defaulting to string"

def defaultTitle (i : Nat) : String := s!"col_{i}"

def defaultType : TypeUnion := .single "string"

/-- A text gives its type, a list the texts in it, and all else the default. -/
def typeOf : Option Value → TypeUnion
  | some (.str t) => .single t
  | some (.list vs) => ⟨vs.filterMap Value.str?⟩
  | _ => defaultType

def bagOf (es : Entries) : Option Entries :=
  let bag := es.filter fun e => !Column.isField e.1
  if bag.isEmpty then none else some bag

def compileObject (i : Nat) (es : Entries) : Column × List Problem :=
  let title := (es.get? "title").bind Value.str?
  let type := es.get? "type"
  let description := (es.get? "description").bind Value.str?
  (⟨title.getD (defaultTitle i), some (typeOf type), description.getD "", bagOf es⟩,
    (if title.isNone then [.noTitle i] else []) ++ (if type.isNone then [.noType i] else []))

/-- The column at a place. Every place gives a column, whatever stands there. -/
def compileColumn (i : Nat) : Value → Column × List Problem
  | .object es => compileObject i es
  | _ => (⟨defaultTitle i, some defaultType, "", none⟩, [.notObject i])

structure Compiled where
  columns : Columns
  problems : List Problem

def Compiled.lines (c : Compiled) : List Text := c.problems.map fun p => p.line

def compileItems (items : List Value) : Compiled :=
  let parts := items.mapIdx compileColumn
  ⟨parts.map Prod.fst, (parts.map Prod.snd).flatten⟩

def compileArray (schema : Entries) : Except Fault Compiled :=
  match schema.get? "items" with
  | some (.object rows) => match Entries.get? rows "items" with
    | some (.list items) => .ok (compileItems items)
    | _ => .error .noColumns
  | _ => .error .noItems

def compile : Value → Except Fault Compiled
  | .object schema => match Entries.get? schema "type" with
    | some (.str (.whole "array")) => compileArray schema
    | some (.str (.whole "object")) => .error .objectRows
    | some (.str name) => .error (.unknownType name)
    | _ => .error .noType
  | _ => .error .noType

def compileOutcome (schema : Value) : Outcome Columns :=
  match compile schema with
  | .ok r => .ok r.columns r.lines
  | .error f => .failure f.toError.message

def compiledRecords : Except Fault Compiled → List Log.Record
  | .ok r => [⟨.debug, "tabular_schema_compiled",
      [("columns", .int r.columns.length), ("problems", .int r.problems.length)]⟩]
  | .error _ => []

def outcomeRecords : Except Fault Compiled → List Log.Record
  | .error f => [⟨.info, "tabular_schema_rejected", [("error", .str f.text)]⟩]
  | r => compiledRecords r

def empty : Value := Columns.wrap (.list [])

end Columnar.Schema
