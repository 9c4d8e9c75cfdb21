import Columnar.Column
import Columnar.Outcome
import Columnar.Text.Utf8
import Columnar.Value
import Columnar.Value.Literal
import Columnar.Value.Writable

/-! Columns read back from their plain form. Every key that names no field goes into the validation
bag, in order. All defects are reported together, each with the way to it. -/
namespace Columnar

inductive Defect
  | notText
  | undecodableText
  | notList
  | notObject
  | badUnion
  | notJson
  deriving DecidableEq, Repr

/-- Where a value came from decides some of the wording. -/
inductive Origin
  | plain
  | json
  deriving DecidableEq, Repr

namespace Defect

def message (origin : Origin) : Defect → String
  | .notText => "Input should be a valid string"
  | .undecodableText =>
    "Input should be a valid string, unable to parse raw data as a unicode string"
  | .notList => match origin with
    | .plain => "Input should be a valid list"
    | .json => "Input should be a valid array"
  | .notObject => match origin with
    | .plain => "Input should be a valid dictionary or instance of Column"
    | .json => "Input should be an object"
  | .badUnion => "Value error, " ++ TypeUnion.Error.invalid.message
  | .notJson => ""

end Defect

structure Detail where
  location : List Step
  defect : Defect
  deriving DecidableEq, Repr

def Detail.under (s : Step) (d : Detail) : Detail := { d with location := s :: d.location }

def Value.text? : Value → Except Defect Text
  | .str t => .ok t
  | .bytes data => match Text.Utf8.decode data with
    | .ok cs => .ok (.whole (String.ofList cs))
    | .error _ => .error .undecodableText
  | _ => .error .notText

def readNames (i : Nat) : List Value → List Text × List Detail
  | [] => ([], [])
  | v :: vs =>
    let (names, details) := readNames (i + 1) vs
    match v.text? with
    | .ok s => (s :: names, details)
    | .error d => (names, ⟨[.index i], d⟩ :: details)

/-- A list of texts; tuples and sets are taken for lists. -/
def textList (v : Value) : Except (List Detail) (List Text) :=
  let read (vs : List Value) := match readNames 0 vs with
    | (names, []) => .ok names
    | (_, details) => .error details
  match v with
  | .list vs => read vs
  | .tuple vs => read vs
  | .set vs => read vs
  | _ => .error [⟨[], .notList⟩]

def TypeUnion.validate (v : Value) : Except (List Detail) TypeUnion :=
  match TypeUnion.decode v with
  | some u => .ok u
  | none => .error [⟨[], .badUnion⟩]

/-- A success with its warnings, which must be texts; a null value is no value. -/
def Outcome.ofValue (value warnings : Value) : Except (List Detail) (Outcome Value) :=
  let value? : Option Value := match value with
    | .null => none
    | v => some v
  if warnings.isBlank then .ok (.success value? [])
  else
    let details := fun ds => ds.map (Detail.under (.name "warnings"))
    ((textList warnings).mapError details).map (.success value?)

namespace Column

def isField (k : Value) : Bool :=
  match k with
  | .str s => s == "title" || s == "type" || s == "description"
  | _ => false

def readText (es : Entries) (field : String) : Except Detail Text :=
  match es.get? field with
  | none => .ok ""
  | some v => v.text?.mapError fun d => ⟨[.name field], d⟩

def readType (es : Entries) : Except Detail (Option TypeUnion) :=
  match es.get? "type" with
  | none => .ok none
  | some .null => .ok none
  | some v => match TypeUnion.decode v with
    | some u => .ok (some u)
    | none => .error ⟨[.name "type"], .badUnion⟩

def readBag : Entries → Entries × List Detail
  | [] => ([], [])
  | (k, v) :: es =>
    let (bag, details) := readBag es
    match k.text? with
    | .ok s => ((.str s, v) :: bag, details)
    | .error d => (bag, ⟨[.name "validation", .ofKey k, .name "[key]"], d⟩ :: details)

def failures {α : Type} : Except Detail α → List Detail
  | .ok _ => []
  | .error d => [d]

def decodeObject (es : Entries) : Except (List Detail) Column :=
  let title := readText es "title"
  let type := readType es
  let description := readText es "description"
  let (bag, bagDetails) := readBag (es.filter fun e => !isField e.1)
  match title, type, description, bagDetails with
  | .ok title, .ok type, .ok description, [] =>
    .ok ⟨title, type, description, if bag.isEmpty then none else some (Entries.ofList bag)⟩
  | _, _, _, _ => .error (failures title ++ failures type ++ failures description ++ bagDetails)

def decode : Value → Except (List Detail) Column
  | .object es => decodeObject es
  | _ => .error [⟨[], .notObject⟩]

end Column

namespace Columns

def decodeItems (i : Nat) : List Value → Except (List Detail) Columns
  | [] => .ok []
  | v :: vs =>
    match Column.decode v, decodeItems (i + 1) vs with
    | .ok c, .ok cs => .ok (c :: cs)
    | .ok _, .error ds => .error ds
    | .error ds, .ok _ => .error (ds.map (Detail.under (.index i)))
    | .error ds, .error es => .error (ds.map (Detail.under (.index i)) ++ es)

def decode : Value → Except (List Detail) Columns
  | .list vs => decodeItems 0 vs
  | .tuple vs => decodeItems 0 vs
  | .set vs => decodeItems 0 vs
  | _ => .error [⟨[], .notList⟩]

end Columns

/-- Reads a JSON text with a reader of plain values. Whatever keeps the text from being read, a
number too long or half a surrogate pair included, counts as no JSON. -/
def decodeJson {α : Type} (decode : Value → Except (List Detail) α) (text : String) :
    Except (List Detail) α :=
  match Json.read text.toList with
  | .ok v => if v.holdsHalf then .error [⟨[], .notJson⟩] else decode v
  | .error _ => .error [⟨[], .notJson⟩]

end Columnar
