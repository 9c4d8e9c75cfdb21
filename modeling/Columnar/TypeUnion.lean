import Columnar.Json.Reader
import Columnar.Json.Writer
import Columnar.Slice
import Columnar.Value.Literal

/-! Unions of type names. A union of one name is written as that name, a longer one as the list of
its names, and an empty one not at all; order and repetitions are kept. The readers set no bound to
the nesting of what they read. -/
namespace Columnar

structure TypeUnion where
  names : List Text
  deriving DecidableEq, Repr

namespace TypeUnion

/-- Why a text or bytes hold no union. Only `invalid` is a defect of the union itself. -/
inductive Error
  | invalid
  | longInteger (digits : Nat)
  | undecodable (e : Text.DecodeError)
  deriving DecidableEq, Repr

def Error.message : Error → String
  | .invalid => "invalid data for ColType"
  | .longInteger digits => Json.longIntegerMessage digits
  | .undecodable e => e.message

def single (name : Text) : TypeUnion := ⟨[name]⟩

def isEmpty (u : TypeUnion) : Bool := u.names.isEmpty

def hasType (u : TypeUnion) (name : Text) : Bool := u.names.contains name

def encode (u : TypeUnion) : Option Value :=
  match u.names with
  | [] => none
  | [name] => some (.str name)
  | names => some (.list (names.map .str))

def formSchema : Value :=
  let text : Value := .object [(.str "type", .str "string")]
  .object [(.str "anyOf",
    .list [text, .object [(.str "type", .str "array"), (.str "items", text)]])]

def allStrings? : List Value → Option (List Text)
  | [] => some []
  | .str t :: vs => (allStrings? vs).map (t :: ·)
  | _ :: _ => none

def decode : Value → Option TypeUnion
  | .str t => some ⟨[t]⟩
  | .list vs => (allStrings? vs).map .mk
  | .tuple vs => (allStrings? vs).map .mk
  | _ => none

def toJson (u : TypeUnion) : Option String :=
  u.encode.map (Json.toText { Json.compact with string := Json.quoteAscii })

def ofDocument (text : List Char) : Except Error TypeUnion :=
  match Json.document text with
  | .error (.malformed _ _) => .error .invalid
  | .error (.longInteger digits) => .error (.longInteger digits)
  | .ok v => match decode v with
    | some u => .ok u
    | none => .error .invalid

/-- A byte order mark in a text is no JSON; in bytes it tells the encoding. -/
def ofJson (text : String) : Except Error TypeUnion :=
  if text.toList.head? = some '\uFEFF' then .error .invalid else ofDocument text.toList

def ofJsonBytes (data : List UInt8) : Except Error TypeUnion :=
  match Text.decodeBytes data with
  | .error e => .error (.undecodable e)
  | .ok cs => ofDocument cs

def display (u : TypeUnion) : String :=
  "ColType(" ++ (Value.list (u.names.map .str)).literal ++ ")"

def get (u : TypeUnion) (i : Int) : Except IndexError Text := pick u.names i

def slice? (u : TypeUnion) (s : Slice) : Option (List Text) := s.pick? u.names

def isName (v : Value) (name : Text) : Bool := v == .str name

def contains (u : TypeUnion) (v : Value) : Bool := u.names.any (isName v)
def count (u : TypeUnion) (v : Value) : Nat := u.names.countP (isName v)

def index? (u : TypeUnion) (v : Value) (start : Int) (stop : Option Int) : Option Nat :=
  findPlace? (isName v) u.names start stop

def equalsValue (u : TypeUnion) : Value → Bool
  | .list vs => Value.equalItems false (u.names.map .str) vs
  | .tuple vs => Value.equalItems false (u.names.map .str) vs
  | _ => false

end TypeUnion
end Columnar
