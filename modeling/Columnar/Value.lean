import Columnar.Binary64
import Columnar.Calendar
import Columnar.Text

/-! Plain values, as documents and callers supply them: what JSON can write, and beside it the
tuples, sets, bytes, dates and keys of any kind that only other sources give. An object keeps its
entries in the order in which they came. -/
namespace Columnar

inductive Value
  | null
  | bool (b : Bool)
  | int (n : Int)
  | float (x : Binary64)
  | str (t : Text)
  | bytes (data : List UInt8)
  | date (d : Calendar.Date)
  | datetime (t : Calendar.DateTime)
  | list (items : List Value)
  | tuple (items : List Value)
  | set (items : List Value)
  | object (entries : List (Value × Value))

abbrev Entries := List (Value × Value)

namespace Value

def isStr : Value → Bool
  | .str _ => true
  | _ => false

def str? : Value → Option Text
  | .str t => some t
  | _ => none

def object? : Value → Option Entries
  | .object es => some es
  | _ => none

/-- The number a value stands for in comparisons; the truth values count as 1 and 0. -/
def int? : Value → Option Int
  | .bool b => some (if b then 1 else 0)
  | .int n => some n
  | _ => none

def scalarEqual (sameNaN : Bool) (a b : Value) : Bool :=
  match a, b with
  | .float x, .float y => x.equal y || (sameNaN && x == .nan && y == .nan)
  | .float x, b => match b.int? with
    | some n => x.equalInt n
    | none => false
  | a, .float y => match a.int? with
    | some n => y.equalInt n
    | none => false
  | a, b => match a.int?, b.int? with
    | some m, some n => m == n
    | _, _ => false

mutual

/-- Equality of values: numbers by what they are worth, objects and sets without regard to order,
all else by content. `sameNaN` says whether a NaN is to be equal to a NaN, which is so when the
two sides hold one and the same value. -/
def equal (sameNaN : Bool) : Value → Value → Bool
  | .null, .null => true
  | .str s, .str t => s == t
  | .bytes s, .bytes t => s == t
  | .date d, .date e => d == e
  | .datetime d, .datetime e => d.equal e
  | .list xs, .list ys => equalItems sameNaN xs ys
  | .tuple xs, .tuple ys => equalItems sameNaN xs ys
  | .set xs, .set ys => xs.length == ys.length && containedIn sameNaN xs ys
  | .object es, .object fs => es.length == fs.length && entriesIn sameNaN es fs
  | a, b => scalarEqual sameNaN a b

def equalItems (sameNaN : Bool) : List Value → List Value → Bool
  | [], [] => true
  | x :: xs, y :: ys => equal sameNaN x y && equalItems sameNaN xs ys
  | _, _ => false

def containedIn (sameNaN : Bool) : List Value → List Value → Bool
  | [], _ => true
  | x :: xs, ys => ys.any (equal sameNaN x) && containedIn sameNaN xs ys

def entriesIn (sameNaN : Bool) : List (Value × Value) → List (Value × Value) → Bool
  | [], _ => true
  | (k, v) :: es, fs =>
    fs.any (fun f => equal sameNaN k f.1 && equal sameNaN v f.2) && entriesIn sameNaN es fs

end

instance : BEq Value := ⟨equal false⟩

def kindName : Value → String
  | .null => "NoneType"
  | .bool _ => "bool"
  | .int _ => "int"
  | .float _ => "float"
  | .str _ => "str"
  | .bytes _ => "bytes"
  | .date _ => "date"
  | .datetime _ => "datetime"
  | .list _ => "list"
  | .tuple _ => "tuple"
  | .set _ => "set"
  | .object _ => "dict"

/-- The name of a kind with the module it comes from, as errors of operators give it. -/
def fullKindName : Value → String
  | .date _ => "datetime.date"
  | .datetime _ => "datetime.datetime"
  | v => v.kindName

def isBlank : Value → Bool
  | .null => true
  | .bool b => !b
  | .int n => n == 0
  | .float x => x.isZero
  | .str t => t.isEmpty
  | .bytes data => data.isEmpty
  | .list vs => vs.isEmpty
  | .tuple vs => vs.isEmpty
  | .set vs => vs.isEmpty
  | .object es => es.isEmpty
  | _ => false

end Value

namespace Entries

/-- The value under a name. Only a text can equal a text, so keys of other kinds never match. -/
def get? (es : Entries) (name : Text) : Option Value :=
  (es.find? fun e => e.1.str? == some name).map Prod.snd

def hasName (es : Entries) (name : Text) : Bool := es.any fun e => e.1.str? == some name

def insert : Entries → Value → Value → Entries
  | [], k, v => [(k, v)]
  | (k', v') :: es, k, v => if k' == k then (k', v) :: es else (k', v') :: insert es k v

def ofList (es : List (Value × Value)) : Entries :=
  es.foldl (fun acc e => acc.insert e.1 e.2) []

end Entries
end Columnar
