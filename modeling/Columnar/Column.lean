import Columnar.Json.Writer
import Columnar.TypeUnion
import Columnar.Value.Writable

/-! Columns of a table and their plain form. In it a column is one object: its title, its types
unless they are unset or none, its description unless that is empty, and then the keywords of its
validation bag that are not already written. Plain forms are written at any depth, where a writer
may set a bound to nesting. -/
namespace Columnar

/-- An unset type differs from an empty union, and an unset bag from an empty one. -/
structure Column where
  title : Text
  type : Option TypeUnion
  description : Text
  validation : Option Entries

abbrev Columns := List Column

namespace Column

def typeEntry (c : Column) : Entries :=
  match c.type.bind TypeUnion.encode with
  | some v => [(.str "type", v)]
  | none => []

def descriptionEntry (c : Column) : Entries :=
  if c.description = "" then [] else [(.str "description", .str c.description)]

def fieldEntries (c : Column) : Entries :=
  (.str "title", .str c.title) :: (c.typeEntry ++ c.descriptionEntry)

def dump (c : Column) : Entries :=
  let fields := c.fieldEntries
  fields ++ (c.validation.getD []).filter fun e => !(fields.any fun f => f.1 == e.1)

def toValue (c : Column) : Value := .object c.dump

def toJson (c : Column) : Option String :=
  if c.toValue.holdsHalf then none else some (Json.toText Json.compact c.toValue)

def bagsEqual (sameNaN : Bool) : Option Entries → Option Entries → Bool
  | none, none => true
  | some es, some fs => Value.equal sameNaN (.object es) (.object fs)
  | _, _ => false

def equal (sameNaN : Bool) (a b : Column) : Bool :=
  a.title == b.title && a.type == b.type && a.description == b.description &&
    bagsEqual sameNaN a.validation b.validation

end Column

namespace Columns

def titles (cs : Columns) : List Text := cs.map Column.title

def toValue (cs : Columns) : Value := .list (cs.map Column.toValue)

def toJson (cs : Columns) : Option String :=
  if cs.toValue.holdsHalf then none else some (Json.toText Json.compact cs.toValue)

/-- An array of rows, each row an array with one schema a place. -/
def wrap (items : Value) : Value :=
  .object [(.str "type", .str "array"),
    (.str "items", .object [(.str "type", .str "array"), (.str "items", items)])]

def toSchema (cs : Columns) : Value := wrap cs.toValue

def equal (sameNaN : Bool) : Columns → Columns → Bool
  | [], [] => true
  | a :: as, b :: bs => a.equal sameNaN b && equal sameNaN as bs
  | _, _ => false

def get (cs : Columns) (i : Int) : Except IndexError Column := pick cs i

end Columns
end Columnar
