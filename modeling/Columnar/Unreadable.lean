import Columnar.Calendar
import Columnar.Json.Error
import Columnar.Text.Quoted

namespace Columnar

inductive Unreadable
  | longInteger (digits : Nat)
  | integer (base : Nat) (text : Text)
  | float (text : Text)
  | longFactor
  | noNumber
  | truth (text : Text)
  | date (fault : Calendar.Fault)
  | noDate
  | dateOfList
  | codePoint
  | longCodePoint
  | unwritten
  deriving DecidableEq, Repr

namespace Unreadable

def shownLength : Nat := 200

def message : Unreadable → String
  | .longInteger digits => Json.longIntegerMessage digits
  | .integer base text =>
    s!"invalid literal for int() with base {base}: " ++
      String.ofList (text.literal.toList.take shownLength)
  | .float text => "could not convert string to float: " ++ text.literal
  | .longFactor => "int too large to convert to float"
  | .noNumber => "string index out of range"
  | .truth text => text.literal
  | .date f => f.message
  | .noDate => "'NoneType' object has no attribute 'groupdict'"
  | .dateOfList => "expected string or bytes-like object, got 'list'"
  | .codePoint => "chr() arg not in range(0x110000)"
  | .longCodePoint => "Python int too large to convert to C int"
  | .unwritten => Json.unwrittenMessage

end Unreadable
end Columnar
