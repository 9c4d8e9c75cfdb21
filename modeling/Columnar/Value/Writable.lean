import Columnar.Json.Error
import Columnar.Value

/-! What keeps a value from being written: an integer with too many digits, half a surrogate pair in
a text, and nesting. Digits that are read are limited in the same way, but a number in another base
can still be longer; and a half has no spelling in an encoding, though an escape can give one. -/
namespace Columnar.Value

def isLong (n : Int) : Bool := Json.maxDigits < (Nat.toDigits 10 n.natAbs).length

mutual

def holds (test : Value → Bool) : Value → Bool
  | .list vs => holdsItem test vs
  | .tuple vs => holdsItem test vs
  | .set vs => holdsItem test vs
  | .object es => holdsEntry test es
  | v => test v

def holdsItem (test : Value → Bool) : List Value → Bool
  | [] => false
  | v :: vs => holds test v || holdsItem test vs

def holdsEntry (test : Value → Bool) : List (Value × Value) → Bool
  | [] => false
  | (k, v) :: es => holds test k || holds test v || holdsEntry test es

end

def isLongInteger : Value → Bool
  | .int n => isLong n
  | _ => false

def isBroken : Value → Bool
  | .str t => !t.isWhole
  | _ => false

def holdsLong (v : Value) : Bool := v.holds isLongInteger

def holdsHalf (v : Value) : Bool := v.holds isBroken

mutual

/-- How many calls are open at once while a document is written in lines: one for each list and
object on the way down, and one for a float. -/
def layers : Value → Nat
  | .list vs => layersItems vs + 1
  | .object es => layersEntries es + 1
  | .float _ => 1
  | _ => 0

def layersItems : List Value → Nat
  | [] => 0
  | v :: vs => max (layers v) (layersItems vs)

def layersEntries : List (Value × Value) → Nat
  | [] => 0
  | (_, v) :: es => max (layers v) (layersEntries es)

end

end Columnar.Value
