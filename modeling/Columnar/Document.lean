import Columnar.Unreadable
import Columnar.Value.Literal
import Columnar.Value.Writable

/-! Documents: picking a value out of one by a dotted path of names, and what JSON cannot write,
which is keys that are no texts, and values of kinds of their own. The first such defect in document
order is found, a key before the value under it. -/
namespace Columnar.Document

/-- The parts of a path between its points; there is always one more part than points. -/
def parts : List Point → List (List Point)
  | [] => [[]]
  | p :: ps =>
    if p = .char '.' then [] :: parts ps
    else match parts ps with
      | part :: more => (p :: part) :: more
      | [] => [[p]]

def step (v : Value) (name : List Point) : Value :=
  match v with
  | .object es => (Entries.get? es (.ofPoints name)).getD .null
  | _ => .null

def select (document : Value) (path : Text) : Value :=
  (parts path.points).foldl step document

inductive Defect
  | key (k : Value)
  | value (v : Value)

def isScalar : Value → Bool
  | .null | .bool _ | .int _ | .float _ | .str _ => true
  | _ => false

mutual

/-- The first defect and the way to it; for a key, the way to its object. -/
def firstDefect : Value → Option (List Step × Defect)
  | .object es => firstEntryDefect es
  | .list vs => firstItemDefect 0 vs
  | v => if isScalar v then none else some ([], .value v)

def firstEntryDefect : List (Value × Value) → Option (List Step × Defect)
  | [] => none
  | (k, v) :: es =>
    match k with
    | .str name => match firstDefect v with
      | some (way, d) => some (.name name :: way, d)
      | none => firstEntryDefect es
    | k => some ([], .key k)

def firstItemDefect (i : Nat) : List Value → Option (List Step × Defect)
  | [] => none
  | v :: vs => match firstDefect v with
    | some (way, d) => some (.index i :: way, d)
    | none => firstItemDefect (i + 1) vs

end

mutual

/-- How many calls are open at once, one for each value on the way down, while the first defect is
looked for. What stands behind the first defect is not looked at. -/
def reach : Value → Nat
  | .object es => reachEntries es + 1
  | .list vs => reachItems vs + 1
  | _ => 1

def reachEntries : List (Value × Value) → Nat
  | [] => 0
  | (k, v) :: es =>
    if !k.isStr then 0
    else if (firstDefect v).isSome then reach v
    else max (reach v) (reachEntries es)

def reachItems : List Value → Nat
  | [] => 0
  | v :: vs => if (firstDefect v).isSome then reach v else max (reach v) (reachItems vs)

end

def Defect.text : Defect → String
  | .key k => "non-string key " ++ k.literal
  | .value v => v.kindName ++ " value"

def incompatibility (v : Value) (start : Text) : Option Text :=
  (firstDefect v).map fun (way, d) => (d.text ++ " at " : String) ++ locationText start way

/-- A key is told as it is, so it must not hold an integer that is too long. -/
def Defect.writable : Defect → Bool
  | .key k => !k.holdsLong
  | .value _ => true

/-- The description of the first defect, if it can be written. Calls are nested as deep as the value
goes (`reach`), without a bound. -/
def check (v : Value) (start : Text) : Except Unreadable (Option Text) :=
  if (firstDefect v).all fun found => found.2.writable then .ok (incompatibility v start)
  else .error .unwritten

end Columnar.Document
