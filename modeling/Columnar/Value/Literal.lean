import Columnar.Binary64.Text
import Columnar.Text.Quoted
import Columnar.Value

namespace Columnar

namespace Value

def scalarLiteral : Value → String
  | .null => "None"
  | .bool b => if b then "True" else "False"
  | .int n => toString n
  | .float x => x.text
  | .str t => t.literal
  | .bytes data => Text.bytesLiteral data
  | .date d => d.literal
  | .datetime t => t.literal
  | _ => ""

mutual

def literal : Value → String
  | .list xs => "[" ++ literalItems xs ++ "]"
  | .tuple [] => "()"
  | .tuple [x] => "(" ++ literal x ++ ",)"
  | .tuple (x :: y :: xs) => "(" ++ literalItems (x :: y :: xs) ++ ")"
  | .set [] => "set()"
  | .set (x :: xs) => "\x7b" ++ literalItems (x :: xs) ++ "\x7d"
  | .object es => "\x7b" ++ literalEntries es ++ "\x7d"
  | v => scalarLiteral v

def literalItems : List Value → String
  | [] => ""
  | [x] => literal x
  | x :: y :: xs => literal x ++ ", " ++ literalItems (y :: xs)

def literalEntries : List (Value × Value) → String
  | [] => ""
  | [(k, v)] => literal k ++ ": " ++ literal v
  | (k, v) :: e :: es => literal k ++ ": " ++ literal v ++ ", " ++ literalEntries (e :: es)

end

def shown : Value → Text
  | .str t => t
  | .date d => d.iso
  | .datetime t => t.isoWith " "
  | v => v.literal

end Value

inductive Step
  | name (t : Text)
  | index (i : Int)
  deriving DecidableEq, Repr

namespace Step

/-- A key as a step: whole numbers and truth values by number, others as they are shown. -/
def ofKey : Value → Step
  | .str t => .name t
  | k => match k.int? with
    | some n => .index n
    | none => .name k.literal

def text : Step → Text
  | .name t => "." ++ t
  | .index i => s!"[{i}]"

end Step

def locationText (start : Text) (way : List Step) : Text :=
  way.foldl (fun t step => t ++ step.text) start

end Columnar
