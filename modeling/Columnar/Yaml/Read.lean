import Columnar.Yaml.Lexer
import Columnar.Yaml.Node
import Columnar.Yaml.Scalar

/-! From the tree of a document to its value. Keys must be scalars; a merge key brings in the
entries of other mappings in front of a mapping's own. Faults are looked for level by level: all
scalars of a collection before what is inside the collections in it. -/
namespace Columnar.Yaml
namespace Node

inductive Target
  | scalar
  | list
  | object
  | set
  | pairs
  | unknown
  deriving DecidableEq, Repr

def scalarTags : List String :=
  ["null", "bool", "int", "float", "timestamp", "str", "binary"].map coreTag

/-- What a tag asks for; a lone exclamation mark leaves the choice to the node. -/
def Target.ofTag (choice : Target) : Tag → Target
  | none => choice
  | some t =>
    if t = "!" then choice
    else if t ∈ scalarTags then .scalar
    else if t = coreTag "seq" then .list
    else if t = coreTag "map" then .object
    else if t = coreTag "set" then .set
    else if t = coreTag "omap" ∨ t = coreTag "pairs" then .pairs
    else .unknown

def target : Node → Target
  | .scalar tag _ _ => .ofTag .scalar tag
  | .sequence tag _ => .ofTag .list tag
  | .mapping tag _ => .ofTag .object tag

def isCollection (n : Node) : Bool := n.target != .scalar

def isMark (kind : Kind) (name : String) : Node → Bool
  | .scalar none t plain => plain && kindOf t == kind
  | .scalar (some tag) t _ => (tag == "!" && kindOf t == kind) || tag == coreTag name
  | .sequence tag _ => tag == some (coreTag name)
  | .mapping tag _ => tag == some (coreTag name)

def isMerge : Node → Bool := isMark .merge "merge"

/-- Whether a key stands for its mapping where a scalar is asked for. -/
def isDefault : Node → Bool := isMark .default "value"

mutual

def text? : Node → Option Text
  | .scalar _ text _ => some text
  | .sequence _ _ => none
  | .mapping _ entries => defaultText? entries

def defaultText? : List (Node × Node) → Option Text
  | [] => none
  | (k, v) :: es => if k.isDefault then text? v else defaultText? es

end

def kindOfTag (tag : String) : Kind :=
  let kinds : List (String × Kind) := [("null", .null), ("bool", .bool), ("int", .int),
    ("float", .float), ("timestamp", .timestamp), ("binary", .binary), ("str", .str)]
  ((kinds.find? fun k => coreTag k.1 == tag).map Prod.snd).getD .merge

def taggedValue (tag : String) (n : Node) : Except Fault Value :=
  match text? n, n, kindOfTag tag with
  | none, _, _ => malformed
  | some _, .mapping _ _, .timestamp => .error (.unreadable .dateOfList)
  | some text, _, kind => valueAs kind text

/-- The value of a node that is to be a scalar. Without a tag a quoted text is a text; a lone
exclamation mark leaves it to its form. -/
def scalarValue (n : Node) : Except Fault Value :=
  match n with
  | .scalar none text plain => if plain then plainValue text else .ok (.str text)
  | .scalar (some "!") text _ => plainValue text
  | .scalar (some tag) _ _ => taggedValue tag n
  | .sequence tag _ => taggedValue (tag.getD "") n
  | .mapping tag _ => taggedValue (tag.getD "") n

/-- The value of a key. The mark of a default is a text among keys. -/
def keyValue (n : Node) : Except Fault Value :=
  if n.isDefault then (text? n).elim malformed fun text => .ok (.str text)
  else if n.target = .scalar then scalarValue n
  else malformed

/-- The entries of a mapping with merge keys resolved, `depth` bounding the chain of merges. -/
def flatten : Nat → List (Node × Node) → Except Fault (List (Node × Node))
  | 0, _ => malformed
  | depth + 1, entries => do
    let merged ← entries.mapM fun e =>
      if e.1.isMerge then
        match e.2 with
        | .mapping _ es => flatten depth es
        | .sequence _ ns => do
          let parts ← ns.mapM fun
            | .mapping _ es => flatten depth es
            | _ => malformed
          .ok parts.reverse.flatten
        | .scalar _ _ _ => malformed
      else .ok []
    .ok (merged.flatten ++ entries.filter fun e => !e.1.isMerge)

def checkHead (n : Node) : Except Fault Unit :=
  match n.target with
  | .unknown => malformed
  | .scalar => n.scalarValue.map fun _ => ()
  | _ => .ok ()

def pair? : Node → Except Fault (Node × Node)
  | .mapping _ [e] => .ok e
  | _ => malformed

/-- Looks at what is directly inside a node, in order, and gives the collections found there. -/
def checkInside (depth : Nat) (n : Node) : Except Fault (List Node) :=
  match n.target, n with
  | .list, .sequence _ items => do
    items.forM checkHead
    .ok (items.filter isCollection)
  | .pairs, .sequence _ items => do
    let inner ← items.mapM fun item => do
      let (k, v) ← pair? item
      checkHead k
      checkHead v
      .ok ([k, v].filter isCollection)
    .ok inner.flatten
  | .object, .mapping _ entries => checkEntries entries
  | .set, .mapping _ entries => checkEntries entries
  | _, _ => malformed
where
  checkEntries (entries : List (Node × Node)) : Except Fault (List Node) := do
    let entries ← flatten depth entries
    entries.forM fun (k, v) => do
      let _ ← keyValue k
      checkHead v
    .ok ((entries.map Prod.snd).filter isCollection)

def checkLevels (depth : Nat) : Nat → List Node → Except Fault Unit
  | 0, _ => .ok ()
  | _, [] => .ok ()
  | levels + 1, level => do
    let inner ← level.mapM (checkInside depth)
    checkLevels depth levels inner.flatten

def valueOf : Nat → Node → Except Fault Value
  | 0, _ => malformed
  | fuel + 1, n =>
    match n.target, n with
    | .pairs, .sequence _ items =>
      (items.mapM fun item => do
        let (k, v) ← pair? item
        .ok (Value.tuple [← valueOf fuel k, ← valueOf fuel v])).map .list
    | .list, .sequence _ items => (items.mapM (valueOf fuel)).map .list
    | .set, .mapping _ entries => (entriesOf fuel entries).map fun es => .set (es.map Prod.fst)
    | .object, .mapping _ entries => (entriesOf fuel entries).map .object
    | _, _ => scalarValue n
where
  entriesOf (fuel : Nat) (entries : List (Node × Node)) : Except Fault Entries := do
    let entries ← flatten (fuel + 1) entries
    let es ← entries.mapM fun (k, v) => do .ok (← keyValue k, ← valueOf fuel v)
    .ok (Entries.ofList es)

end Node

def read (f : Feed) : Except Fault Value := do
  match ← Node.ofStream f.tokens with
  | none => .ok .null
  | some root =>
    let fuel := f.text.length + 2
    root.checkHead
    Node.checkLevels fuel fuel ([root].filter Node.isCollection)
    root.valueOf fuel

end Columnar.Yaml
