import Columnar.Yaml.Lexer

/-! From tokens to the tree of a document. What a scalar stands for is left open. A token is asked
for only where the next step depends on it, so what is met behind the tokens counts only if no
earlier token is out of place. -/
namespace Columnar.Yaml

/-- How a node is typed: not at all, or by a tag in full. -/
abbrev Tag := Option String

inductive Node
  | scalar (tag : Tag) (text : Text) (plain : Bool)
  | sequence (tag : Tag) (items : List Node)
  | mapping (tag : Tag) (entries : List (Node × Node))

namespace Node

def empty : Node := .scalar none "" true

def coreTag (name : String) : String := "tag:yaml.org,2002:" ++ name

def coreHandles : List (String × String) := [("!", "!"), ("!!", coreTag "")]

/-- What is still to be read, the anchors so far with their nodes, as far as these are complete, and
what the handles of tags mean. -/
structure Reading where
  stream : Stream
  anchors : List (String × Option Node)
  handles : List (String × String)

abbrev Parser := StateT Reading (Except Fault)

namespace Parser

def fail {α : Type} : Parser α := throw .malformed

def peek : Parser (Option Token) := do
  let s := (← get).stream
  match s.tokens, s.stop with
  | t :: _, _ => return some t
  | [], none => return none
  | [], some f => throw f

def drop : Parser Unit :=
  modify fun r => { r with stream := { r.stream with tokens := r.stream.tokens.drop 1 } }

end Parser

structure Properties where
  anchor : Option String
  tag : Tag

def Properties.isEmpty (p : Properties) : Bool := p.anchor.isNone && p.tag.isNone

namespace Parser

def fullTag (handle : Option String) (rest : String) : Parser String := do
  match handle with
  | none => return rest
  | some h => match (← get).handles.lookup h with
    | some meaning => return meaning ++ rest
    | none => fail

def properties : Parser Properties := do
  match ← peek with
  | some (.anchor a) =>
    drop
    match ← peek with
    | some (.tag h s) =>
      drop
      return ⟨some a, some (← fullTag h s)⟩
    | _ => return ⟨some a, none⟩
  | some (.tag h s) =>
    drop
    match ← peek with
    | some (.anchor a) =>
      drop
      return ⟨some a, some (← fullTag h s)⟩
    | _ => return ⟨none, some (← fullTag h s)⟩
  | _ => return ⟨none, none⟩

def openAnchor (p : Properties) : Parser Unit := do
  match p.anchor with
  | none => return ()
  | some a =>
    if ((← get).anchors.lookup a).isSome then fail
    else modify fun r => { r with anchors := (a, none) :: r.anchors }

def closeAnchor (p : Properties) (n : Node) : Parser Node := do
  match p.anchor with
  | none => return n
  | some a =>
    modify fun r => { r with anchors := (a, some n) :: r.anchors }
    return n

/-- The node of an alias, which may not stand inside what it names. -/
def ofAlias (a : String) : Parser Node := do
  match (← get).anchors.lookup a with
  | some (some n) => return n
  | _ => fail

def scalar (p : Properties) (text : Text) (plain : Bool) : Parser Node := do
  openAnchor p
  closeAnchor p (.scalar p.tag text plain)

def sequence (p : Properties) (items : Parser (List Node)) : Parser Node := do
  openAnchor p
  closeAnchor p (.sequence p.tag (← items))

def mapping (p : Properties) (entries : Parser (List (Node × Node))) : Parser Node := do
  openAnchor p
  closeAnchor p (.mapping p.tag (← entries))

def before (marks : List Token) : Parser Bool := do
  return (← peek).all fun t => marks.contains t

def flowEnds (first : Bool) (last : Token) : Parser Bool := do
  match ← peek, first with
  | some .flowEntry, false =>
    drop
    return (← peek) == some last
  | t, first => if t == some last then return true else if first then return false else fail

mutual

/-- A node. `block` says whether block collections may start here, `indentless` whether a sequence
may without being indented. -/
def read (block indentless : Bool) : Nat → Parser Node
  | 0 => fail
  | fuel + 1 => do
    match ← peek with
    | some (.alias a) =>
      drop
      ofAlias a
    | _ =>
      let p ← properties
      match ← peek, block with
      | some (.scalar text plain), _ =>
        drop
        scalar p text plain
      | some .flowSequenceStart, _ =>
        drop
        sequence p (flowItems true fuel)
      | some .flowMappingStart, _ =>
        drop
        mapping p (flowEntries true fuel)
      | some .blockSequenceStart, true =>
        drop
        sequence p (blockItems fuel)
      | some .blockMappingStart, true =>
        drop
        mapping p (blockEntries fuel)
      | t, _ =>
        if indentless && t == some .blockEntry then sequence p (indentlessItems fuel)
        else if p.isEmpty then fail
        else scalar p "" p.tag.isNone

def readUnless (marks : List Token) (block indentless : Bool) : Nat → Parser Node
  | 0 => fail
  | fuel + 1 => do
    if ← before marks then return empty else read block indentless fuel

def readValue (marks : List Token) (block indentless : Bool) : Nat → Parser Node
  | 0 => fail
  | fuel + 1 => do
    match ← peek with
    | some .value =>
      drop
      readUnless marks block indentless fuel
    | _ => return empty

def blockItems : Nat → Parser (List Node)
  | 0 => fail
  | fuel + 1 => do
    match ← peek with
    | some .blockEntry =>
      drop
      let n ← readUnless [.blockEntry, .blockEnd] true false fuel
      return n :: (← blockItems fuel)
    | some .blockEnd =>
      drop
      return []
    | _ => fail

def indentlessItems : Nat → Parser (List Node)
  | 0 => fail
  | fuel + 1 => do
    match ← peek with
    | some .blockEntry =>
      drop
      let n ← readUnless [.blockEntry, .key, .value, .blockEnd] true false fuel
      return n :: (← indentlessItems fuel)
    | _ => return []

def blockEntries : Nat → Parser (List (Node × Node))
  | 0 => fail
  | fuel + 1 => do
    match ← peek with
    | some .key =>
      drop
      let k ← readUnless [.key, .value, .blockEnd] true true fuel
      let v ← readValue [.key, .value, .blockEnd] true true fuel
      return (k, v) :: (← blockEntries fuel)
    | some .blockEnd =>
      drop
      return []
    | _ => fail

/-- The items of a flow sequence; a key in it makes a mapping of one entry. -/
def flowItems (first : Bool) : Nat → Parser (List Node)
  | 0 => fail
  | fuel + 1 => do
    if ← flowEnds first .flowSequenceEnd then
      drop
      return []
    match ← peek with
    | some .key =>
      drop
      let k ← readUnless [.value, .flowEntry, .flowSequenceEnd] false false fuel
      let v ← readValue [.flowEntry, .flowSequenceEnd] false false fuel
      return .mapping none [(k, v)] :: (← flowItems false fuel)
    | _ =>
      let n ← read false false fuel
      return n :: (← flowItems false fuel)

/-- The entries of a flow mapping; a node without a key mark is a key without a value. -/
def flowEntries (first : Bool) : Nat → Parser (List (Node × Node))
  | 0 => fail
  | fuel + 1 => do
    if ← flowEnds first .flowMappingEnd then
      drop
      return []
    match ← peek with
    | some .key =>
      drop
      let k ← readUnless [.value, .flowEntry, .flowMappingEnd] false false fuel
      let v ← readValue [.flowEntry, .flowMappingEnd] false false fuel
      return (k, v) :: (← flowEntries false fuel)
    | _ =>
      let k ← read false false fuel
      return (k, empty) :: (← flowEntries false fuel)

end

/-- What the directives in front of a document say: whether a version was named, and the handles.
There is only version 1, and nothing may be said twice. -/
def directives (version : Bool) (handles : List (String × String)) :
    Nat → Parser (List (String × String))
  | 0 => fail
  | fuel + 1 => do
    match ← peek with
    | some (.directive d) =>
      drop
      match d with
      | .version major => if version ∨ major ≠ 1 then fail else directives true handles fuel
      | .handle name meaning =>
        if (handles.lookup name).isSome then fail
        else directives version ((name, meaning) :: handles) fuel
      | .unknown => directives version handles fuel
    | _ => return handles ++ coreHandles

def documentStart (fuel : Nat) : Parser Unit := do
  let handles ← directives false [] fuel
  match ← peek with
  | some .documentStart =>
    drop
    modify fun r => { r with handles }
  | _ => fail

def documentEnds : Nat → Parser Unit
  | 0 => fail
  | fuel + 1 => do
    match ← peek with
    | some .documentEnd =>
      drop
      documentEnds fuel
    | _ => return ()

/-- The node of a document behind its start mark, empty if the next document or the end follows. -/
def rootBehindMark (fuel : Nat) : Parser Node := do
  match ← peek with
  | none | some (.directive _) | some .documentStart | some .documentEnd => return empty
  | _ => read true false fuel

/-- Another document behind the first is refused where it starts. -/
def onlyDocument (root : Node) (fuel : Nat) : Parser (Option Node) := do
  documentEnds fuel
  match ← peek with
  | none => return some root
  | some _ =>
    documentStart fuel
    fail

def document (fuel : Nat) : Parser (Option Node) := do
  match ← peek with
  | none => return none
  | some .documentStart | some (.directive _) =>
    documentStart fuel
    onlyDocument (← rootBehindMark fuel) fuel
  | some _ => onlyDocument (← read true false fuel) fuel

end Parser

def ofStream (s : Stream) : Except Fault (Option Node) :=
  (Parser.document (4 * s.tokens.length + 4)).run' ⟨s, [], coreHandles⟩

end Node
end Columnar.Yaml
