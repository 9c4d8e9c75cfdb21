import Columnar.Json.Writer
import Columnar.Log.Logger
import Columnar.Value
import Columnar.Value.Literal

/-! Events as lines. On the console the level stands first, then the event, then the other fields
by name, and below the line what needs lines of its own; in the other form an event is a JSON object
with the time it was written. Half a surrogate pair in a text is escaped in both. -/
namespace Columnar.Log

def padTo (width : Nat) (t : Text) : Text := t ++ "".pushn ' ' (width - t.length)

def needsQuotes (t : Text) : Bool :=
  t.points.any fun p => ([' ', '\t', '=', '\r', '\n', '"', '\''].map Point.char).contains p

def fieldText : Value → String
  | .str t => if needsQuotes t then t.literal else t.escaped
  | v => v.literal

structure Column where
  field : String
  render : Text → Text

def columns : List Column :=
  [⟨"timestamp", id⟩, ⟨"level", fun t => "[" ++ padTo 9 t ++ "]"⟩, ⟨"event", padTo 30⟩,
    ⟨"logger", fun t => "[" ++ t ++ "]"⟩, ⟨"logger_name", fun t => "[" ++ t ++ "]"⟩]

def dropEndBlanks (s : String) : String :=
  String.ofList (s.toList.reverse.dropWhile (· == ' ')).reverse

/-- The field that asks for the error in hand. Events are written outside of handlers, where there
is none, so that it is dropped. -/
def errorInHand : String := "exc_info"

def blocks : List String := ["stack", "exception"]

/-- The line between the two blocks. It is also drawn where an error in hand is announced. -/
def divider : String := "\n\n" ++ "".pushn '=' 79 ++ "\n"

def blockText (event : Fields) (field : String) : Option String :=
  match event.lookup field with
  | none => none
  | some .null => none
  | some v => some ("\n" ++ v.shown.escaped)

def below (event : Fields) : String :=
  let announced := !((event.lookup errorInHand).getD .null).isBlank
  match blocks.map (blockText event) with
  | [some stack, error] =>
    stack ++ (if announced || error.isSome then divider else "") ++ error.getD ""
  | texts => String.join (texts.filterMap id)

def isNamed (field : String) : Bool :=
  !(columns.any (·.field == field) || blocks.contains field || field == errorInHand)

def consoleLine (event : Fields) : String :=
  let front := columns.filterMap fun c => (event.lookup c.field).map fun v => (c.render v.shown).escaped
  let named := event.filter fun f => isNamed f.1
  let sorted := named.mergeSort fun a b => a.1 ≤ b.1
  let texts := (front ++ sorted.map fun f => f.1 ++ "=" ++ fieldText f.2).filter (· ≠ "")
  dropEndBlanks (String.intercalate " " texts) ++ below event ++ "\n"

def consoleText (events : List Fields) : String := String.join (events.map consoleLine)

mutual

/-- A value as JSON tells it: a tuple is an array, and what JSON has no form for is its literal. -/
def plain : Value → Value
  | .list xs => .list (plainItems xs)
  | .tuple xs => .list (plainItems xs)
  | .object es => .object (plainEntries es)
  | .set xs => .str (Value.set xs).literal
  | .bytes data => .str (Value.bytes data).literal
  | .date d => .str d.literal
  | .datetime t => .str t.literal
  | v => v

def plainItems : List Value → List Value
  | [] => []
  | x :: xs => plain x :: plainItems xs

def plainEntries : List (Value × Value) → List (Value × Value)
  | [] => []
  | (k, v) :: es => (.str (Json.keyName Json.spaced k), plain v) :: plainEntries es

end

def withoutError (event : Fields) : Fields := event.filter (·.1 ≠ errorInHand)

def jsonEvent (time : Value) (event : Fields) : Value :=
  .object (((withoutError event).set "timestamp" time).map fun (k, v) => (.str k, plain v))

def jsonLine (time : Value) (event : Fields) : String :=
  Json.toText Json.spaced (jsonEvent time event) ++ "\n"

/-- Why an event cannot be written: a block below it is no text, an object in it has a key that no
name stands for, or a call that hands it on has a parameter with the name of one of its fields. -/
inductive Obstacle
  | notText (kind : String)
  | badKey (kind : String)
  | taken (call field : String)
  deriving DecidableEq, Repr

def Obstacle.message : Obstacle → String
  | .notText kind => s!"can only concatenate str (not \"{kind}\") to str"
  | .badKey kind => s!"keys must be str, int, float, bool or None, not {kind}"
  | .taken call field => s!"{call}() got multiple values for argument '{field}'"

def hasName : Value → Bool
  | .null | .bool _ | .int _ | .float _ | .str _ => true
  | _ => false

mutual

def badKey? : Value → Option Value
  | .list xs => badKeyOfItems xs
  | .tuple xs => badKeyOfItems xs
  | .object es => badKeyOfEntries es
  | _ => none

def badKeyOfItems : List Value → Option Value
  | [] => none
  | x :: xs => badKey? x <|> badKeyOfItems xs

def badKeyOfEntries : List (Value × Value) → Option Value
  | [] => none
  | (k, v) :: es => if hasName k then badKey? v <|> badKeyOfEntries es else some k

end

def isBlockText : Value → Bool
  | .null | .str _ => true
  | _ => false

def obstacle? (format : LogFormat) (event : Fields) : Option Obstacle :=
  match format with
  | .console =>
    let texts := blocks.filterMap fun b => event.lookup b
    (texts.find? (!isBlockText ·)).map fun v => .notText v.fullKindName
  | .json =>
    (badKeyOfItems ((withoutError event).map Prod.snd)).map fun k => .badKey k.fullKindName

/-- The calls that hand a record on, from the first, with the parameters that they fill themselves.
Below the threshold there is only one, which drops it. -/
def calls (written : Bool) : List (String × List String) :=
  if written then
    [("_make_filtering_bound_logger.<locals>.make_method.<locals>.meth", ["self", "event"]),
      ("BoundLoggerBase._proxy_to_logger", ["method_name"])]
  else [("_nop", ["self", "event"])]

def clash? (written : Bool) (fields : Fields) : Option Obstacle :=
  (calls written).findSome? fun (call, own) =>
    (fields.find? (own.contains ·.1)).map fun f => .taken call f.1

def writable (format : LogFormat) : List Fields → List Fields × Option Obstacle
  | [] => ([], none)
  | event :: events =>
    match obstacle? format event with
    | some o => ([], some o)
    | none =>
      let (more, o) := writable format events
      (event :: more, o)

end Columnar.Log
