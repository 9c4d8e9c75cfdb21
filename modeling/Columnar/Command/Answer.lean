import Columnar.Command.Arguments
import Columnar.Json.Writer
import Columnar.Schema.Compile
import Columnar.Source.Load
import Columnar.Text.Markup
import Columnar.Text.Table
import Columnar.Titles
import Columnar.Value.Writable

namespace Columnar.Command
open Text

inductive Answer
  | notLoaded (path : Source.Path) (cause : Source.Cause)
  | rejected (fault : Schema.Fault)
  | columns (file : String) (compiled : Schema.Compiled)
  | titles (columns : Columns)

namespace Answer

def ofSchema (verb : Verb) (file : String) (schema : Value) : Answer :=
  match Schema.compile schema, verb with
  | .error f, _ => .rejected f
  | .ok c, .compile => .columns file c
  | .ok c, .validate => .titles c.columns

/-- Problems of columns are a failure only if the settings say so, those of titles always. -/
def succeeds (failOnProblems : Bool) : Answer → Bool
  | .notLoaded _ _ => false
  | .rejected _ => false
  | .columns _ c => c.problems.isEmpty || !failOnProblems
  | .titles cs => (Titles.problems cs.titles).isEmpty

def exitCode (failOnProblems : Bool) (a : Answer) : Nat :=
  if a.succeeds failOnProblems then 0 else 1

def object (es : List (String × Value)) : Value := .object (es.map fun (k, v) => (.str k, v))

def strings (ts : List Text) : Value := .list (ts.map .str)

/-- The answer as a document; that a schema could not be loaded is told in plain words only. -/
def document? : Answer → Option Value
  | .notLoaded _ _ => none
  | .rejected f => some (object [("error", .str f.toError.message)])
  | .columns _ c => some (object [("columns", c.columns.toValue), ("problems", strings c.lines)])
  | .titles cs =>
    let problems := Titles.lines cs.titles
    some (object [("valid", .bool problems.isEmpty), ("titles", strings cs.titles),
      ("problems", strings problems)])

def display (markup : List Char) : List Char := Screen.place (Markup.shown markup) ++ ['\n']

def displayError (message : Text) : Option (List Char) :=
  message.string?.map fun s => display (Markup.styled "red" (Markup.escape s.toList))

def cell (t : Text) : Option (List Char) :=
  t.string?.map fun s => Screen.withoutMoves (Markup.shown (Markup.escape s.toList))

def typeText (c : Column) : Text := .intercalate " | " ((c.type.map TypeUnion.names).getD [])

def validationText (c : Column) : Text :=
  let names := (c.validation.getD []).filterMap fun e => e.1.str?
  .intercalate ", " (names.mergeSort fun a b => !b.codes.lex a.codes)

def tableRow (i : Nat) (c : Column) : Option (List (List Char)) :=
  [(toString i : Text), c.title, typeText c, c.description, validationText c].mapM cell

def table (cs : Columns) : Option Table :=
  ((cs.mapIdx tableRow).mapM id).map fun rows =>
    ⟨⟨['#'], .right⟩ ::
      ["Title", "Type", "Description", "Validation"].map fun s => ⟨s.toList, .left⟩, rows⟩

def displayProblems : List Schema.Problem → List Char
  | [] => display ('\n' :: Markup.styled "green" "No problems found".toList)
  | ps =>
    display ('\n' :: Markup.styled "yellow" s!"Problems ({ps.length}):".toList) ++
      ps.flatMap fun p => display ("  - ".toList ++ Markup.escape p.line.toList)

/-- The answer in plain words, as it is printed part by part. A part with half a surrogate pair
cannot be printed, even where the half is in a line that is too wide and would be cut off with its
end. -/
def plain : Answer → List (Option (List Char))
  | .notLoaded path cause => [displayError (path.text ++ ": " ++ cause.message)]
  | .rejected f => [displayError f.toError.message]
  | .columns file c =>
    [some (display ('\n' ::
        Markup.styled "bold" (Markup.escape ("Columns in " ++ file).toList) ++ ['\n'])),
      (table c.columns).map fun t => t.lines.flatMap (· ++ ['\n']),
      some (displayProblems c.problems)]
  | .titles cs => match Titles.check cs.titles with
    | some e => [displayError e.message]
    | none =>
      [some (display (Markup.styled "green" s!"All {cs.length} column titles are valid".toList))]

/-- What keeps an answer from being given as a whole: an integer that is too long to be written,
more calls than may be open at once, or half a surrogate pair, which cannot be printed. -/
inductive Obstacle
  | longInteger
  | tooDeep
  | half
  deriving DecidableEq, Repr

/-- Between a verb and what it writes stand five calls, between a verb and the schema that is looked
at only two. -/
def moreCalls : Nat := 3

/-- What stops a document, with so many calls as may be open at once below a schema that is looked
at. A document is written as a whole before it is printed. -/
def obstacle? (calls : Nat) (document : Value) : Option Obstacle :=
  if document.holdsLong then some .longInteger
  else if calls < document.layers + moreCalls then some .tooDeep
  else if document.holdsHalf then some .half
  else none

def print (calls : Nat) (json : Bool) (a : Answer) : List Char × Option Obstacle :=
  match json, a.document? with
  | true, some v => match obstacle? calls v with
    | none => (Json.indented 0 v ++ ['\n'], none)
    | stop => ([], stop)
  | _, _ =>
    ((a.plain.takeWhile Option.isSome).flatMap (·.getD []),
      if a.plain.all Option.isSome then none else some .half)

end Answer
end Columnar.Command
