import Columnar.Document
import Columnar.Json.Reader
import Columnar.Log.Logger
import Columnar.Source.Feed
import Columnar.Source.Folder
import Columnar.Yaml.Read

/-! Loading a schema from a file. The suffix of the file says whether it is JSON or YAML; a key
picks the schema out of a larger document; and what is loaded must be an object that JSON can
write. JSON is decoded as a whole, YAML as it is asked for. -/
namespace Columnar.Source

inductive Format
  | json
  | yaml
  deriving DecidableEq, Repr

def Format.ofSuffix? (suffix : String) : Option Format :=
  if suffix = ".json" then some .json
  else if suffix = ".yaml" ∨ suffix = ".yml" then some .yaml
  else none

inductive Cause
  | missing
  | unsupported (suffix : String)
  | isFolder
  | locked
  | undecodable (e : Text.DecodeError)
  | badJson (e : Json.Error) (text : List Char)
  | badYaml
  | notObject (key : Option Text)
  | incompatible (problem : Text)

/-- What the reader of YAML says of a text behind `invalid YAML: ` is left out. -/
def Cause.message : Cause → Text
  | .missing => "file not found"
  | .unsupported suffix => s!"unsupported file type '{suffix}'"
  | .isFolder => "cannot read file: Is a directory"
  | .locked => "cannot read file: Permission denied"
  | .undecodable e => "invalid encoding: " ++ e.message
  | .badJson e text => "invalid JSON: " ++ e.message text
  | .badYaml => "invalid YAML"
  | .notObject none => "document must be an object"
  | .notObject (some key) => "'" ++ key ++ "' must be an object"
  | .incompatible problem => "not JSON-compatible: " ++ problem

/-- A file is refused for a cause. Else it is no error of loading: a scalar that is not what it is
announced as, or a key that cannot be told, or more calls open at once than there may be. -/
inductive Error
  | refused (path : Path) (cause : Cause)
  | unreadable (u : Unreadable)
  | tooDeep

def Error.message : Error → Text
  | .refused path cause => path.text ++ ": " ++ cause.message
  | .unreadable u => u.message
  | .tooDeep => "maximum recursion depth exceeded"

def readJson (path : Path) (data : List UInt8) : Except Error Value :=
  match Text.Utf8.decode data with
  | .error e => .error (.refused path (.undecodable e))
  | .ok cs =>
    let text := Text.unifyNewlines cs
    match Json.read text with
    | .ok v => .ok v
    | .error (.longInteger digits) => .error (.unreadable (.longInteger digits))
    | .error e => .error (.refused path (.badJson e text))

def readYaml (path : Path) (data : List UInt8) : Except Error Value :=
  match Yaml.read (feed data) with
  | .ok v => .ok v
  | .error .malformed => .error (.refused path .badYaml)
  | .error (.undecodable e) => .error (.refused path (.undecodable e))
  | .error (.unreadable u) => .error (.unreadable u)

def readDocument (path : Path) : Format → List UInt8 → Except Error Value
  | .json => readJson path
  | .yaml => readYaml path

def effectiveKey (key : Option Text) : Option Text := key.filter (· ≠ "")

def picked (key : Option Text) (document : Value) : Value :=
  match key with
  | some k => Document.select document k
  | none => document

def checked (path : Path) (key : Option Text) (schema : Value) : Except Error Value :=
  match Document.check schema (key.getD "$") with
  | .error u => .error (.unreadable u)
  | .ok (some problem) => .error (.refused path (.incompatible problem))
  | .ok none => .ok schema

def selectObject (path : Path) (key : Option Text) (document : Value) : Except Error Value :=
  match picked key document with
  | .object es => .ok (.object es)
  | _ => .error (.refused path (.notObject key))

def selected (path : Path) (node : Option Node) (key : Option Text) : Except Error Value :=
  match node with
  | none => .error (.refused path .missing)
  | some node =>
    match Format.ofSuffix? path.suffix with
    | none => .error (.refused path (.unsupported path.suffix))
    | some format =>
      match node with
      | .folder => .error (.refused path .isFolder)
      | .locked => .error (.refused path .locked)
      | .file data => (readDocument path format data).bind (selectObject path (effectiveKey key))

def load (path : Path) (node : Option Node) (key : Option Text) : Except Error Value :=
  (selected path node key).bind (checked path (effectiveKey key))

/-- Loading where only so many calls may be open at once while a schema is looked at. -/
def loadWithin (calls : Nat) (path : Path) (node : Option Node) (key : Option Text) :
    Except Error Value :=
  (selected path node key).bind fun schema =>
    if calls < Document.reach schema then .error .tooDeep
    else checked path (effectiveKey key) schema

def loadedRecord (path : Path) (key : Option Text) : Log.Record :=
  ⟨.info, "schema_loaded",
    [("path", .str path.text), ("key", (key.map Value.str).getD .null)]⟩

end Columnar.Source
