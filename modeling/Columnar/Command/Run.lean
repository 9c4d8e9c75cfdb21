import Columnar.Command.Answer
import Columnar.Log.Line

namespace Columnar.Command

inductive Abort
  | badSettings (defects : List Settings.Defect)
  | badSettingsFile (e : Text.DecodeError)
  | unknownLevel (e : Log.Logger.UnknownLevel)
  | unreadable (u : Unreadable)
  | tooDeep
  | unprintable

def Abort.ofObstacle : Answer.Obstacle → Abort
  | .longInteger => .unreadable .unwritten
  | .tooDeep => .tooDeep
  | .half => .unprintable

def Abort.message : Abort → String
  | .badSettings ds => String.intercalate "\n" (ds.map fun d => d.field ++ ": " ++ d.message)
  | .badSettingsFile e => e.message
  | .unknownLevel e => e.message
  | .unreadable u => u.message
  | .tooDeep => "maximum recursion depth exceeded"
  | .unprintable => "surrogates not allowed"

structure Report where
  exitCode : Nat
  output : String
  events : List Log.Fields
  format : LogFormat
  abort : Option Abort

def Report.aborted (a : Abort) : Report := ⟨1, "", [], .console, some a⟩

def version : String := "0.1.0"

def Report.version : Report := ⟨0, Command.version ++ "\n", [], .console, none⟩

def readSettings (env : Settings.Environment) (file : Option (List UInt8)) :
    Except Abort Settings :=
  let text := file.mapM fun data => (Text.Utf8.decode data).mapError Abort.badSettingsFile
  text.bind fun cs => (Settings.read env (cs.map String.ofList)).mapError .badSettings

/-- More verbosity lowers the level, whatever the settings say. -/
def levelName (s : Settings) : Nat → String
  | 0 => s.logLevel
  | 1 => "INFO"
  | _ => "DEBUG"

def setUpLogger (s : Settings) (verbosity : Nat) : Except Abort Log.Logger :=
  (Log.Logger.default.configure (levelName s verbosity) s.logFormat.name).mapError .unknownLevel

/-- What is logged from a schema that was loaded. A compilation alone names the file it is for. -/
def events (l : Log.Logger) (r : Request) (path : Source.Path) (schema : Value) :
    List Log.Fields :=
  let compiled := Schema.compile schema
  let records := Schema.outcomeRecords compiled
  l.emit (Source.loadedRecord path (r.key.map Text.whole)) ++
    match r.verb, compiled with
    | .compile, _ => (l.enter [("source", .str path.text)]).emitAll records
    | .validate, .error _ => l.emitAll records
    | .validate, .ok c => l.emitAll (records ++ Titles.records c.columns.titles)

/-- What an answer leaves behind. What cannot be printed ends the run with what was printed
before. -/
def report (calls : Nat) (s : Settings) (l : Log.Logger) (r : Request) (a : Answer)
    (events : List Log.Fields) : Report :=
  match a.print calls r.json with
  | (cs, none) => ⟨a.exitCode s.failOnProblems, String.ofList cs, events, l.format, none⟩
  | (cs, some o) => ⟨1, String.ofList cs, events, l.format, some (.ofObstacle o)⟩

/-- Loads the file of a request and applies its verb. So many calls may be open at once while the
schema is looked at. -/
def answer (calls : Nat) (s : Settings) (l : Log.Logger) (r : Request) (path : Source.Path)
    (file : Source.Node) : Report :=
  match Source.loadWithin calls path (some file) (r.key.map Text.whole) with
  | .error .tooDeep => .aborted .tooDeep
  | .error (.unreadable u) => .aborted (.unreadable u)
  | .error (.refused path cause) => report calls s l r (.notLoaded path cause) []
  | .ok schema => report calls s l r (.ofSchema r.verb path.name schema) (events l r path schema)

def perform (calls : Nat) (env : Settings.Environment) (settingsFile : Option (List UInt8))
    (r : Request) (path : Source.Path) (file : Source.Node) : Report :=
  let ready := do
    let s ← readSettings env settingsFile
    let l ← setUpLogger s r.verbosity
    pure (s, l)
  match ready with
  | .error a => .aborted a
  | .ok (s, l) => answer calls s l r path file

def settingsFileName : String := ".env"

def settingsFile (folder : Source.Folder) : Option (List UInt8) :=
  match folder.lookup [settingsFileName] with
  | some (.file data) => some data
  | _ => none

/-- Runs the program in a folder that stands at `place`; `none` if it cannot be used in this way or
the path is not that of a file. -/
def run (calls : Nat) (env : Settings.Environment) (place : Source.Path)
    (folder : Source.Folder) (args : List String) : Option Report :=
  match Call.ofArguments args with
  | none => none
  | some .version => some .version
  | some (.run r) =>
    let path := place.resolve (.ofString r.path)
    match folder.nodeAt place path with
    | some (.file data) => some (perform calls env (settingsFile folder) r path (.file data))
    | _ => none

end Columnar.Command
