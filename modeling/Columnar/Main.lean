import Columnar.Calendar
import Columnar.Command.Run
import Std.Time.DateTime.Timestamp

open Columnar

namespace Columnar.Main

def variableNames : List String :=
  ["TABULAR_SCHEMA_LOG_LEVEL", "TABULAR_SCHEMA_LOG_FORMAT", "TABULAR_SCHEMA_FAIL_ON_PROBLEMS"]

def environment : IO Settings.Environment := do
  let found ← variableNames.mapM fun name => do return (← IO.getEnv name).map (name, ·)
  return found.filterMap id

/-- How many calls may be open at once while a schema is looked at. -/
def calls : Nat := 960

def bytes? (path : String) : IO (Option (List UInt8)) := do
  try
    return some (← IO.FS.readBinFile path).toList
  catch _ => return none

def usage : String := "usage: compile|validate PATH [--key KEY] [--json] [-v] | --version"

def now : IO Value := do
  let t ← Std.Time.Timestamp.now
  let microsecond := t.val.nano.val.toNat / 1000
  return .str (Calendar.DateTime.ofSeconds t.val.second.val.toNat microsecond).utcText

def print (r : Command.Report) : IO UInt32 := do
  IO.print r.output
  let time ← now
  for event in r.events do
    IO.eprint <| match r.format with
      | .json => Log.jsonLine time event
      | .console => Log.consoleLine event
  if let some a := r.abort then IO.eprintln a.message
  return UInt32.ofNat r.exitCode

def refuse : IO UInt32 := do
  IO.eprintln usage
  return 2

end Columnar.Main

def main (args : List String) : IO UInt32 := do
  match Command.Call.ofArguments args with
  | none => Main.refuse
  | some .version => Main.print .version
  | some (.run r) =>
    let place := Source.Path.ofString (← IO.currentDir).toString
    let path := place.resolve (.ofString r.path)
    match ← Main.bytes? path.text with
    | none => Main.refuse
    | some data =>
      let settings ← Main.bytes? Command.settingsFileName
      Main.print (Command.perform Main.calls (← Main.environment) settings r path (.file data))
