import Columnar.Log.Line
import Columnar.Schema.Compile
import Columnar.Titles

/-! Scripts of steps that log, one behind the other and in blocks. A block gives its fields to every
event inside and is left by its end or by an error, which goes on outwards to the next attempt. No
step is taken while an error is being handled: what a handler does stands behind its attempt. -/
namespace Columnar.Log

inductive Action
  | configure (level format : String)
  | log (r : Record)
  | compile (schema : Value)
  | check (titles : List Text)
  | raise (text : String)
  | within (fields : Fields) (body : List Action)
  | attempt (body : List Action)

inductive Answer
  | done
  | unknownLevel (e : Logger.UnknownLevel)
  | compiled (success : Bool)
  | checked (error : Option TableError)
  | unwritable (o : Obstacle)

/-- What happened, in order. A step is recorded with the events it wrote and the form that was then
in force. -/
inductive Trace
  | step (answer : Answer) (events : List Fields) (format : LogFormat)
  | enter
  | exit (error : Option String)

namespace Action

def logAll (l : Logger) (rs : List Record) (answer : Answer) : Answer × List Fields × Logger :=
  match writable l.format (l.emitAll rs) with
  | (events, none) => (answer, events, l)
  | (events, some o) => (.unwritable o, events, l)

def single (l : Logger) : Action → Answer × List Fields × Logger
  | .configure level format => match l.configure level format with
    | .ok l => (.done, [], l)
    | .error e => (.unknownLevel e, [], l)
  | .log r => match clash? (l.writes r) r.fields with
    | some o => (.unwritable o, [], l)
    | none => logAll l [r] .done
  | .compile schema =>
    let r := Schema.compile schema
    logAll l (Schema.outcomeRecords r) (.compiled r.isOk)
  | .check titles => logAll l (Titles.records titles) (.checked (Titles.check titles))
  | _ => (.done, [], l)

mutual

/-- Runs a step: what happened, the logger afterwards, and the error if the step ended in one. -/
def run (l : Logger) : Action → List Trace × Logger × Option String
  | .raise text => ([], l, some text)
  | .within fields body =>
    let (trace, l', error) := runAll (l.enter fields) body
    (trace, l'.leave l.context, error)
  | .attempt body =>
    let (trace, l', error) := runAll l body
    (.enter :: (trace ++ [.exit error]), l', none)
  | a =>
    let (answer, events, l') := single l a
    ([.step answer events l'.format], l', none)

def runAll (l : Logger) : List Action → List Trace × Logger × Option String
  | [] => ([], l, none)
  | a :: as =>
    match run l a with
    | (trace, l', some error) => (trace, l', some error)
    | (trace, l', none) =>
      let (more, l'', error) := runAll l' as
      (trace ++ more, l'', error)

end

end Action
end Columnar.Log
