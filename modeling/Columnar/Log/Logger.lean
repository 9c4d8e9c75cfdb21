import Columnar.Settings.Read
import Columnar.Value

/-! What is logged, and the logger: from which level on it writes, in what form, and the fields that
the blocks around give to every event. Fields of an inner block replace those of an outer one and
those of the event itself; the level is set last, so no field can replace it. -/
namespace Columnar.Log

inductive Level
  | debug
  | info
  | warning
  | error
  | critical
  deriving DecidableEq, Repr

def Level.severity : Level → Nat
  | .debug => 10
  | .info => 20
  | .warning => 30
  | .error => 40
  | .critical => 50

def Level.name : Level → String
  | .debug => "debug"
  | .info => "info"
  | .warning => "warning"
  | .error => "error"
  | .critical => "critical"

abbrev Fields := List (String × Value)

structure Record where
  level : Level
  event : String
  fields : Fields

namespace Fields

def set : Fields → String → Value → Fields
  | [], k, v => [(k, v)]
  | (k', v') :: fs, k, v => if k' = k then (k, v) :: fs else (k', v') :: set fs k v

def update (fs fs' : Fields) : Fields := fs'.foldl (fun acc f => set acc f.1 f.2) fs

end Fields

structure Logger where
  threshold : Nat
  format : LogFormat
  context : Fields

namespace Logger

def severities : List (String × Nat) :=
  [("DEBUG", 10), ("INFO", 20), ("WARNING", 30), ("WARN", 30), ("ERROR", 40), ("CRITICAL", 50),
    ("FATAL", 50), ("NOTSET", 0)]

structure UnknownLevel where
  name : String
  deriving DecidableEq, Repr

def UnknownLevel.message (e : UnknownLevel) : String :=
  s!"module 'logging' has no attribute '{e.name}'"

def default : Logger := ⟨30, .console, []⟩

/-- Sets level and form and leaves the context. The case of the level does not matter; any form but
`json` is that of the console. -/
def configure (l : Logger) (level format : String) : Except UnknownLevel Logger :=
  let name := Text.upper level
  match severities.lookup name with
  | some n => .ok { l with threshold := n, format := if format = "json" then .json else .console }
  | none => .error ⟨name⟩

def event (l : Logger) (r : Record) : Fields :=
  (((r.fields.set "event" (.str r.event)).update l.context).set "level" (.str r.level.name))

def writes (l : Logger) (r : Record) : Bool := l.threshold ≤ r.level.severity

def emit (l : Logger) (r : Record) : List Fields := if l.writes r then [l.event r] else []

def emitAll (l : Logger) (rs : List Record) : List Fields := rs.flatMap l.emit

def enter (l : Logger) (fields : Fields) : Logger := { l with context := l.context.update fields }

def leave (l : Logger) (context : Fields) : Logger := { l with context }

end Logger
end Columnar.Log
