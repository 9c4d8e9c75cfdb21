import Columnar.Settings.Assignments
import Columnar.Text.Case

namespace Columnar

inductive LogFormat
  | console
  | json
  deriving DecidableEq, Repr

def LogFormat.name : LogFormat → String
  | .console => "console"
  | .json => "json"

structure Settings where
  logLevel : String
  logFormat : LogFormat
  failOnProblems : Bool
  deriving DecidableEq, Repr

namespace Settings

inductive Defect
  | logFormat
  | failOnProblems
  deriving DecidableEq, Repr

def Defect.field : Defect → String
  | .logFormat => "log_format"
  | .failOnProblems => "fail_on_problems"

def Defect.message : Defect → String
  | .logFormat => "Input should be 'console' or 'json'"
  | .failOnProblems => "Input should be a valid boolean, unable to interpret input"

abbrev Environment := List (String × String)

def variableName (field : String) : String := "tabular_schema_" ++ field

/-- The last value under a name, whatever the case of its letters. -/
def lookup (env : Environment) (field : String) : Option String :=
  (env.reverse.find? fun v => Text.lower v.1 == variableName field).map Prod.snd

/-- As `lookup`; a name that was last given without a value counts as not given. -/
def lookupAssigned (assigned : List (String × Option String)) (field : String) : Option String :=
  (assigned.reverse.find? fun v => Text.lower v.1 == variableName field).bind Prod.snd

def lastValues (assigned : List (String × Option String)) : List (String × Option String) :=
  assigned.foldl (fun acc a =>
    if acc.any (·.1 == a.1) then acc.map fun b => if b.1 == a.1 then a else b else acc ++ [a]) []

def truths : List String := ["1", "true", "t", "yes", "y", "on"]
def falsehoods : List String := ["0", "false", "f", "no", "n", "off"]

def bool? (s : String) : Option Bool :=
  let s := String.ofList (s.toList.map Char.toLower)
  if s ∈ truths then some true else if s ∈ falsehoods then some false else none

def format? (s : String) : Option LogFormat :=
  if s = "console" then some .console else if s = "json" then some .json else none

def read (env : Environment) (file : Option String) : Except (List Defect) Settings :=
  let assigned := lastValues (resolve env ((file.map assignments).getD []))
  let value (field : String) : Option String :=
    (lookup env field).or (lookupAssigned assigned field)
  let format := match value "log_format" with
    | none => some LogFormat.console
    | some s => format? s
  let fail := match value "fail_on_problems" with
    | none => some false
    | some s => bool? s
  match format, fail with
  | some format, some fail => .ok ⟨(value "log_level").getD "WARNING", format, fail⟩
  | format, fail =>
    .error ((if format.isNone then [Defect.logFormat] else []) ++
      (if fail.isNone then [Defect.failOnProblems] else []))

structure Held where
  env : Environment
  settings : Option Settings

namespace Held

def clear (h : Held) : Held := { h with settings := none }

/-- Settings once read are kept until they are cleared; a failure is not kept. -/
def get (h : Held) : Except (List Defect) Settings × Held :=
  match h.settings with
  | some s => (.ok s, h)
  | none => match read h.env none with
    | .ok s => (.ok s, { h with settings := some s })
    | .error ds => (.error ds, h)

end Held
end Settings
end Columnar
