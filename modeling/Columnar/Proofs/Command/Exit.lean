import Columnar.Command.Run
import Columnar.Proofs.Command.Obstacles
import Columnar.Proofs.Compiled
import Columnar.Proofs.Json.Indented
import Columnar.Proofs.Loading
import Columnar.Proofs.Written

namespace Columnar.Command

def Request.load (r : Request) (calls : Nat) (place : Source.Path) (data : List UInt8) :
    Except Source.Error Value :=
  Source.loadWithin calls (place.resolve (.ofString r.path)) (some (.file data))
    (r.key.map Text.whole)

/-- What a verb asks of compiled columns. Only in a compilation do the settings and the form of the
answer matter. -/
def Passes (calls : Nat) (s : Settings) (json : Bool) (c : Schema.Compiled) : Verb → Prop
  | .compile => (c.problems = [] ∨ s.failOnProblems = false) ∧ Answer.Told calls json c.columns
  | .validate => (∀ t ∈ c.columns.titles, Titles.IsMachineName t) ∧ c.columns.titles.Nodup

section
variable {calls : Nat} {s : Settings} {verb : Verb} {json : Bool}

end

section
variable {calls : Nat} {env : Settings.Environment} {place : Source.Path} {folder : Source.Folder}
  {args : List String} {r : Request} {s : Settings} {data : List UInt8}

def Ends (loaded : Except Source.Error Value) : Prop :=
  (∃ schema, loaded = .ok schema) ∨ ∃ path cause, loaded = .error (.refused path cause)

end

end Columnar.Command
