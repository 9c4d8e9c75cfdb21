import Columnar.Proofs.Command.Exit
import Mathlib

namespace Columnar.Command
open Value

/-- A report gives a document: it is read back from what was printed, or nothing was printed and the
report tells what stopped the document. -/
def Report.Gives (report : Report) (calls : Nat) (document : Value) : Prop :=
  match Answer.obstacle? calls document with
  | none => Json.read report.output.toList = .ok document
  | some o => report.output = "" ∧ report.abort = some (.ofObstacle o)

section
variable {calls : Nat} {s : Settings} {l : Log.Logger} {r : Request} {logged : List Log.Fields}

end

end Columnar.Command
