import Columnar.Text.CaseTable
import Columnar.Text.CasedTable
import Columnar.Text.Characters

namespace Columnar.Text

def CaseRun.covers (r : CaseRun) (n : Nat) : Bool :=
  r.first ≤ n && n ≤ r.last && (n - r.first) % r.step == 0

def mapCase (runs : List CaseRun) (expansions : List (Nat × List Nat)) (c : Char) : List Char :=
  match runs.find? (·.covers c.toNat) with
  | some r => [Char.ofNat (c.toNat + r.offset).toNat]
  | none => match expansions.lookup c.toNat with
    | some ns => ns.map Char.ofNat
    | none => [c]

def upperChar (c : Char) : List Char :=
  if c.toNat < 0x80 then [c.toUpper] else mapCase upperRuns upperExpansions c

def lowerChar (c : Char) : List Char :=
  if c.toNat < 0x80 then [c.toLower] else mapCase lowerRuns lowerExpansions c

def upper (s : String) : String := String.ofList (s.toList.flatMap upperChar)

/-- Whether a word goes on: the first character that is not passed over has a case. -/
def goesOn (cs : List Char) : Bool :=
  ((cs.find? (!inRuns passedRanges ·)).map (inRuns casedRanges)).getD false

def lowerFrom (inWord : Bool) : List Char → List Char
  | [] => []
  | c :: cs =>
    let inWord' := if inRuns passedRanges c then inWord else inRuns casedRanges c
    if c = 'Σ' then (if inWord && !goesOn cs then 'ς' else 'σ') :: lowerFrom inWord' cs
    else lowerChar c ++ lowerFrom inWord' cs

def lower (s : String) : String := String.ofList (lowerFrom false s.toList)

end Columnar.Text
