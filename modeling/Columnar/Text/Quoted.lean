import Columnar.Text
import Columnar.Text.PrintableTable

namespace Columnar.Text

def isPrintable (c : Char) : Bool :=
  if c.toNat < 0x7F then 0x20 ≤ c.toNat else inRuns printableRanges c

def numericEscape (n : Nat) : List Char :=
  if n < 0x100 then '\\' :: 'x' :: hexText 2 n
  else if n < 0x10000 then '\\' :: 'u' :: hexText 4 n
  else '\\' :: 'U' :: hexText 8 n

def literalChar (mark c : Char) : List Char :=
  if c = mark ∨ c = '\\' then ['\\', c]
  else if c = '\n' then ['\\', 'n']
  else if c = '\r' then ['\\', 'r']
  else if c = '\t' then ['\\', 't']
  else if isPrintable c then [c]
  else numericEscape c.toNat

def literalPoint (mark : Char) : Point → List Char
  | .char c => literalChar mark c
  | .half h => numericEscape h.code

def quoteMark (cs : List Char) : Char := if '\'' ∈ cs ∧ '"' ∉ cs then '"' else '\''

def literal (t : Text) : String :=
  let mark := quoteMark (t.points.filterMap Point.char?)
  String.ofList (mark :: (t.points.flatMap (literalPoint mark) ++ [mark]))

/-- A text with its halves escaped, as it is written where no text may be refused. -/
def escaped (t : Text) : String :=
  String.ofList <| t.points.flatMap fun
    | .char c => [c]
    | .half h => numericEscape h.code

def literalByte (mark : Char) (b : UInt8) : List Char :=
  if 0x7F ≤ b then '\\' :: 'x' :: hexText 2 b.toNat else literalChar mark (Char.ofNat b.toNat)

def bytesLiteral (data : List UInt8) : String :=
  let mark := quoteMark (data.map fun b => Char.ofNat b.toNat)
  String.ofList ('b' :: mark :: (data.flatMap (literalByte mark) ++ [mark]))

end Columnar.Text
