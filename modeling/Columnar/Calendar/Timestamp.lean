import Columnar.Calendar
import Columnar.Text.Numeral

namespace Columnar.Calendar
open Text

inductive Timestamp
  | date (d : Date)
  | time (t : DateTime)
  deriving DecidableEq, Repr

def shortNat? (cs : List Char) : Option (Nat × List Char) :=
  match Numeral.digits? cs with
  | some (ds, rest) => if ds.length ≤ 2 then some (Numeral.natOf ds, rest) else none
  | none => none

def fixedNat? (n : Nat) (cs : List Char) : Option (Nat × List Char) :=
  let ds := cs.take n
  if ds.length = n ∧ ds.all Char.isDigit then some (Numeral.natOf ds, cs.drop n) else none

def after? (c : Char) : List Char → Option (List Char)
  | d :: cs => if d = c then some cs else none
  | [] => none

def isBlank (c : Char) : Bool := c == ' ' || c == '\t'

/-- An offset in microseconds: Z, or a sign, hours and optional minutes. Nothing else may follow. -/
def offset? : List Char → Option (Option Int)
  | [] => some none
  | ['Z'] => some (some 0)
  | sign :: cs =>
    if sign = '+' ∨ sign = '-' then
      match shortNat? cs with
      | some (h, rest) =>
        let seconds? : Option Nat := match rest with
          | [] => some (3600 * h)
          | ':' :: rest => match fixedNat? 2 rest with
            | some (m, []) => some (3600 * h + 60 * m)
            | _ => none
          | _ => none
        seconds?.map fun (s : Nat) =>
          let o : Int := s * microsecondsInSecond
          some (if sign = '-' then -o else o)
      | none => none
    else none

def microseconds (ds : List Char) : Nat :=
  let kept := ds.take 6
  Numeral.natOf (kept ++ List.replicate (6 - kept.length) '0')

def timeOfDay? (d : Date) (cs : List Char) : Option Timestamp := do
  let (hour, cs) ← shortNat? cs
  let (minute, cs) ← fixedNat? 2 (← after? ':' cs)
  let (second, cs) ← fixedNat? 2 (← after? ':' cs)
  let (fraction, cs) := match cs with
    | '.' :: rest => (rest.takeWhile Char.isDigit, rest.dropWhile Char.isDigit)
    | rest => ([], rest)
  let blanks := cs.takeWhile isBlank
  let zone := cs.dropWhile isBlank
  let offset ← offset? zone
  if zone.isEmpty ∧ ¬ blanks.isEmpty then none
  else some (.time ⟨d, hour, minute, second, microseconds fraction, offset⟩)

/-- Before a time one digit is enough for month and day. A date alone has two digits for each,
unless it is known to be one. -/
def Timestamp.ofChars? (strict : Bool) (cs : List Char) : Option Timestamp := do
  let (year, cs) ← fixedNat? 4 cs
  let cs ← after? '-' cs
  let (month, cs') ← shortNat? cs
  let cs' ← after? '-' cs'
  let (day, rest) ← shortNat? cs'
  let d : Date := ⟨year, month, day⟩
  match rest with
  | [] => if !strict || (cs.length == 5 && cs'.length == 2) then some (.date d) else none
  | c :: more =>
    if c = 'T' ∨ c = 't' then timeOfDay? d more
    else if isBlank c then timeOfDay? d (more.dropWhile isBlank)
    else none

end Columnar.Calendar
