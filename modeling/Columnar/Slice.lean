namespace Columnar

/-- Why an index names no place: it lies outside the sequence, or no sequence can be so long. -/
inductive IndexError
  | outside
  | tooLarge
  deriving DecidableEq, Repr

def isWord (i : Int) : Bool := -0x8000000000000000 ≤ i && i < 0x8000000000000000

/-- The place that an index names, a negative one counting from the end. -/
def place (length : Nat) (i : Int) : Except IndexError Nat :=
  let j := if i < 0 then i + length else i
  if !isWord i then .error .tooLarge
  else if 0 ≤ j ∧ j < length then .ok j.toNat
  else .error .outside

def pick {α : Type} (xs : List α) (i : Int) : Except IndexError α :=
  (place xs.length i).bind fun k => xs[k]?.elim (.error .outside) .ok

def clip (length : Nat) (low high bound : Int) : Int :=
  let b := if bound < 0 then bound + length else bound
  if b < low then low else if high < b then high else b

structure Slice where
  start : Option Int
  stop : Option Int
  step : Int
  deriving DecidableEq, Repr

namespace Slice

/-- The first place taken. An omitted bound is the end that the step walks away from. -/
def first (s : Slice) (length : Nat) : Int :=
  if 0 < s.step then (s.start.map (clip length 0 length)).getD 0
  else (s.start.map (clip length (-1) (length - 1))).getD (length - 1)

def last (s : Slice) (length : Nat) : Int :=
  if 0 < s.step then (s.stop.map (clip length 0 length)).getD length
  else (s.stop.map (clip length (-1) (length - 1))).getD (-1)

def count (s : Slice) (length : Nat) : Nat :=
  let span := if 0 < s.step then s.last length - s.first length else s.first length - s.last length
  if span ≤ 0 then 0 else ((span - 1) / s.step.natAbs + 1).toNat

def places (s : Slice) (length : Nat) : List Nat :=
  (List.range (s.count length)).map fun k : Nat => (s.first length + k * s.step).toNat

/-- The picked elements; a step of zero picks nothing and is refused. -/
def pick? {α : Type} (s : Slice) (xs : List α) : Option (List α) :=
  if s.step = 0 then none else some ((s.places xs.length).filterMap fun i => xs[i]?)

end Slice

/-- The least place from `start` on and before `stop` where the test holds. A negative bound counts
from the end; one that still is negative then stands before the first place. -/
def findPlace? {α : Type} (test : α → Bool) (xs : List α) (start : Int) (stop : Option Int) :
    Option Nat :=
  let fromEnd (b : Int) := if b < 0 then b + xs.length else b
  let low := (fromEnd start).toNat
  let high := (stop.map fun b => (fromEnd b).toNat).getD xs.length
  ((((xs.take high).drop low).findIdx? test).map (low + ·))

end Columnar
