import Columnar.Binary64

namespace Columnar.Binary64

structure Decimal where
  digits : Nat
  exponent : Int
  deriving DecidableEq, Repr

namespace Decimal

def read (negative : Bool) (d : Decimal) : Binary64 := ofDecimal negative d.digits d.exponent

end Decimal

/-- The exact expansion of a rank: `units * 2 ^ -1074 = units * 5 ^ 1074 * 10 ^ -1074`. -/
def exactDecimal (rank : Nat) : Decimal := ⟨units rank * Nat.pow 5 1074, -1074⟩

def digitCount (n : Nat) : Nat := if n = 0 then 0 else (Nat.toDigits 10 n).length

/-- The neighbours of `d` among the decimals with `places` digits fewer, the nearer one first; of
two as near, the one with an even last digit. -/
def neighbours (d : Decimal) (places : Nat) : List Decimal :=
  let grid := Nat.pow 10 places
  let below : Decimal := ⟨d.digits / grid, d.exponent + places⟩
  let above : Decimal := ⟨d.digits / grid + 1, d.exponent + places⟩
  let twice := 2 * (d.digits % grid)
  if twice < grid ∨ twice = grid ∧ below.digits % 2 = 0 then [below, above] else [above, below]

def search (exact : Decimal) (width rank : Nat) (count : Nat) : Nat → Decimal
  | 0 => exact
  | tries + 1 =>
    match (neighbours exact (width - count)).find? fun d => d.read false == ofRank false rank with
    | some d => d
    | none => search exact width rank (count + 1) tries

/-- Seventeen digits always suffice; the search stops at the first count with a hit. -/
def shortest (rank : Nat) : Decimal :=
  let exact := exactDecimal rank
  search exact (digitCount exact.digits) rank 1 17

/-! Numbers as text: the shortest digits that read back, positional while the first digit stands
between 10 ^ -4 and 10 ^ 15 and with an exponent outside. A written number always shows that it is
not an integer. -/

/-- Exponents of the first digit that are written positionally. -/
structure Layout where
  least : Int
  bound : Int

def layout : Layout := ⟨-4, 16⟩

def scientific (d : Decimal) : List Char × Int :=
  let all := Nat.toDigits 10 d.digits
  let kept := (all.reverse.dropWhile (· == '0')).reverse
  if kept.isEmpty then (['0'], 0) else (kept, d.exponent + all.length - 1)

def exponentText (e : Int) : List Char :=
  let ds := Nat.toDigits 10 e.natAbs
  (if e < 0 then '-' else '+') :: (if ds.length < 2 then '0' :: ds else ds)

def place (ds : List Char) (e : Int) : List Char :=
  if layout.least ≤ e ∧ e < layout.bound then
    if e < 0 then '0' :: '.' :: (List.replicate (e.natAbs - 1) '0' ++ ds)
    else
      let whole := ds.take (e.toNat + 1)
      let rest := ds.drop (e.toNat + 1)
      whole ++ List.replicate (e.toNat + 1 - whole.length) '0' ++ '.' ::
        (if rest.isEmpty then ['0'] else rest)
  else
    ds.take 1 ++ (if ds.length ≤ 1 then [] else '.' :: ds.drop 1) ++ 'e' :: exponentText e

def magnitudeText (rank : Nat) : List Char :=
  let (ds, e) := scientific (shortest rank)
  place ds e

def toChars : Binary64 → List Char
  | .nan => ['n', 'a', 'n']
  | .infinite negative => if negative then ['-', 'i', 'n', 'f'] else ['i', 'n', 'f']
  | .finite negative rank _ => if negative then '-' :: magnitudeText rank else magnitudeText rank

def text (x : Binary64) : String := String.ofList x.toChars

end Columnar.Binary64
