/-! Binary floating point with a 53-bit significand, held exactly. The nonnegative finite numbers
are counted upwards from zero, so a rank is the number's place in that order and every term is
canonical. All arithmetic is on natural numbers and rounds once, a tie going to the even
significand. -/
namespace Columnar

inductive Binary64
  | nan
  | infinite (negative : Bool)
  | finite (negative : Bool) (rank : Nat) (bounded : rank < 2047 <<< 52)
  deriving DecidableEq

namespace Binary64

/-- The exponent of a rank, counted up from the subnormals. -/
def shift (rank : Nat) : Nat := (rank >>> 52) - 1

def significand (rank : Nat) : Nat :=
  if rank < 1 <<< 52 then rank else (1 <<< 52) + rank % (1 <<< 52)

/-- The magnitude of a rank as a multiple of the least positive number, 2 ^ -1074. -/
def units (rank : Nat) : Nat := significand rank <<< shift rank

/-- The quotient rounded to the nearest integer, a half to the even one. -/
def roundDiv (num den : Nat) : Nat :=
  let q := num / den
  let r := num % den
  if den < 2 * r ∨ (den = 2 * r ∧ q % 2 = 1) then q + 1 else q

/-- The rank nearest to a ratio. A significand that rounds up to 2 ^ 53 carries into the exponent
by itself, since ranks count across powers of two. -/
def nearestRank (num den : Nat) : Nat :=
  let scaled := num <<< 1074
  let s := Nat.log2 (scaled / den) - 52
  (s <<< 52) + roundDiv scaled (den <<< s)

def ofRank (negative : Bool) (rank : Nat) : Binary64 :=
  if h : rank < 2047 <<< 52 then .finite negative rank h else .infinite negative

def ofRatio (negative : Bool) (num den : Nat) : Binary64 :=
  ofRank negative (nearestRank num den)

/-- The number nearest to `digits * 10 ^ exponent`. Magnitudes that no finite number can be near,
or that lie below half the least positive one, are settled without taking the power. -/
def ofDecimal (negative : Bool) (digits : Nat) (exponent : Int) : Binary64 :=
  if digits = 0 then ofRank negative 0
  else if 400 < exponent then .infinite negative
  else if exponent + Nat.log2 digits < -400 then ofRank negative 0
  else if 0 ≤ exponent then ofRatio negative (digits * Nat.pow 10 exponent.toNat) 1
  else ofRatio negative digits (Nat.pow 10 (-exponent).toNat)

def ofInt (n : Int) : Binary64 := ofRatio (n < 0) n.natAbs 1

def signedUnits (negative : Bool) (rank : Nat) : Int :=
  if negative then -(units rank : Int) else units rank

def equal : Binary64 → Binary64 → Bool
  | .infinite a, .infinite b => a == b
  | .finite a m _, .finite b n _ => signedUnits a m == signedUnits b n
  | _, _ => false

def equalInt : Binary64 → Int → Bool
  | .finite a m _, n => signedUnits a m == n * (1 <<< 1074 : Nat)
  | _, _ => false

def isZero : Binary64 → Bool
  | .finite _ rank _ => rank == 0
  | _ => false

/-- The sum, rounded. An exact zero is negative only as the sum of two negative zeros. -/
def add : Binary64 → Binary64 → Binary64
  | .finite a m _, .finite b n _ =>
    let total := signedUnits a m + signedUnits b n
    ofRatio (total < 0 || (total == 0 && a && b)) total.natAbs (1 <<< 1074)
  | .infinite a, .infinite b => if a = b then .infinite a else .nan
  | .infinite a, .finite _ _ _ => .infinite a
  | .finite _ _ _, .infinite b => .infinite b
  | _, _ => .nan

def mul : Binary64 → Binary64 → Binary64
  | .finite a m _, .finite b n _ => ofRatio (a != b) (units m * units n) (1 <<< 2148)
  | .infinite a, .infinite b => .infinite (a != b)
  | .infinite a, .finite b n _ => if n = 0 then .nan else .infinite (a != b)
  | .finite a m _, .infinite b => if m = 0 then .nan else .infinite (a != b)
  | _, _ => .nan

def negate : Binary64 → Binary64
  | .nan => .nan
  | .infinite a => .infinite !a
  | .finite a m h => .finite (!a) m h

end Binary64
end Columnar
