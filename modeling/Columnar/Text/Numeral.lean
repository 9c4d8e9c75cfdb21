import Columnar.Binary64

namespace Columnar.Text

/-- A decimal numeral with its digits as written. A missing fraction or exponent is `none`. -/
structure Numeral where
  negative : Bool
  whole : List Char
  fraction : Option (List Char)
  exponent : Option Int
  deriving DecidableEq

namespace Numeral

def natOf (ds : List Char) : Nat := Nat.ofDigitChars 10 ds 0

def isInteger (n : Numeral) : Bool := n.fraction.isNone && n.exponent.isNone

def toInt (n : Numeral) : Int := if n.negative then -(natOf n.whole : Int) else natOf n.whole

def toBinary64 (n : Numeral) : Binary64 :=
  let fraction := n.fraction.getD []
  .ofDecimal n.negative (natOf (n.whole ++ fraction)) (n.exponent.getD 0 - fraction.length)

def digits? (cs : List Char) : Option (List Char × List Char) :=
  let ds := cs.takeWhile Char.isDigit
  if ds.isEmpty then none else some (ds, cs.dropWhile Char.isDigit)

/-- A fraction, if one follows: a point counts only before a digit. -/
def fraction? : List Char → Option (List Char) × List Char
  | '.' :: cs => match digits? cs with
    | some (ds, rest) => (some ds, rest)
    | none => (none, '.' :: cs)
  | cs => (none, cs)

def signedDigits? : List Char → Option (Int × List Char)
  | '-' :: cs => (digits? cs).map fun (ds, rest) => (-(natOf ds : Int), rest)
  | '+' :: cs => (digits? cs).map fun (ds, rest) => ((natOf ds : Int), rest)
  | cs => (digits? cs).map fun (ds, rest) => ((natOf ds : Int), rest)

def exponent? (cs : List Char) : Option Int × List Char :=
  match cs with
  | [] => (none, [])
  | c :: rest =>
    if c = 'e' ∨ c = 'E' then
      match signedDigits? rest with
      | some (e, rest) => (some e, rest)
      | none => (none, cs)
    else (none, cs)

def whole? : List Char → Option (List Char × List Char)
  | '0' :: cs => some (['0'], cs)
  | cs => digits? cs

def magnitude? (negative : Bool) (cs : List Char) : Option (Numeral × List Char) :=
  (whole? cs).map fun (ds, rest) =>
    let (fraction, rest) := fraction? rest
    let (exponent, rest) := exponent? rest
    (⟨negative, ds, fraction, exponent⟩, rest)

def scan : List Char → Option (Numeral × List Char)
  | '-' :: cs => magnitude? true cs
  | cs => magnitude? false cs

end Numeral
end Columnar.Text
