import Columnar.Text.Characters
import Columnar.Text.Numeral
import Columnar.Unreadable

namespace Columnar.Text.Figures

/-- The zeros of the digits outside ASCII. Those of a script stand in a row, zero first (Unicode
15). -/
def digitZeros : List Nat := [
  0x660, 0x6f0, 0x7c0, 0x966, 0x9e6, 0xa66, 0xae6, 0xb66, 0xbe6, 0xc66, 0xce6, 0xd66, 0xde6, 0xe50,
  0xed0, 0xf20, 0x1040, 0x1090, 0x17e0, 0x1810, 0x1946, 0x19d0, 0x1a80, 0x1a90, 0x1b50, 0x1bb0,
  0x1c40, 0x1c50, 0xa620, 0xa8d0, 0xa900, 0xa9d0, 0xa9f0, 0xaa50, 0xabf0, 0xff10, 0x104a0, 0x10d30,
  0x11066, 0x110f0, 0x11136, 0x111d0, 0x112f0, 0x11450, 0x114d0, 0x11650, 0x116c0, 0x11730, 0x118e0,
  0x11950, 0x11c50, 0x11d50, 0x11da0, 0x11f50, 0x16a60, 0x16ac0, 0x16b50, 0x1d7ce, 0x1d7d8, 0x1d7e2,
  0x1d7ec, 0x1d7f6, 0x1e140, 0x1e2f0, 0x1e4f0, 0x1e950, 0x1fbf0]

/-- A digit of any script as that of ASCII and white space as a blank; other characters outside
ASCII are no part of a number. -/
def plainChar (c : Char) : Char :=
  let n := c.toNat
  if n < 0x80 then c
  else if isSpace c then ' '
  else match digitZeros.find? fun z => z ≤ n && n < z + 10 with
    | some z => Char.ofNat (48 + (n - z))
    | none => '?'

def plainPoint : Point → Char
  | .char c => plainChar c
  | .half _ => '?'

def isBlank (c : Char) : Bool := c == ' ' || (0x09 ≤ c.toNat && c.toNat ≤ 0x0D)

def trim (cs : List Char) : List Char :=
  ((cs.dropWhile isBlank).reverse.dropWhile isBlank).reverse

def signed (ps : List Point) : Bool × List Char :=
  match trim (ps.map plainPoint) with
  | '-' :: cs => (true, cs)
  | '+' :: cs => (false, cs)
  | cs => (false, cs)

def baseMark? : Nat → Option Char
  | 2 => some 'b'
  | 8 => some 'o'
  | 16 => some 'x'
  | _ => none

def withoutMark (base : Nat) : List Char → List Char
  | '0' :: c :: cs => if baseMark? base = some c.toLower then cs else '0' :: c :: cs
  | cs => cs

def isDigitIn (base : Nat) (c : Char) : Bool :=
  match hexValue? c with
  | some d => d < base
  | none => false

def valueIn (base : Nat) (ds : List Char) : Nat :=
  ds.foldl (fun n c => base * n + (hexValue? c).getD 0) 0

/-- An integer in base 2, 8, 10 or 16. The number of decimal digits is limited, and looked at before
what follows them. -/
def integer (base : Nat) (text : List Point) : Except Unreadable Int :=
  let (negative, cs) := signed text
  let cs := withoutMark base cs
  let ds := cs.takeWhile (isDigitIn base)
  if base = 10 ∧ Json.maxDigits < ds.length then .error (.longInteger ds.length)
  else if ds.isEmpty ∨ ds.length < cs.length then .error (.integer base (.ofPoints text))
  else
    let n := if base = 10 then Numeral.natOf ds else valueIn base ds
    .ok (if negative then -(n : Int) else n)

def decimal? (negative : Bool) (cs : List Char) : Option Binary64 :=
  let whole := cs.takeWhile Char.isDigit
  let (fraction, rest) := match cs.dropWhile Char.isDigit with
    | '.' :: cs => (cs.takeWhile Char.isDigit, cs.dropWhile Char.isDigit)
    | cs => ([], cs)
  let (exponent, rest) := Numeral.exponent? rest
  if rest.isEmpty ∧ ¬ (whole ++ fraction).isEmpty then
    some (⟨negative, whole, some fraction, exponent⟩ : Numeral).toBinary64
  else none

def float (text : List Point) : Except Unreadable Binary64 :=
  let (negative, cs) := signed text
  let name := String.ofList (cs.map Char.toLower)
  if name = "inf" ∨ name = "infinity" then .ok (.infinite negative)
  else if name = "nan" then .ok .nan
  else match decimal? negative cs with
    | some x => .ok x
    | none => .error (.float (.ofPoints text))

end Columnar.Text.Figures
