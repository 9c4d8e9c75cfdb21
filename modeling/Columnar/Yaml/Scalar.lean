import Columnar.Calendar.Timestamp
import Columnar.Text.Case
import Columnar.Text.Figures
import Columnar.Value
import Columnar.Yaml.Cursor

/-! What scalars stand for, by the rules of YAML 1.1: truth values and null by name, integers in
four bases and in base 60, numbers with a point, dates and times; all else is text. A text is first
taken for something by its form and then read as that; a tag can ask for another reading, which is
more lenient than the form and can fail. -/
namespace Columnar

namespace Text.Base64

def digit? (c : Char) : Option Nat :=
  if 'A' ≤ c ∧ c ≤ 'Z' then some (c.toNat - 65)
  else if 'a' ≤ c ∧ c ≤ 'z' then some (c.toNat - 71)
  else if '0' ≤ c ∧ c ≤ '9' then some (c.toNat + 4)
  else if c = '+' then some 62
  else if c = '/' then some 63
  else none

def bytesOf : List Nat → List UInt8
  | [a, b] => [UInt8.ofNat (4 * a + b / 16)]
  | [a, b, c] => [UInt8.ofNat (4 * a + b / 16), UInt8.ofNat (16 * (b % 16) + c / 4)]
  | [a, b, c, d] =>
    [UInt8.ofNat (4 * a + b / 16), UInt8.ofNat (16 * (b % 16) + c / 4),
      UInt8.ofNat (64 * (c % 4) + d)]
  | _ => []

/-- `group` holds the digits of the current group, `padding` the marks behind them that stand for
digits left out. A group filled up by padding ends the text; the end elsewhere in one is refused. -/
def decodeFrom (group : List Nat) (padding : Nat) : List Char → Option (List UInt8)
  | [] => if group.isEmpty then some [] else none
  | c :: cs =>
    if c = '=' then
      if group.length < 2 then decodeFrom group padding cs
      else if 4 ≤ group.length + padding + 1 then some (bytesOf group)
      else decodeFrom group (padding + 1) cs
    else match digit? c with
      | none => decodeFrom group padding cs
      | some d =>
        if group.length = 3 then (decodeFrom [] 0 cs).map (bytesOf (group ++ [d]) ++ ·)
        else decodeFrom (group ++ [d]) 0 cs

def decode (cs : List Char) : Option (List UInt8) := decodeFrom [] 0 cs

end Text.Base64

namespace Yaml
open Text

inductive Kind
  | null
  | bool
  | int
  | float
  | timestamp
  | binary
  | merge
  | default
  | mark
  | str
  deriving DecidableEq, Repr

def spellings (w : String) : List String :=
  match w.toList with
  | [] => [w]
  | c :: cs => [w, String.ofList (c.toUpper :: cs), String.ofList ((c :: cs).map Char.toUpper)]

def truths : List String := ["yes", "true", "on"].flatMap spellings
def falsehoods : List String := ["no", "false", "off"].flatMap spellings
def nulls : List String := ["", "~"] ++ spellings "null"

/-- What marks a node stands for itself in no document. -/
def nodeMarks : List String := ["!", "&", "*"]

def unsigned : List Char → List Char
  | '+' :: cs => cs
  | '-' :: cs => cs
  | cs => cs

def isDigitOr (extra : Char → Bool) (c : Char) : Bool := c.isDigit || extra c

def isGap (c : Char) : Bool := c == '_'

def isDigits : List Char → Bool
  | c :: cs => c.isDigit && cs.all (isDigitOr isGap)
  | [] => false

def colonParts (cs : List Char) : List (List Char) := cs.splitOn ':'

/-- A part in base 60: one digit, or two of which the first is at most five. -/
def isSexagesimal : List Char → Bool
  | [a] => a.isDigit
  | [a, b] => '0' ≤ a && a ≤ '5' && b.isDigit
  | _ => false

def isNatural : List Char → Bool
  | '0' :: 'b' :: cs => !cs.isEmpty && cs.all fun c => c == '0' || c == '1' || isGap c
  | '0' :: 'x' :: cs => !cs.isEmpty && cs.all fun c => (hexValue? c).isSome || isGap c
  | ['0'] => true
  | '0' :: cs => cs.all fun c => ('0' ≤ c && c ≤ '7') || isGap c
  | cs => isDigits cs || match colonParts cs with
    | first :: more => isDigits first && !more.isEmpty && more.all isSexagesimal
    | [] => false

def isInt (cs : List Char) : Bool := isNatural (unsigned cs)

def isExponent : List Char → Bool
  | [] => true
  | e :: sign :: ds =>
    (e == 'e' || e == 'E') && (sign == '+' || sign == '-') && !ds.isEmpty && ds.all Char.isDigit
  | _ => false

def isFraction (cs : List Char) : Bool := isExponent (cs.dropWhile (isDigitOr isGap))

def beforePoint (cs : List Char) : List Char := cs.takeWhile (· != '.')
def behindPoint (cs : List Char) : List Char := (cs.dropWhile (· != '.')).drop 1

/-- A number with a point before its fraction; with a sign there must be digits before the point. -/
def isPointed (cs : List Char) : Bool :=
  cs.contains '.' &&
    let before := beforePoint (unsigned cs)
    let behind := behindPoint cs
    (isDigits before && isFraction behind) ||
      (cs.head? == some '.' && (behind.head?.map Char.isDigit).getD false && isFraction behind) ||
      (match colonParts before with
        | first :: more => isDigits first && !more.isEmpty && more.all isSexagesimal &&
            behind.all (isDigitOr isGap)
        | [] => false)

def withoutLastBreak (cs : List Char) : List Char :=
  if cs.getLast? = some '\n' then cs.dropLast else cs

def infinities : List (List Char) := ["inf", "Inf", "INF"].map fun s => '.' :: s.toList
def nans : List (List Char) := ["nan", "NaN", "NAN"].map fun s => '.' :: s.toList

def isFloat (cs : List Char) : Bool :=
  isPointed cs || infinities.contains (unsigned cs) || nans.contains cs

/-- What a string is taken for by its form. A line end behind it does not matter, but it is not
null for having nothing else. -/
def kindOfString (s : String) : Kind :=
  let cs := withoutLastBreak s.toList
  let word := String.ofList cs
  if word ∈ truths ∨ word ∈ falsehoods then .bool
  else if word ∈ nulls then (if word = s ∨ word ≠ "" then .null else .str)
  else if word = "<<" then .merge
  else if word = "=" then .default
  else if word ∈ nodeMarks then .mark
  else if isFloat cs then .float
  else if isInt cs then .int
  else if (Calendar.Timestamp.ofChars? true cs).isSome then .timestamp
  else .str

def kindOf : Text → Kind
  | .whole s => kindOfString s
  | .broken _ _ _ => .str

def withoutGaps (ps : List Point) : List Point := ps.filter (· ≠ .char '_')

def isNegative (ps : List Point) : Bool := ps.head? == some (.char '-')

def magnitude : List Point → List Point
  | .char '+' :: ps => ps
  | .char '-' :: ps => ps
  | ps => ps

/-- A text in lower case. No character changes with half a surrogate pair beside it. -/
def lowered : Text → Text
  | .whole s => lower s
  | .broken s h t => .broken (lower s) h (lowered t)

def truthOf (text : Text) : Except Unreadable Bool :=
  let word := lowered text
  if word ∈ ["yes", "true", "on"].map Text.whole then .ok true
  else if word ∈ ["no", "false", "off"].map Text.whole then .ok false
  else .error (.truth word)

def sexagesimal (parts : List (List Point)) : Except Unreadable Int :=
  (parts.mapM (Figures.integer 10)).map fun ns => ns.foldl (fun n part => 60 * n + part) 0

/-- A number without a sign of its own. A zero in front means base 8. -/
def magnitudeOf : List Point → Except Unreadable Int
  | [] => .error .noNumber
  | [.char '0'] => .ok 0
  | .char '0' :: .char 'b' :: ds => Figures.integer 2 ds
  | .char '0' :: .char 'x' :: ds => Figures.integer 16 ds
  | .char '0' :: ds => Figures.integer 8 (.char '0' :: ds)
  | ds =>
    if .char ':' ∈ ds then sexagesimal (ds.splitOn (.char ':')) else Figures.integer 10 ds

def intOf (text : Text) : Except Unreadable Int :=
  let ps := withoutGaps text.points
  (magnitudeOf (magnitude ps)).map fun n => if isNegative ps then -n else n

def sexagesimalFloat (parts : List (List Point)) : Except Unreadable Binary64 := do
  let xs ← parts.mapM Figures.float
  let step (acc : Binary64 × Nat) (x : Binary64) : Except Unreadable (Binary64 × Nat) :=
    match Binary64.ofInt acc.2 with
    | .infinite _ => .error .longFactor
    | factor => .ok (acc.1.add (x.mul factor), acc.2 * 60)
  (xs.reverse.foldlM step (.ofInt 0, 1)).map Prod.fst

def floatOf (text : Text) : Except Unreadable Binary64 :=
  let ps := (lowered (.ofPoints (withoutGaps text.points))).points
  let number := magnitude ps
  let signed (x : Binary64) : Binary64 := if isNegative ps then x.negate else x
  if ps.isEmpty then .error .noNumber
  else if number = Text.points ".inf" then .ok (signed (.infinite false))
  else if number = Text.points ".nan" then .ok .nan
  else if .char ':' ∈ number then (sexagesimalFloat (number.splitOn (.char ':'))).map signed
  else (Figures.float number).map signed

def timestampOf (text : Text) : Except Unreadable Value :=
  match text.string?.bind fun s => Calendar.Timestamp.ofChars? false (withoutLastBreak s.toList) with
  | none => .error .noDate
  | some (.date d) => (d.check.map Value.date).mapError .date
  | some (.time t) => (t.check.map Value.datetime).mapError .date

def isAscii (s : String) : Bool := s.toList.all (·.toNat < 0x80)

def bytesOf (text : Text) : Except Fault Value :=
  match (text.string?.filter isAscii).bind fun s => Base64.decode s.toList with
  | some data => .ok (.bytes data)
  | none => malformed

/-- A text read as something. The marks of merging and of nodes are no values. -/
def valueAs (kind : Kind) (text : Text) : Except Fault Value :=
  match kind with
  | .null => .ok .null
  | .bool => Fault.ofUnreadable ((truthOf text).map .bool)
  | .int => Fault.ofUnreadable ((intOf text).map .int)
  | .float => Fault.ofUnreadable ((floatOf text).map .float)
  | .timestamp => Fault.ofUnreadable (timestampOf text)
  | .binary => bytesOf text
  | .merge => malformed
  | .default => malformed
  | .mark => malformed
  | .str => .ok (.str text)

def plainValue (text : Text) : Except Fault Value := valueAs (kindOf text) text

end Yaml
end Columnar
