import Columnar.Binary64.Text
import Columnar.Text.Encoding
import Columnar.Value

/-! Writing JSON on one line and over several. A string shows every character as it is except the
quote, the backslash and the control characters below U+0020; the other spelling escapes all that
is not printable ASCII as well, in units of 16 bits. Half a surrogate pair can only be escaped, so
where texts are not to be escaped a value that holds one has no spelling; that is for the caller to
see (`Value.holdsHalf`). -/
namespace Columnar.Json
open Text

/-- The escapes that both spellings share; `none` for a character written as it is. -/
def escape? (c : Char) : Option (List Char) :=
  if c = '"' then some ['\\', '"']
  else if c = '\\' then some ['\\', '\\']
  else if c = '\n' then some ['\\', 'n']
  else if c = '\r' then some ['\\', 'r']
  else if c = '\t' then some ['\\', 't']
  else if c = '\x08' then some ['\\', 'b']
  else if c = '\x0c' then some ['\\', 'f']
  else if c.toNat < 0x20 then some ('\\' :: 'u' :: hexText 4 c.toNat)
  else none

def rawChar (c : Char) : List Char := (escape? c).getD [c]

def unitEscape (n : Nat) : List Char := '\\' :: 'u' :: hexText 4 n

def asciiChar (c : Char) : List Char :=
  match escape? c with
  | some e => e
  | none =>
    let n := c.toNat
    if n < 0x7F then [c]
    else if n < 0x10000 then unitEscape n
    else unitEscape (0xD800 + (n - 0x10000) / 0x400) ++ unitEscape (0xDC00 + (n - 0x10000) % 0x400)

def spellPoint (spell : Char → List Char) : Point → List Char
  | .char c => spell c
  | .half h => unitEscape h.code

def quoteWith (spell : Char → List Char) (t : Text) : List Char :=
  '"' :: (t.points.flatMap (spellPoint spell) ++ ['"'])

def quote (t : Text) : List Char := quoteWith rawChar t
def quoteAscii (t : Text) : List Char := quoteWith asciiChar t

def intText (n : Int) : List Char :=
  if n < 0 then '-' :: Nat.toDigits 10 n.natAbs else Nat.toDigits 10 n.natAbs

structure Names where
  null : String
  nan : String
  infinity : String
  negativeInfinity : String

def Names.same (name : String) : Names := ⟨name, name, name, name⟩

def Names.distinct : Names := ⟨"null", "NaN", "Infinity", "-Infinity"⟩

structure Style where
  string : Text → List Char
  values : Names
  keys : Names
  comma : List Char
  colon : List Char

/-- No blanks; what is not a finite number has no spelling and becomes null. -/
def compact : Style := ⟨quote, .same "null", .same "None", [','], [':']⟩

def spaced : Style := ⟨quoteAscii, .distinct, .distinct, [',', ' '], [':', ' ']⟩

def boolText (b : Bool) : List Char := if b then "true".toList else "false".toList

def floatText (names : Names) : Binary64 → List Char
  | .nan => names.nan.toList
  | .infinite negative => (if negative then names.negativeInfinity else names.infinity).toList
  | x => x.toChars

def keyName (style : Style) : Value → Text
  | .str t => t
  | .null => style.keys.null
  | .bool b => String.ofList (boolText b)
  | .int n => String.ofList (intText n)
  | .float x => String.ofList (floatText style.keys x)
  | _ => ""

/-- Bytes as the text that they encode; those that are no text stand for a character each. -/
def bytesText (data : List UInt8) : List Char :=
  match Utf8.decode data with
  | .ok cs => cs
  | .error _ => data.map fun b => Char.ofNat b.toNat

def scalarText (style : Style) : Value → List Char
  | .null => style.values.null.toList
  | .bool b => boolText b
  | .int n => intText n
  | .float x => floatText style.values x
  | .str t => style.string t
  | .date d => style.string d.iso
  | .datetime t => style.string t.iso
  | .bytes data => style.string (String.ofList (bytesText data))
  | _ => []

mutual

def write (style : Style) : Value → List Char
  | .list xs => '[' :: (writeItems style xs ++ [']'])
  | .tuple xs => '[' :: (writeItems style xs ++ [']'])
  | .set xs => '[' :: (writeItems style xs ++ [']'])
  | .object es => '{' :: (writeEntries style es ++ ['}'])
  | v => scalarText style v

def writeItems (style : Style) : List Value → List Char
  | [] => []
  | [x] => write style x
  | x :: y :: xs => write style x ++ style.comma ++ writeItems style (y :: xs)

def writeEntries (style : Style) : List (Value × Value) → List Char
  | [] => []
  | [(k, v)] => style.string (keyName style k) ++ style.colon ++ write style v
  | (k, v) :: e :: es =>
    style.string (keyName style k) ++ style.colon ++ write style v ++ style.comma ++
      writeEntries style (e :: es)

end

def indentedStyle : Style := { spaced with string := quote }

def newLine (depth : Nat) : List Char := '\n' :: List.replicate (2 * depth) ' '

mutual

/-- One element or entry a line; an empty array or object stays on its line. -/
def indented (depth : Nat) : Value → List Char
  | .list xs => indentedArray depth xs
  | .tuple xs => indentedArray depth xs
  | .set xs => indentedArray depth xs
  | .object [] => ['{', '}']
  | .object (e :: es) => '{' :: (indentedEntries (depth + 1) (e :: es) ++ newLine depth ++ ['}'])
  | v => scalarText indentedStyle v

def indentedArray (depth : Nat) : List Value → List Char
  | [] => ['[', ']']
  | x :: xs => '[' :: (indentedItems (depth + 1) (x :: xs) ++ newLine depth ++ [']'])

def indentedItems (depth : Nat) : List Value → List Char
  | [] => []
  | [x] => newLine depth ++ indented depth x
  | x :: y :: xs => newLine depth ++ indented depth x ++ ',' :: indentedItems depth (y :: xs)

def indentedEntries (depth : Nat) : List (Value × Value) → List Char
  | [] => []
  | [(k, v)] => newLine depth ++ quote (keyName indentedStyle k) ++ ':' :: ' ' :: indented depth v
  | (k, v) :: e :: es =>
    newLine depth ++ quote (keyName indentedStyle k) ++ ':' :: ' ' :: indented depth v ++
      ',' :: indentedEntries depth (e :: es)

end

def toText (style : Style) (v : Value) : String := String.ofList (write style v)

end Columnar.Json
