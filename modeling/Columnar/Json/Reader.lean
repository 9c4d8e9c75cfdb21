import Columnar.Json.Error
import Columnar.Text.Encoding
import Columnar.Text.Numeral
import Columnar.Value

/-! Reading JSON. Beside the standard grammar the names NaN, Infinity and -Infinity are numbers.
The reader works on what is left of the text and stops at the first defect, which is placed by how
much was left; a repeated name keeps its first place and takes its last value. -/
namespace Columnar.Json
open Text

/-- A defect, placed by the number of characters left at it. -/
inductive Stop
  | malformed (cause : Cause) (left : Nat)
  | longInteger (digits : Nat)
  deriving DecidableEq, Repr

abbrev Reading (α : Type) := Except Stop (α × List Char)

def stopAt {α : Type} (cause : Cause) (rest : List Char) : Except Stop α :=
  .error (.malformed cause rest.length)

def isBlank (c : Char) : Bool := c == ' ' || c == '\t' || c == '\n' || c == '\r'

def skipBlanks (cs : List Char) : List Char := cs.dropWhile isBlank

def escaped? : Char → Option Char
  | '"' => some '"'
  | '\\' => some '\\'
  | '/' => some '/'
  | 'b' => some '\x08'
  | 'f' => some '\x0c'
  | 'n' => some '\n'
  | 'r' => some '\r'
  | 't' => some '\t'
  | _ => none

/-- A string behind its opening quote, as code points; an escape can give half a surrogate pair.
`opening` is what was left at the opening quote. -/
def codePoints (opening : Nat) : List Char → Reading (List Nat)
  | [] => .error (.malformed .unterminatedString opening)
  | '"' :: rest => .ok ([], rest)
  | ['\\'] => .error (.malformed .unterminatedString opening)
  | '\\' :: 'u' :: a :: b :: c :: d :: e :: rest =>
    match hexNat? [a, b, c, d] with
    | some n => (codePoints opening (e :: rest)).map fun (ns, rest) => (n :: ns, rest)
    | none => stopAt .badUnicodeEscape ('u' :: a :: b :: c :: d :: e :: rest)
  | '\\' :: c :: rest =>
    if c = 'u' then stopAt .badUnicodeEscape (c :: rest)
    else match escaped? c with
      | some e => (codePoints opening rest).map fun (ns, rest) => (e.toNat :: ns, rest)
      | none => stopAt .badEscape ('\\' :: c :: rest)
  | c :: rest =>
    if c.toNat < 0x20 then stopAt .controlCharacter (c :: rest)
    else (codePoints opening rest).map fun (ns, rest) => (c.toNat :: ns, rest)

/-- The two halves of a pair give one character; a half on its own stays what it is. -/
def joinPairs : List Nat → List Point
  | [] => []
  | [n] => [.ofCode n]
  | m :: n :: ns =>
    if Utf16.isHigh m && Utf16.isLow n then .char (Char.ofNat (Utf16.joined m n)) :: joinPairs ns
    else .ofCode m :: joinPairs (n :: ns)

def string (opening : Nat) (cs : List Char) : Reading Text :=
  (codePoints opening cs).map fun (ns, rest) => (.ofPoints (joinPairs ns), rest)

def number (cs : List Char) : Reading Value :=
  match Numeral.scan cs with
  | none => stopAt .expectedValue cs
  | some (n, rest) =>
    if n.isInteger then
      if maxDigits < n.whole.length then .error (.longInteger n.whole.length)
      else .ok (.int n.toInt, rest)
    else .ok (.float n.toBinary64, rest)

mutual

/-- A value at the start of a text. Every call takes one from the fuel; twice the length of the
text and two more are always enough. -/
def value : Nat → List Char → Reading Value
  | 0, cs => stopAt .expectedValue cs
  | fuel + 1, cs =>
    match cs with
    | '"' :: rest => (string cs.length rest).map fun (s, rest) => (.str s, rest)
    | '{' :: rest =>
      match skipBlanks rest with
      | '}' :: rest => .ok (.object [], rest)
      | rest => (members fuel rest).map fun (es, rest) => (.object (Entries.ofList es), rest)
    | '[' :: rest =>
      match skipBlanks rest with
      | ']' :: rest => .ok (.list [], rest)
      | rest => (elements fuel rest).map fun (vs, rest) => (.list vs, rest)
    | 'n' :: 'u' :: 'l' :: 'l' :: rest => .ok (.null, rest)
    | 't' :: 'r' :: 'u' :: 'e' :: rest => .ok (.bool true, rest)
    | 'f' :: 'a' :: 'l' :: 's' :: 'e' :: rest => .ok (.bool false, rest)
    | 'N' :: 'a' :: 'N' :: rest => .ok (.float .nan, rest)
    | 'I' :: 'n' :: 'f' :: 'i' :: 'n' :: 'i' :: 't' :: 'y' :: rest =>
      .ok (.float (.infinite false), rest)
    | '-' :: 'I' :: 'n' :: 'f' :: 'i' :: 'n' :: 'i' :: 't' :: 'y' :: rest =>
      .ok (.float (.infinite true), rest)
    | cs => number cs

def elements : Nat → List Char → Reading (List Value)
  | 0, cs => stopAt .expectedValue cs
  | fuel + 1, cs =>
    match value fuel cs with
    | .error e => .error e
    | .ok (v, rest) =>
      match skipBlanks rest with
      | ']' :: rest => .ok ([v], rest)
      | ',' :: rest => (elements fuel (skipBlanks rest)).map fun (vs, rest) => (v :: vs, rest)
      | rest => stopAt .expectedComma rest

def members : Nat → List Char → Reading Entries
  | 0, cs => stopAt .expectedName cs
  | fuel + 1, cs =>
    match cs with
    | '"' :: rest =>
      match string cs.length rest with
      | .error e => .error e
      | .ok (name, rest) =>
        match skipBlanks rest with
        | ':' :: rest =>
          match value fuel (skipBlanks rest) with
          | .error e => .error e
          | .ok (v, rest) =>
            match skipBlanks rest with
            | '}' :: rest => .ok ([(.str name, v)], rest)
            | ',' :: rest =>
              (members fuel (skipBlanks rest)).map fun (es, rest) => ((.str name, v) :: es, rest)
            | rest => stopAt .expectedComma rest
        | rest => stopAt .expectedColon rest
    | cs => stopAt .expectedName cs

end

def document (text : List Char) : Except Stop Value :=
  match value (2 * text.length + 2) (skipBlanks text) with
  | .error e => .error e
  | .ok (v, rest) =>
    match skipBlanks rest with
    | [] => .ok v
    | rest => stopAt .extraData rest

def Stop.toError (length : Nat) : Stop → Error
  | .malformed cause left => .malformed cause (length - left)
  | .longInteger digits => .longInteger digits

/-- Reads a whole text. A byte order mark is not taken for blank space. -/
def read (text : List Char) : Except Error Value :=
  if text.head? = some '\uFEFF' then .error (.malformed .byteOrderMark 0)
  else (document text).mapError (Stop.toError text.length)

end Columnar.Json
