namespace Columnar.Json

inductive Cause
  | expectedValue
  | expectedName
  | expectedColon
  | expectedComma
  | extraData
  | unterminatedString
  | controlCharacter
  | badEscape
  | badUnicodeEscape
  | byteOrderMark
  deriving DecidableEq, Repr

def Cause.text : Cause → String
  | .expectedValue => "Expecting value"
  | .expectedName => "Expecting property name enclosed in double quotes"
  | .expectedColon => "Expecting ':' delimiter"
  | .expectedComma => "Expecting ',' delimiter"
  | .extraData => "Extra data"
  | .unterminatedString => "Unterminated string starting at"
  | .controlCharacter => "Invalid control character at"
  | .badEscape => "Invalid \\escape"
  | .badUnicodeEscape => "Invalid \\uXXXX escape"
  | .byteOrderMark => "Unexpected UTF-8 BOM (decode using utf-8-sig)"

inductive Error
  | malformed (cause : Cause) (position : Nat)
  | longInteger (digits : Nat)
  deriving DecidableEq, Repr

/-- Integers with more digits than this are neither read nor written. -/
def maxDigits : Nat := 4300

def longIntegerMessage (digits : Nat) : String :=
  s!"Exceeds the limit ({maxDigits} digits) for integer string conversion: value has {digits} " ++
    "digits; use sys.set_int_max_str_digits() to increase the limit"

/-- What is said of an integer that is too long to be written. Its digits are not counted. -/
def unwrittenMessage : String :=
  s!"Exceeds the limit ({maxDigits} digits) for integer string conversion; use " ++
    "sys.set_int_max_str_digits() to increase the limit"

def lineColumn (text : List Char) (position : Nat) : Nat × Nat :=
  let before := text.take position
  (before.count '\n' + 1, (before.reverse.takeWhile (· != '\n')).length + 1)

def Error.message (text : List Char) : Error → String
  | .malformed cause position =>
    let (line, column) := lineColumn text position
    s!"{cause.text}: line {line} column {column} (char {position})"
  | .longInteger digits => longIntegerMessage digits

end Columnar.Json
