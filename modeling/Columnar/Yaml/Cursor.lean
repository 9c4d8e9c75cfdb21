import Columnar.Text.Utf8
import Columnar.Unreadable

/-! A place in a YAML text, and why a reader stops there. A text can be handed on in parts, so what
is missing where it ends may come only from what follows. -/
namespace Columnar.Yaml

/-- `malformed` covers what YAML itself forbids; `undecodable` comes of bytes further on, which are
no text; else a scalar is not what it is announced as. -/
inductive Fault
  | malformed
  | undecodable (e : Text.DecodeError)
  | unreadable (u : Unreadable)
  deriving DecidableEq, Repr

def malformed {α : Type} : Except Fault α := .error .malformed

def Fault.ofUnreadable {α : Type} (r : Except Unreadable α) : Except Fault α :=
  r.mapError .unreadable

/-- A fault, and whether it is one only if the text has no more than was handed on. -/
structure Halt where
  fault : Fault
  atEnd : Bool
  deriving DecidableEq, Repr

def wrong {α : Type} : Except Halt α := .error ⟨.malformed, false⟩

def isBreak (c : Char) : Bool :=
  c == '\n' || c == '\r' || c == '\x85' || c == '\u2028' || c == '\u2029'

/-- What is left of the text, and how far in it starts. Lines and columns count from zero. -/
structure Cursor (text : List Char) where
  rest : List Char
  index : Nat
  line : Nat
  column : Nat
  inText : rest <:+ text

namespace Cursor
variable {text : List Char}

def start (text : List Char) : Cursor text := ⟨text, 0, 0, 0, List.suffix_rfl⟩

def peek? (c : Cursor text) : Option Char := c.rest.head?

/-- Over one character. A carriage return ends a line unless a line feed follows; a byte order mark
takes no column. -/
def next (c : Cursor text) : Cursor text :=
  let inText := (List.tail_suffix c.rest).trans c.inText
  match c.rest.head?, c.rest.tail.head? with
  | none, _ => c
  | some ch, after =>
    if isBreak ch && !(ch == '\r' && after == some '\n') then
      ⟨c.rest.tail, c.index + 1, c.line + 1, 0, inText⟩
    else
      ⟨c.rest.tail, c.index + 1, c.line, if ch == '\uFEFF' then c.column else c.column + 1, inText⟩

def skip : Nat → Cursor text → Cursor text
  | 0, c => c
  | n + 1, c => skip n c.next

def skipWhile (test : Char → Bool) (c : Cursor text) : Cursor text :=
  skip (c.rest.takeWhile test).length c

def skipBlanks (c : Cursor text) : Cursor text := c.skipWhile (· == ' ')

def lineBreak? (c : Cursor text) : Option (Char × Cursor text) :=
  match c.rest with
  | '\r' :: '\n' :: _ => some ('\n', skip 2 c)
  | ch :: _ =>
    if ch == '\n' || ch == '\r' || ch == '\x85' then some ('\n', c.next)
    else if isBreak ch then some (ch, c.next)
    else none
  | [] => none

def separates : Option Char → Bool
  | none => true
  | some c => c == ' ' || c == '\t' || isBreak c

def atLineEnd (c : Cursor text) : Bool :=
  match c.peek? with
  | none => true
  | some ch => isBreak ch

def atMark (c : Cursor text) (mark : Char) : Bool :=
  c.rest.take 3 == [mark, mark, mark] && separates (c.rest[3]?)

def atDocumentMark (c : Cursor text) : Bool := c.atMark '-' || c.atMark '.'

def skipComment (c : Cursor text) : Cursor text :=
  if c.peek? = some '#' then c.skipWhile (!isBreak ·) else c

/-- What stands here may not, or what should stand here is still to come. -/
def halt {α : Type} (c : Cursor text) : Except Halt α := .error ⟨.malformed, c.rest.isEmpty⟩

end Cursor
end Columnar.Yaml
