import Columnar.Text.Characters

/-! UTF-8, read strictly: no overlong form, no surrogate, nothing above U+10FFFF. A text that is
not UTF-8 is refused at the first sequence that cannot be completed, with the bytes of that
sequence that were still possible. -/
namespace Columnar.Text

inductive DecodeReason
  | invalidStart
  | invalidContinuation
  | unexpectedEnd
  | truncated
  | outOfRange
  deriving DecidableEq, Repr

/-- Bytes `position` up to `position + length - 1` of a text in the named encoding, the first of
them `byte`, are no character. -/
structure DecodeError where
  encoding : String
  byte : UInt8
  position : Nat
  length : Nat
  reason : DecodeReason
  deriving DecidableEq, Repr

def DecodeReason.text : DecodeReason → String
  | .invalidStart => "invalid start byte"
  | .invalidContinuation => "invalid continuation byte"
  | .unexpectedEnd => "unexpected end of data"
  | .truncated => "truncated data"
  | .outOfRange => "code point not in range(0x110000)"

def DecodeError.message (e : DecodeError) : String :=
  let what :=
    if e.length ≤ 1 then
      s!"byte 0x{String.ofList (hexText 2 e.byte.toNat)} in position {e.position}"
    else s!"bytes in position {e.position}-{e.position + e.length - 1}"
  s!"'{e.encoding}' codec can't decode {what}: {e.reason.text}"

namespace Utf8

/-- A character part way through: its first byte and where that stands, the bits so far, the bytes
read, the bytes owed, and the least and greatest byte that may come next. -/
structure Pending where
  first : UInt8
  start : Nat
  bits : Nat
  read : Nat
  owed : Nat
  low : UInt8
  high : UInt8

def Pending.error (p : Pending) (reason : DecodeReason) : DecodeError :=
  ⟨"utf-8", p.first, p.start, p.read, reason⟩

/-- What a first byte above 0x7F promises. The second byte is narrowed where a full range would
give an overlong form, a surrogate or a number past U+10FFFF. -/
def lead (b : UInt8) (pos : Nat) : Option Pending :=
  if b < 0xC2 then none
  else if b < 0xE0 then some ⟨b, pos, b.toNat - 0xC0, 1, 1, 0x80, 0xBF⟩
  else if b < 0xF0 then
    some ⟨b, pos, b.toNat - 0xE0, 1, 2, if b = 0xE0 then 0xA0 else 0x80,
      if b = 0xED then 0x9F else 0xBF⟩
  else if b < 0xF5 then
    some ⟨b, pos, b.toNat - 0xF0, 1, 3, if b = 0xF0 then 0x90 else 0x80,
      if b = 0xF4 then 0x8F else 0xBF⟩
  else none

def advance (pos : Nat) (b : UInt8) :
    Option Pending → Except DecodeError (Option Char × Option Pending)
  | none =>
    if b < 0x80 then .ok (some (Char.ofNat b.toNat), none)
    else match lead b pos with
      | some p => .ok (none, some p)
      | none => .error ⟨"utf-8", b, pos, 1, .invalidStart⟩
  | some p =>
    if b < p.low ∨ p.high < b then .error (p.error .invalidContinuation)
    else
      let bits := p.bits * 64 + (b.toNat - 0x80)
      if p.owed ≤ 1 then .ok (some (Char.ofNat bits), none)
      else .ok (none, some { p with
        bits, read := p.read + 1, owed := p.owed - 1, low := 0x80, high := 0xBF })

def decodePart (pos : Nat) (p : Option Pending) :
    List UInt8 → Except DecodeError (List Char × Option Pending)
  | [] => .ok ([], p)
  | b :: rest =>
    match advance pos b p with
    | .error e => .error e
    | .ok (c, p) => (decodePart (pos + 1) p rest).map fun (cs, p) => (c.toList ++ cs, p)

def decodeFrom (pos : Nat) (p : Option Pending) (bytes : List UInt8) :
    Except DecodeError (List Char) :=
  match decodePart pos p bytes with
  | .error e => .error e
  | .ok (_, some p) => .error (p.error .unexpectedEnd)
  | .ok (cs, none) => .ok cs

def decode (bytes : List UInt8) : Except DecodeError (List Char) := decodeFrom 0 none bytes

def encode (cs : List Char) : List UInt8 := cs.flatMap String.utf8EncodeChar

end Utf8
end Columnar.Text
