import Columnar.Text.Utf8

/-! Texts given as bytes in one of the Unicode encoding forms. The form is told from a byte order
mark, or from where the zero bytes of the first characters stand, which are taken to be ASCII. A
surrogate that stands alone is no character but is let through. -/
namespace Columnar.Text

/-- What a surrogate that stands alone is read as. -/
def replacement : Char := '\ufffd'

inductive ByteOrder
  | little
  | big
  deriving DecidableEq, Repr

inductive Encoding
  | utf8 (marked : Bool)
  | utf16 (order : ByteOrder) (marked : Bool)
  | utf32 (order : ByteOrder) (marked : Bool)
  deriving DecidableEq, Repr

namespace Encoding

/-- The form of a text without a mark. Four bytes tell the unit and its order; with two bytes only
the order of a 16-bit unit can be told. -/
def ofZeros : List UInt8 → Encoding
  | a :: b :: c :: d :: _ =>
    if a = 0 then (if b ≠ 0 then .utf16 .big false else .utf32 .big false)
    else if b = 0 then
      (if c ≠ 0 ∨ d ≠ 0 then .utf16 .little false else .utf32 .little false)
    else .utf8 false
  | [a, b] =>
    if a = 0 then .utf16 .big false
    else if b = 0 then .utf16 .little false
    else .utf8 false
  | _ => .utf8 false

/-- The 32-bit marks are tried first, since the little-endian one starts like a 16-bit one. -/
def detect : List UInt8 → Encoding
  | 0x00 :: 0x00 :: 0xFE :: 0xFF :: _ => .utf32 .big true
  | 0xFF :: 0xFE :: 0x00 :: 0x00 :: _ => .utf32 .little true
  | 0xFE :: 0xFF :: _ => .utf16 .big true
  | 0xFF :: 0xFE :: _ => .utf16 .little true
  | 0xEF :: 0xBB :: 0xBF :: _ => .utf8 true
  | bytes => ofZeros bytes

end Encoding

namespace Utf16

def name : ByteOrder → String
  | .little => "utf-16-le"
  | .big => "utf-16-be"

def unit : ByteOrder → UInt8 → UInt8 → Nat
  | .little, a, b => a.toNat + 256 * b.toNat
  | .big, a, b => 256 * a.toNat + b.toNat

def isHigh (u : Nat) : Bool := 0xD800 ≤ u && u < 0xDC00
def isLow (u : Nat) : Bool := 0xDC00 ≤ u && u < 0xE000

def joined (high low : Nat) : Nat := 0x10000 + (high - 0xD800) * 0x400 + (low - 0xDC00)

def join : List Nat → List Char
  | [] => []
  | [u] => [if isHigh u || isLow u then replacement else Char.ofNat u]
  | u :: v :: rest =>
    if isHigh u && isLow v then Char.ofNat (joined u v) :: join rest
    else (if isHigh u || isLow u then replacement else Char.ofNat u) :: join (v :: rest)

def units (order : ByteOrder) (pos : Nat) : List UInt8 → Except DecodeError (List Nat)
  | [] => .ok []
  | [a] => .error ⟨name order, a, pos, 1, .truncated⟩
  | a :: b :: rest => (units order (pos + 2) rest).map (unit order a b :: ·)

def decodeFrom (order : ByteOrder) (pos : Nat) (bytes : List UInt8) :
    Except DecodeError (List Char) :=
  (units order pos bytes).map join

def bytesOf : ByteOrder → Nat → List UInt8
  | .little, u => [UInt8.ofNat (u % 256), UInt8.ofNat (u / 256)]
  | .big, u => [UInt8.ofNat (u / 256), UInt8.ofNat (u % 256)]

def encodeChar (order : ByteOrder) (c : Char) : List UInt8 :=
  let n := c.toNat
  if n < 0x10000 then bytesOf order n
  else bytesOf order (0xD800 + (n - 0x10000) / 0x400) ++
    bytesOf order (0xDC00 + (n - 0x10000) % 0x400)

def encode (order : ByteOrder) (cs : List Char) : List UInt8 := cs.flatMap (encodeChar order)

end Utf16

namespace Utf32

def name : ByteOrder → String
  | .little => "utf-32-le"
  | .big => "utf-32-be"

def unit : ByteOrder → UInt8 → UInt8 → UInt8 → UInt8 → Nat
  | .little, a, b, c, d =>
    a.toNat + 256 * (b.toNat + 256 * (c.toNat + 256 * d.toNat))
  | .big, a, b, c, d =>
    d.toNat + 256 * (c.toNat + 256 * (b.toNat + 256 * a.toNat))

def decodeFrom (order : ByteOrder) (pos : Nat) : List UInt8 → Except DecodeError (List Char)
  | [] => .ok []
  | a :: b :: c :: d :: rest =>
    let u := unit order a b c d
    if 0x110000 ≤ u then .error ⟨name order, a, pos, 4, .outOfRange⟩
    else
      let c := if u.isValidChar then Char.ofNat u else replacement
      (decodeFrom order (pos + 4) rest).map (c :: ·)
  | a :: rest => .error ⟨name order, a, pos, 1 + rest.length, .truncated⟩

def encodeChar (order : ByteOrder) (c : Char) : List UInt8 :=
  let n := c.toNat
  let low := n % 0x10000
  let high := n / 0x10000
  match order with
  | .little => Utf16.bytesOf .little low ++ Utf16.bytesOf .little high
  | .big => Utf16.bytesOf .big high ++ Utf16.bytesOf .big low

def encode (order : ByteOrder) (cs : List Char) : List UInt8 := cs.flatMap (encodeChar order)

end Utf32

namespace Utf8

def replaceSurrogates : List UInt8 → List UInt8
  | a :: b :: c :: rest =>
    if a = 0xED ∧ 0xA0 ≤ b ∧ b ≤ 0xBF ∧ 0x80 ≤ c ∧ c ≤ 0xBF then
      String.utf8EncodeChar replacement ++ replaceSurrogates rest
    else a :: replaceSurrogates (b :: c :: rest)
  | bytes => bytes

end Utf8

namespace Encoding

/-- Decodes after the mark. Positions in a marked UTF-8 text count from behind the mark, in the
other forms from the first byte. -/
def decode (bytes : List UInt8) : Encoding → Except DecodeError (List Char)
  | .utf8 marked => Utf8.decode (Utf8.replaceSurrogates (bytes.drop (if marked then 3 else 0)))
  | .utf16 order marked =>
    let mark := if marked then 2 else 0
    Utf16.decodeFrom order mark (bytes.drop mark)
  | .utf32 order marked =>
    let mark := if marked then 4 else 0
    Utf32.decodeFrom order mark (bytes.drop mark)

def mark : Encoding → List UInt8
  | .utf8 marked => if marked then [0xEF, 0xBB, 0xBF] else []
  | .utf16 order marked =>
    if marked then Utf16.bytesOf order 0xFEFF else []
  | .utf32 order marked =>
    if marked then Utf32.encodeChar order (Char.ofNat 0xFEFF) else []

def encode (cs : List Char) (form : Encoding) : List UInt8 :=
  form.mark ++ match form with
    | .utf8 _ => Utf8.encode cs
    | .utf16 order _ => Utf16.encode order cs
    | .utf32 order _ => Utf32.encode order cs

end Encoding

def decodeBytes (bytes : List UInt8) : Except DecodeError (List Char) :=
  (Encoding.detect bytes).decode bytes

end Columnar.Text
