import Columnar.Yaml.Lexer

/-! The text of a file as it is handed on to a reader that asks for it part by part. Bytes are taken
in blocks, a block that is no text is lost as a whole, and characters are handed on in pieces, of
which the first two come together. -/
namespace Columnar.Source
open Text

def pieceLength : Nat := 4096

def blockLength : Nat := 8192

/-- How many characters have been handed on when the one at a place is asked for. -/
def pieceStart (place : Nat) : Nat :=
  if place < 2 * pieceLength then 0 else place / pieceLength * pieceLength

/-- How far the bytes of a file have been taken. A carriage return at the end of a block is held
back, since a line feed may follow. `ahead` characters are waiting to be handed on, and the last
block had so many bytes and characters. -/
structure Taken where
  pending : Option Utf8.Pending
  carriageReturn : Bool
  ahead : Nat
  lastBytes : Nat
  lastChars : Nat

namespace Taken

def nothing : Taken := ⟨none, false, 0, 0, 0⟩

/-- A block is as long as the last one lets expect that it must be for the rest of a piece. -/
def blockSize (t : Taken) : Nat :=
  max blockLength (t.lastBytes * (pieceLength - t.ahead) / t.lastChars)

/-- The characters that a block gives. Places in it count from what is part way through. -/
def take (t : Taken) (block : List UInt8) : Except DecodeError (List Char × Taken) :=
  let held := t.pending.map fun p => { p with start := 0 }
  (Utf8.decodePart ((held.map Utf8.Pending.read).getD 0) held block).map fun (cs, pending) =>
    let cs := if t.carriageReturn then '\r' :: cs else cs
    let carriageReturn := cs.getLast? == some '\r'
    let cs := unifyNewlines (if carriageReturn then cs.dropLast else cs)
    (cs, ⟨pending, carriageReturn, (t.ahead + cs.length) % pieceLength, block.length, cs.length⟩)

def close (t : Taken) : Except DecodeError (List Char) :=
  match t.pending with
  | some p => .error { p.error .unexpectedEnd with position := 0 }
  | none => .ok (if t.carriageReturn then ['\n'] else [])

end Taken

def blocks : Nat → Taken → List UInt8 → List Char × Option DecodeError
  | 0, _, _ => ([], none)
  | fuel + 1, t, bytes =>
    if bytes.isEmpty then
      match t.close with
      | .ok cs => (cs, none)
      | .error e => ([], some e)
    else match t.take (bytes.take t.blockSize) with
      | .error e => ([], some e)
      | .ok (cs, t') =>
        let (more, e) := blocks fuel t' (bytes.drop t.blockSize)
        (cs ++ more, e)

def isAllowed (c : Char) : Bool :=
  let n := c.toNat
  n == 0x09 || n == 0x0A || n == 0x0D || (0x20 ≤ n && n ≤ 0x7E) || n == 0x85 ||
    (0xA0 ≤ n && n ≤ 0xD7FF) || (0xE000 ≤ n && n ≤ 0xFFFD) || 0x10000 ≤ n

/-- The text in the bytes of a file. A piece that cannot be handed on as a whole is not handed
on. -/
def feed (data : List UInt8) : Yaml.Feed :=
  let (cs, e) := blocks (data.length + 1) .nothing data
  let text := if e.isSome then cs.take (pieceStart cs.length) else cs
  match text.findIdx? (!isAllowed ·) with
  | some place => ⟨text.take (pieceStart place), some .malformed⟩
  | none => ⟨text, e.map .undecodable⟩

end Columnar.Source
