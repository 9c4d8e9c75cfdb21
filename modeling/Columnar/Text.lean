import Columnar.Text.Characters

/-! Texts of documents. An escape by number can give half a surrogate pair, which is no character.
A text without such halves is a string; one with them is the strings between them. -/
namespace Columnar

/-- Half a surrogate pair on its own, by its distance from the first one. -/
structure Half where
  offset : Fin 0x800
  deriving DecidableEq, Repr

def Half.code (h : Half) : Nat := 0xD800 + h.offset

inductive Point
  | char (c : Char)
  | half (h : Half)
  deriving DecidableEq, Repr

namespace Point

def code : Point → Nat
  | .char c => c.toNat
  | .half h => h.code

def ofCode (n : Nat) : Point :=
  if h : 0xD800 ≤ n ∧ n < 0xE000 then .half ⟨n - 0xD800, by omega⟩ else .char (Char.ofNat n)

def char? : Point → Option Char
  | .char c => some c
  | .half _ => none

end Point

inductive Text
  | whole (s : String)
  | broken (front : String) (half : Half) (rest : Text)
  deriving DecidableEq, Repr

namespace Text

instance : Coe String Text := ⟨whole⟩

instance : Inhabited Text := ⟨whole ""⟩

def isWhole : Text → Bool
  | whole _ => true
  | broken _ _ _ => false

def string? : Text → Option String
  | whole s => some s
  | broken _ _ _ => none

def isEmpty : Text → Bool
  | whole s => s.isEmpty
  | broken _ _ _ => false

def points : Text → List Point
  | whole s => s.toList.map .char
  | broken s h t => s.toList.map .char ++ .half h :: t.points

/-- The text of points behind some characters, which are given back to front. -/
def ofPointsBehind (front : List Char) : List Point → Text
  | [] => whole (String.ofList front.reverse)
  | .char c :: ps => ofPointsBehind (c :: front) ps
  | .half h :: ps => broken (String.ofList front.reverse) h (ofPointsBehind [] ps)

def ofPoints (ps : List Point) : Text := ofPointsBehind [] ps

def codes (t : Text) : List Nat := t.points.map Point.code

def length (t : Text) : Nat := t.points.length

def behind (s : String) : Text → Text
  | whole t => whole (s ++ t)
  | broken t h u => broken (s ++ t) h u

def append : Text → Text → Text
  | whole s, t => t.behind s
  | broken s h u, t => broken s h (u.append t)

instance : Append Text := ⟨append⟩

def intercalate (separator : String) (ts : List Text) : Text :=
  ofPoints (List.intercalate (separator.toList.map .char) (ts.map points))

end Text
end Columnar
