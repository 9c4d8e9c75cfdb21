import Columnar.Proofs.Encodings
import Columnar.Proofs.UnionText

namespace Columnar

namespace Json

theorem blank_ascii {c : Char} (blank : isBlank c = true) : c.toNat < 0x80 ∧ c.toNat ≠ 0 := by
  simp only [isBlank, Bool.or_eq_true, beq_iff_eq] at blank
  rcases blank with ((rfl | rfl) | rfl) | rfl <;> decide

def NonzeroHead (cs : List Char) : Prop := ∃ c rest, c.toNat ≠ 0 ∧ cs = c :: rest

theorem blank_head {gap cs : List Char} (blank : Blank gap) (next : NonzeroHead cs) :
    NonzeroHead (gap ++ cs) := by
  cases gap with
  | nil => exact next
  | cons c gap => exact ⟨c, gap ++ cs, (blank_ascii (List.forall_mem_cons.mp blank).1).2, rfl⟩

theorem body_head {body : List Char} {ns : List Nat} (inner : Body body ns) :
    NonzeroHead (body ++ ['"']) := by
  cases inner with
  | nil => exact ⟨'"', _, by decide, rfl⟩
  | raw _ _ visible _ => exact ⟨_, _, Nat.ne_of_gt (Nat.lt_of_lt_of_le (by decide) visible), rfl⟩
  | letter _ _ => exact ⟨'\\', _, by decide, rfl⟩
  | number _ _ _ _ _ => exact ⟨'\\', _, by decide, rfl⟩

theorem elements_head {cs : List Char} {ls : List (List Nat)} (items : Elements cs ls)
    (rest : List Char) : NonzeroHead (cs ++ rest) := by
  cases items with
  | last free literal _ =>
    obtain ⟨body, _, rfl⟩ := literal
    simp only [List.append_assoc]
    exact blank_head free ⟨'"', _, by decide, rfl⟩
  | more free literal _ _ =>
    obtain ⟨body, _, rfl⟩ := literal
    simp only [List.append_assoc]
    exact blank_head free ⟨'"', _, by decide, rfl⟩

theorem literals_open {cs : List Char} {ls : List (List Nat)} (form : Literals cs ls) :
    ∃ c rest, (c = '"' ∨ c = '[') ∧ cs = c :: rest ∧ NonzeroHead rest := by
  cases form with
  | single literal =>
    obtain ⟨body, inner, rfl⟩ := literal
    exact ⟨_, _, .inl rfl, rfl, body_head inner⟩
  | none blank => exact ⟨_, _, .inr rfl, rfl, blank_head blank ⟨']', _, by decide, rfl⟩⟩
  | array items => exact ⟨_, _, .inr rfl, rfl, elements_head items _⟩

theorem text_opens {cs : List Char} {ls : List (List Nat)} (text : LiteralsText cs ls) :
    ∃ c d rest, (c.toNat < 0x80 ∧ c.toNat ≠ 0) ∧ d.toNat ≠ 0 ∧ cs = c :: d :: rest := by
  obtain ⟨before, inner, behind, free, form, _, rfl⟩ := text
  obtain ⟨c, tail, opening, rfl, d, rest, next, rfl⟩ := literals_open form
  have ascii : c.toNat < 0x80 ∧ c.toNat ≠ 0 := by
    rcases opening with rfl | rfl <;> decide
  cases before with
  | nil => exact ⟨c, d, _, ascii, next, rfl⟩
  | cons b before =>
    obtain ⟨first, others⟩ := List.forall_mem_cons.mp free
    have inside : NonzeroHead (before ++ (c :: d :: rest ++ behind)) :=
      blank_head others ⟨c, _, ascii.2, rfl⟩
    obtain ⟨e, tail, second, same⟩ := inside
    exact ⟨b, e, tail, blank_ascii first, second, congrArg (b :: ·) same⟩

end Json

namespace TypeUnion
open Json Text

/-- A mark in front of a text is no JSON, so only bytes can differ from the text by one. -/
theorem ofJson_document {t : String} {u : TypeUnion} (read : ofJson t = .ok u) :
    ofDocument t.toList = .ok u := by
  unfold ofJson at read
  split at read
  · cases read
  · exact read

/-- A text that is read as a union is read as the same one from its bytes, in UTF-8, UTF-16 and
UTF-32, in either order and with a mark or without. -/
theorem ofJsonBytes_encode (t : String) (u : TypeUnion) (read : ofJson t = .ok u)
    (form : Encoding) : ofJsonBytes (Encoding.encode t.toList form) = .ok u := by
  obtain ⟨ls, text, _⟩ := read_literals.mp (ofJson_ok.mp read)
  obtain ⟨c, d, rest, ⟨ascii, first⟩, second, same⟩ := text_opens text
  have back : decodeBytes (Encoding.encode t.toList form) = .ok t.toList := by
    rw [same]
    exact decodeBytes_encode ascii first second rest form
  rw [ofJsonBytes, back]
  exact ofJson_document read

theorem ofJsonBytes_encode_pair :
    let u : TypeUnion := ⟨["é", "😀"]⟩
    ofJson "[\"é\",\"😀\"]" = .ok u ∧
      ofJsonBytes [0xFF, 0xFE, 0x5B, 0, 0x22, 0, 0xE9, 0, 0x22, 0, 0x2C, 0, 0x22, 0, 0x3D, 0xD8, 0x00,
        0xDE, 0x22, 0, 0x5D, 0] = .ok u := by
  have read : ofJson "[\"é\",\"😀\"]" = .ok ⟨["é", "😀"]⟩ := by decide +kernel
  exact ⟨read, ofJsonBytes_encode _ _ read (.utf16 .little true)⟩

end TypeUnion
end Columnar
