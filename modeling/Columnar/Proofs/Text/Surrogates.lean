import Columnar.Proofs.Text.Utf8
import Columnar.Text.Encoding

/-! UTF-8 with halves of surrogate pairs let through. A half takes three bytes, as the replacement
does that is read for it; all other bytes stay where they are, so what is read is the numbers that
the bytes are the bytes of, each half among them replaced. -/
namespace Columnar.Text

/-- The character that is read for a number: for half of a surrogate pair the replacement. -/
def scalar (n : Nat) : Char := if n.isValidChar then Char.ofNat n else replacement

theorem scalar_toNat (c : Char) : scalar c.toNat = c := by
  have valid : c.toNat.isValidChar := c.valid
  rw [scalar, if_pos valid, Char.ofNat_toNat]

namespace Utf8

def Half (b c : UInt8) : Prop := 0xA0 ≤ b ∧ b ≤ 0xBF ∧ 0x80 ≤ c ∧ c ≤ 0xBF

theorem replace_half {b c : UInt8} (half : Half b c) (rest : List UInt8) :
    replaceSurrogates (0xED :: b :: c :: rest) =
      String.utf8EncodeChar replacement ++ replaceSurrogates rest := by
  rw [replaceSurrogates, if_pos ⟨rfl, half⟩]

theorem replace_other {a : UInt8} {rest : List UInt8}
    (other : ∀ b c tail, a = 0xED → rest = b :: c :: tail → ¬ Half b c) :
    replaceSurrogates (a :: rest) = a :: replaceSurrogates rest := by
  match rest with
  | [] | [_] => simp [replaceSurrogates]
  | b :: c :: tail =>
    rw [replaceSurrogates, if_neg fun half => other b c tail half.1 rfl half.2]

theorem half_bytes {n : Nat} (low : 0xD800 ≤ n) (high : n < 0xE000) :
    ∃ b c, Half b c ∧ bytesOf n = [0xED, b, c] := by
  refine ⟨.ofNat (n / 64 % 64 + 128), .ofNat (n % 64 + 128), ?_, ?_⟩
  · simp only [Half, UInt8.le_iff_toNat_le, UInt8.reduceToNat]
    rw [toNat_byte (by omega), toNat_byte (by omega)]
    omega
  · rw [bytesOf, if_neg (by omega), if_neg (by omega), if_pos (by omega),
      show n / 4096 % 16 = 13 by omega]
    rfl

theorem bytes_half {b c : UInt8} (half : Half b c) :
    ∃ n, 0xD800 ≤ n ∧ n < 0xE000 ∧ bytesOf n = [0xED, b, c] := by
  simp only [Half, UInt8.le_iff_toNat_le, UInt8.reduceToNat] at half
  have second : UInt8.ofNat (b.toNat - 128 + 128) = b := by
    rw [Nat.sub_add_cancel (by omega), UInt8.ofNat_toNat]
  have third : UInt8.ofNat (c.toNat - 128 + 128) = c := by
    rw [Nat.sub_add_cancel (by omega), UInt8.ofNat_toNat]
  refine ⟨(13 * 64 + (b.toNat - 128)) * 64 + (c.toNat - 128), by omega, by omega, ?_⟩
  rw [bytesOf_three (by omega) (by omega) (by omega) (by omega), second, third]
  rfl

theorem byte_value {n : Nat} {b : UInt8} (bound : n < 256) (same : UInt8.ofNat n = b) :
    n = b.toNat := by
  rw [← same, toNat_byte bound]

/-- The bytes of a character are kept: behind its first byte stand only bytes that go on, and behind
0xED none that would make half of a surrogate pair. -/
theorem valid_bytes {n : Nat} (valid : n.isValidChar) : ∃ a tail, bytesOf n = a :: tail ∧
    (∀ x ∈ tail, x.toNat < 0xC0) ∧ (a = 0xED → ∃ b c, tail = [b, c] ∧ b < 0xA0) := by
  have small : ∀ m, (UInt8.ofNat (m % 64 + 128)).toNat < 0xC0 := fun m => by
    rw [toNat_byte (by omega)]
    omega
  unfold Nat.isValidChar at valid
  unfold bytesOf
  split_ifs with one two three
  · refine ⟨_, _, rfl, nofun, fun same => ?_⟩
    have lead : _ = 0xED := byte_value (by omega) same
    omega
  · refine ⟨_, _, rfl, by simp only [List.forall_mem_singleton]; exact small _, fun same => ?_⟩
    have lead : _ = 0xED := byte_value (by omega) same
    omega
  · refine ⟨_, _, rfl, ?_, fun same => ⟨_, _, rfl, ?_⟩⟩
    · simp only [List.forall_mem_cons]
      exact ⟨small _, small _, nofun⟩
    have lead : n / 4096 % 16 + 224 = 0xED := byte_value (by omega) same
    rw [UInt8.lt_iff_toNat_lt, toNat_byte (by omega)]
    change n / 64 % 64 + 128 < 0xA0
    omega
  · refine ⟨_, _, rfl, ?_, fun same => ?_⟩
    · simp only [List.forall_mem_cons]
      exact ⟨small _, small _, small _, nofun⟩
    have lead : _ = 0xED := byte_value (by omega) same
    omega

theorem replace_small {xs : List UInt8} (small : ∀ x ∈ xs, x.toNat < 0xC0) (rest : List UInt8) :
    replaceSurrogates (xs ++ rest) = xs ++ replaceSurrogates rest := by
  induction xs with
  | nil => rfl
  | cons x xs ih =>
    obtain ⟨first, others⟩ := List.forall_mem_cons.mp small
    rw [List.cons_append, replace_other, ih others, List.cons_append]
    rintro _ _ _ rfl
    exact absurd first (by decide)

theorem replace_bytesOf {n : Nat} (bound : n < 0x110000) (rest : List UInt8) :
    replaceSurrogates (bytesOf n ++ rest) =
      String.utf8EncodeChar (scalar n) ++ replaceSurrogates rest := by
  by_cases valid : n.isValidChar
  · obtain ⟨a, tail, bytes, small, narrow⟩ := valid_bytes valid
    rw [scalar, if_pos valid, encodeChar_eq, Char.toNat_ofNat, if_pos valid, bytes,
      List.cons_append, replace_other, replace_small small, List.cons_append]
    rintro b c _ lead same ⟨wide, _⟩
    obtain ⟨_, _, rfl, below⟩ := narrow lead
    cases same
    exact absurd below (UInt8.not_lt.mpr wide)
  · have surrogate := valid
    unfold Nat.isValidChar at surrogate
    obtain ⟨b, c, half, bytes⟩ := half_bytes (n := n) (by omega) (by omega)
    rw [scalar, if_neg valid, bytes]
    exact replace_half half rest

theorem encode_append {c : Char} {bytes : List UInt8} {cs : List Char}
    (same : String.utf8EncodeChar c ++ bytes = encode cs) :
    ∃ ds, cs = c :: ds ∧ bytes = encode ds := by
  have read := decode_ok.mpr same
  obtain ⟨next, first⟩ := decodeFrom_char c 0 bytes
  rw [decode, first] at read
  obtain ⟨ds, later, rfl⟩ := map_ok read
  exact ⟨ds, rfl, decodeFrom_ok later⟩

theorem small_kept {xs data rest : List UInt8} (small : ∀ x ∈ xs, x.toNat < 0xC0)
    (replaced : replaceSurrogates data = xs ++ rest) :
    ∃ left, data = xs ++ left ∧ replaceSurrogates left = rest := by
  induction xs generalizing data with
  | nil => exact ⟨data, rfl, replaced⟩
  | cons x xs ih =>
    obtain ⟨first, others⟩ := List.forall_mem_cons.mp small
    cases data with
    | nil => cases replaced
    | cons a tail =>
      by_cases half : ∃ b c left, a = 0xED ∧ tail = b :: c :: left ∧ Half b c
      · obtain ⟨b, c, left, rfl, rfl, pair⟩ := half
        rw [replace_half pair] at replaced
        have lead : 0xEF = x := (List.cons.inj replaced).1
        rw [← lead] at first
        exact absurd first (by decide)
      · rw [replace_other fun b c left lead same pair => half ⟨b, c, left, lead, same, pair⟩]
          at replaced
        obtain ⟨rfl, behind⟩ := List.cons.inj replaced
        obtain ⟨left, rfl, same⟩ := ih others behind
        exact ⟨left, rfl, same⟩

theorem replaced_units {data : List UInt8} {cs : List Char}
    (replaced : replaceSurrogates data = encode cs) :
    ∃ ns : List Nat, (∀ n ∈ ns, n < 0x110000) ∧ data = ns.flatMap bytesOf ∧ cs = ns.map scalar := by
  induction size : data.length using Nat.strongRecOn generalizing data cs with
  | ind k ih =>
    cases data with
    | nil =>
      cases cs with
      | nil => exact ⟨[], nofun, rfl, rfl⟩
      | cons c cs =>
        rw [encode, List.flatMap_cons, encodeChar_eq] at replaced
        exact absurd (List.append_eq_nil_iff.mp replaced.symm).1 (bytesOf_ne_nil _)
    | cons a tail =>
      by_cases half : ∃ b c left, a = 0xED ∧ tail = b :: c :: left ∧ Half b c
      · obtain ⟨b, c, left, rfl, rfl, pair⟩ := half
        rw [replace_half pair] at replaced
        obtain ⟨ds, rfl, behind⟩ := encode_append replaced
        obtain ⟨n, low, high, bytes⟩ := bytes_half pair
        obtain ⟨ns, bounds, rfl, rfl⟩ := ih left.length (by simp [← size]; omega) behind rfl
        have surrogate : ¬ n.isValidChar := by
          unfold Nat.isValidChar
          omega
        refine ⟨n :: ns, List.forall_mem_cons.mpr ⟨by omega, bounds⟩, ?_, ?_⟩
        · rw [List.flatMap_cons, bytes]
          rfl
        · rw [List.map_cons, scalar, if_neg surrogate]
      · rw [replace_other fun b c left lead same pair => half ⟨b, c, left, lead, same, pair⟩]
          at replaced
        cases cs with
        | nil => cases replaced
        | cons c cs =>
          have valid : c.toNat.isValidChar := c.valid
          obtain ⟨first, others, bytes, small, _⟩ := valid_bytes valid
          rw [encode, List.flatMap_cons, encodeChar_eq, bytes, List.cons_append] at replaced
          obtain ⟨rfl, behind⟩ := List.cons.inj replaced
          obtain ⟨left, rfl, later⟩ := small_kept small behind
          obtain ⟨ns, bounds, rfl, rfl⟩ := ih left.length (by simp [← size]) later rfl
          refine ⟨c.toNat :: ns, List.forall_mem_cons.mpr ⟨?_, bounds⟩, ?_, ?_⟩
          · unfold Nat.isValidChar at valid
            omega
          · rw [List.flatMap_cons, bytes, List.cons_append]
          · rw [List.map_cons, scalar_toNat]

theorem decode_units {data : List UInt8} {cs : List Char} :
    decode (replaceSurrogates data) = .ok cs ↔
      ∃ ns : List Nat, (∀ n ∈ ns, n < 0x110000) ∧ data = ns.flatMap bytesOf ∧ cs = ns.map scalar := by
  rw [decode_ok]
  constructor
  · exact replaced_units
  · rintro ⟨ns, bounds, rfl, rfl⟩
    induction ns with
    | nil => rfl
    | cons n ns ih =>
      obtain ⟨first, others⟩ := List.forall_mem_cons.mp bounds
      rw [List.flatMap_cons, replace_bytesOf first, ih others]
      rfl

end Utf8
end Columnar.Text
