import Columnar.Text.Utf8
import Mathlib

/-! Text written in UTF-8, read back. Every byte behind the first gives a character six bits; the
bytes of one character take the reader from between characters to between characters, whatever it
has read before and whatever stands behind. And no other bytes do so: what is read is the text of
its bytes. -/
namespace Columnar.Text.Utf8

theorem toNat_byte {n : Nat} (bound : n < 256) : (UInt8.ofNat n).toNat = n :=
  UInt8.toNat_ofNat_of_lt' bound

section
variable {p : Pending} {pos n : Nat} {b : UInt8} {rest : List UInt8}

/-! A text byte by byte, between characters and inside of one. -/

theorem decodeFrom_nil : decodeFrom pos none [] = .ok [] := rfl

theorem decodeFrom_pending_nil : decodeFrom pos (some p) [] = .error (p.error .unexpectedEnd) := rfl

theorem decodeFrom_advance {o next : Option Pending} {c : Option Char}
    (goes : advance pos b o = .ok (c, next)) :
    decodeFrom pos o (b :: rest) = (decodeFrom (pos + 1) next rest).map (c.toList ++ ·) := by
  simp only [decodeFrom, decodePart, goes]
  rcases decodePart (pos + 1) next rest with e | ⟨cs, p | p⟩ <;> rfl

theorem decodeFrom_stuck {o : Option Pending} {e : DecodeError} (stops : advance pos b o = .error e) :
    decodeFrom pos o (b :: rest) = .error e := by
  simp only [decodeFrom, decodePart, stops]

theorem map_id_append (r : Except DecodeError (List Char)) : r.map (([] : List Char) ++ ·) = r := by
  cases r <;> rfl

theorem decodeFrom_cons : decodeFrom pos none (b :: rest) =
    if b < 0x80 then (decodeFrom (pos + 1) none rest).map (Char.ofNat b.toNat :: ·)
    else match lead b pos with
      | some p => decodeFrom (pos + 1) (some p) rest
      | none => .error ⟨"utf-8", b, pos, 1, .invalidStart⟩ := by
  split
  · rename_i ascii
    exact decodeFrom_advance (c := some (Char.ofNat b.toNat)) (by rw [advance, if_pos ascii])
  · rename_i ascii
    split
    · rename_i p opens
      rw [decodeFrom_advance (c := none) (by rw [advance, if_neg ascii, opens])]
      exact map_id_append _
    · rename_i closed
      exact decodeFrom_stuck (by rw [advance, if_neg ascii, closed])

theorem decodeFrom_pending_cons : decodeFrom pos (some p) (b :: rest) =
    if b < p.low ∨ p.high < b then .error (p.error .invalidContinuation)
    else
      let bits := p.bits * 64 + (b.toNat - 0x80)
      if p.owed ≤ 1 then (decodeFrom (pos + 1) none rest).map (Char.ofNat bits :: ·)
      else decodeFrom (pos + 1) (some { p with
        bits, read := p.read + 1, owed := p.owed - 1, low := 0x80, high := 0xBF }) rest := by
  split
  · rename_i outside
    exact decodeFrom_stuck (by rw [advance, if_pos outside])
  · rename_i inside
    dsimp only
    split
    · rename_i last
      rw [decodeFrom_advance (c := some _) (by rw [advance, if_neg inside]; exact if_pos last)]
      rfl
    · rename_i more
      rw [decodeFrom_advance (c := none) (by rw [advance, if_neg inside]; exact if_neg more)]
      exact map_id_append _

def Continues (p : Pending) (n : Nat) : Prop :=
  n < 64 ∧ p.low.toNat ≤ n + 128 ∧ n + 128 ≤ p.high.toNat

theorem continues_byte (fits : Continues p n) :
    ¬ (UInt8.ofNat (n + 128) < p.low ∨ p.high < UInt8.ofNat (n + 128)) ∧
      (UInt8.ofNat (n + 128)).toNat - 128 = n := by
  obtain ⟨six, low, high⟩ := fits
  rw [UInt8.lt_iff_toNat_lt, UInt8.lt_iff_toNat_lt, toNat_byte (by omega)]
  omega

theorem decodeFrom_owed (n : Nat) (ns : List Nat) (fits : Continues p n) (six : ∀ m ∈ ns, m < 64)
    (owed : p.owed = ns.length + 1) {v : Nat}
    (whole : (n :: ns).foldl (fun bits m => bits * 64 + m) p.bits = v) :
    ∃ next, decodeFrom pos (some p) ((n :: ns).map (fun m => UInt8.ofNat (m + 128)) ++ rest) =
      (decodeFrom next none rest).map (Char.ofNat v :: ·) := by
  induction ns generalizing p pos n with
  | nil =>
    obtain ⟨inside, bits⟩ := continues_byte fits
    have last : p.owed ≤ 1 := by simp [owed]
    refine ⟨pos + 1, ?_⟩
    rw [List.map_cons, List.cons_append, decodeFrom_pending_cons, if_neg inside, bits, if_pos last,
      ← whole]
    rfl
  | cons m ns ih =>
    obtain ⟨inside, bits⟩ := continues_byte fits
    obtain ⟨small, others⟩ := List.forall_mem_cons.mp six
    have more : ¬ p.owed ≤ 1 := by simp [owed]
    have free : Continues { p with
        bits := p.bits * 64 + n, read := p.read + 1, owed := p.owed - 1,
        low := 0x80, high := 0xBF } m := ⟨small, by simp, by simp; omega⟩
    rw [List.map_cons, List.cons_append, decodeFrom_pending_cons, if_neg inside, bits, if_neg more]
    exact ih m free others (by simp [owed]) whole

theorem decodeFrom_lead (large : 0x80 ≤ b.toNat) (opens : lead b pos = some p) :
    decodeFrom pos none (b :: rest) = decodeFrom (pos + 1) (some p) rest := by
  have notAscii : ¬ b < 0x80 := by
    rw [UInt8.lt_iff_toNat_lt]
    exact Nat.not_lt.mpr large
  rw [decodeFrom_cons, if_neg notAscii, opens]

theorem decodeFrom_two (least : 2 ≤ n) (bits : n < 32) :
    decodeFrom pos none (UInt8.ofNat (n + 192) :: rest) =
      decodeFrom (pos + 1) (some ⟨UInt8.ofNat (n + 192), pos, n, 1, 1, 0x80, 0xBF⟩) rest := by
  have value : (UInt8.ofNat (n + 192)).toNat = n + 192 := toNat_byte (by omega)
  apply decodeFrom_lead (by omega)
  simp only [lead, UInt8.lt_iff_toNat_lt, value, UInt8.reduceToNat]
  rw [if_neg (by omega), if_pos (by omega), Nat.add_sub_cancel]

theorem decodeFrom_three (bits : n < 16) :
    decodeFrom pos none (UInt8.ofNat (n + 224) :: rest) =
      decodeFrom (pos + 1) (some ⟨UInt8.ofNat (n + 224), pos, n, 1, 2,
        if n = 0 then 0xA0 else 0x80, if n = 13 then 0x9F else 0xBF⟩) rest := by
  have value : (UInt8.ofNat (n + 224)).toNat = n + 224 := toNat_byte (by omega)
  have first : n + 224 = 224 ↔ n = 0 := by omega
  have surrogates : n + 224 = 237 ↔ n = 13 := by omega
  apply decodeFrom_lead (by omega)
  simp only [lead, UInt8.lt_iff_toNat_lt, ← UInt8.toNat_inj, value, UInt8.reduceToNat, first,
    surrogates]
  rw [if_neg (by omega), if_neg (by omega), if_pos (by omega), Nat.add_sub_cancel]

theorem decodeFrom_four (bits : n < 5) :
    decodeFrom pos none (UInt8.ofNat (n + 240) :: rest) =
      decodeFrom (pos + 1) (some ⟨UInt8.ofNat (n + 240), pos, n, 1, 3,
        if n = 0 then 0x90 else 0x80, if n = 4 then 0x8F else 0xBF⟩) rest := by
  have value : (UInt8.ofNat (n + 240)).toNat = n + 240 := toNat_byte (by omega)
  have first : n + 240 = 240 ↔ n = 0 := by omega
  have last : n + 240 = 244 ↔ n = 4 := by omega
  apply decodeFrom_lead (by omega)
  simp only [lead, UInt8.lt_iff_toNat_lt, ← UInt8.toNat_inj, value, UInt8.reduceToNat, first, last]
  rw [if_neg (by omega), if_neg (by omega), if_neg (by omega), if_pos (by omega),
    Nat.add_sub_cancel]

end

/-- The bytes of one character. Where a full range would let in another spelling of it, a surrogate
or no character at all, the second byte has bounds of its own. -/
theorem decodeFrom_char (c : Char) (pos : Nat) (rest : List UInt8) :
    ∃ next, decodeFrom pos none (String.utf8EncodeChar c ++ rest) =
      (decodeFrom next none rest).map (c :: ·) := by
  have char : Char.ofNat c.val.toNat = c := Char.ofNat_toNat c
  have valid : c.val.toNat < 0xD800 ∨ 0xDFFF < c.val.toNat ∧ c.val.toNat < 0x110000 := c.valid
  rw [String.utf8EncodeChar.eq_1]
  generalize c.val.toNat = v at char valid ⊢
  subst char
  split_ifs with one two three
  · have value : (UInt8.ofNat v).toNat = v := toNat_byte (by omega)
    have ascii : UInt8.ofNat v < 0x80 := by
      rw [UInt8.lt_iff_toNat_lt, value]
      exact Nat.lt_succ_of_le one
    exact ⟨_, by rw [List.singleton_append, decodeFrom_cons, if_pos ascii, value]⟩
  · rw [List.cons_append, decodeFrom_two (by omega) (by omega)]
    refine decodeFrom_owed (v % 64) [] ⟨by omega, ?_, ?_⟩ nofun rfl ?_
    · simp
    · simp
      omega
    · simp only [List.foldl_cons, List.foldl_nil]
      omega
  · rw [List.cons_append, decodeFrom_three (by omega)]
    refine decodeFrom_owed (v / 64 % 64) [v % 64] ⟨by omega, ?_, ?_⟩ ?_ rfl ?_
    · split_ifs <;> simp <;> omega
    · split_ifs <;> simp <;> omega
    · simp
      omega
    · simp only [List.foldl_cons, List.foldl_nil]
      omega
  · rw [List.cons_append, decodeFrom_four (by omega)]
    refine decodeFrom_owed (v / 4096 % 64) [v / 64 % 64, v % 64] ⟨by omega, ?_, ?_⟩ ?_ rfl ?_
    · split_ifs <;> simp <;> omega
    · split_ifs <;> simp <;> omega
    · simp
      omega
    · simp only [List.foldl_cons, List.foldl_nil]
      omega

theorem decode_encode (cs : List Char) : decode (encode cs) = .ok cs := by
  have go : ∀ pos, decodeFrom pos none (cs.flatMap String.utf8EncodeChar) = .ok cs := by
    induction cs with
    | nil => intro pos; rfl
    | cons c cs ih =>
      intro pos
      obtain ⟨next, read⟩ := decodeFrom_char c pos (cs.flatMap String.utf8EncodeChar)
      rw [List.flatMap_cons, read, ih next]
      rfl
  exact go 0

def bytesOf (n : Nat) : List UInt8 :=
  if n ≤ 0x7F then [.ofNat n]
  else if n ≤ 0x7FF then [.ofNat (n / 64 % 32 + 192), .ofNat (n % 64 + 128)]
  else if n ≤ 0xFFFF then
    [.ofNat (n / 4096 % 16 + 224), .ofNat (n / 64 % 64 + 128), .ofNat (n % 64 + 128)]
  else
    [.ofNat (n / 262144 % 8 + 240), .ofNat (n / 4096 % 64 + 128), .ofNat (n / 64 % 64 + 128),
      .ofNat (n % 64 + 128)]

theorem encodeChar_eq (c : Char) : String.utf8EncodeChar c = bytesOf c.toNat := by
  rw [String.utf8EncodeChar.eq_1]
  rfl

theorem bytesOf_ne_nil (n : Nat) : bytesOf n ≠ [] := by
  unfold bytesOf
  split_ifs <;> simp

theorem bytesOf_two {n m : Nat} (least : 2 ≤ n) (bits : n < 32) (six : m < 64) :
    bytesOf (n * 64 + m) = [.ofNat (n + 192), .ofNat (m + 128)] := by
  have high : (n * 64 + m) / 64 % 32 = n := by omega
  have low : (n * 64 + m) % 64 = m := by omega
  rw [bytesOf, if_neg (by omega), if_pos (by omega), high, low]

theorem bytesOf_three {n m k : Nat} (bits : n < 16) (six : m < 64) (last : k < 64)
    (least : n = 0 → 32 ≤ m) : bytesOf ((n * 64 + m) * 64 + k) =
      [.ofNat (n + 224), .ofNat (m + 128), .ofNat (k + 128)] := by
  have high : ((n * 64 + m) * 64 + k) / 4096 % 16 = n := by omega
  have middle : ((n * 64 + m) * 64 + k) / 64 % 64 = m := by omega
  have low : ((n * 64 + m) * 64 + k) % 64 = k := by omega
  rw [bytesOf, if_neg (by omega), if_neg (by omega), if_pos (by omega), high, middle, low]

theorem bytesOf_four {n m k l : Nat} (bits : n < 5) (six : m < 64) (third : k < 64) (last : l < 64)
    (least : n = 0 → 16 ≤ m) : bytesOf (((n * 64 + m) * 64 + k) * 64 + l) =
      [.ofNat (n + 240), .ofNat (m + 128), .ofNat (k + 128), .ofNat (l + 128)] := by
  have first : (((n * 64 + m) * 64 + k) * 64 + l) / 262144 % 8 = n := by omega
  have high : (((n * 64 + m) * 64 + k) * 64 + l) / 4096 % 64 = m := by omega
  have middle : (((n * 64 + m) * 64 + k) * 64 + l) / 64 % 64 = k := by omega
  have low : (((n * 64 + m) * 64 + k) * 64 + l) % 64 = l := by omega
  rw [bytesOf, if_neg (by omega), if_neg (by omega), if_neg (by omega), first, high, middle, low]

section
variable {p : Pending} {pos : Nat} {b : UInt8} {bytes : List UInt8} {cs : List Char}

theorem lead_some (opens : lead b pos = some p) :
    (∃ n, 2 ≤ n ∧ n < 32 ∧ b = .ofNat (n + 192) ∧ p = ⟨b, pos, n, 1, 1, 0x80, 0xBF⟩) ∨
    (∃ n, n < 16 ∧ b = .ofNat (n + 224) ∧ p = ⟨b, pos, n, 1, 2,
      if n = 0 then 0xA0 else 0x80, if n = 13 then 0x9F else 0xBF⟩) ∨
    ∃ n, n < 5 ∧ b = .ofNat (n + 240) ∧ p = ⟨b, pos, n, 1, 3,
      if n = 0 then 0x90 else 0x80, if n = 4 then 0x8F else 0xBF⟩ := by
  have bound : b.toNat < 256 := UInt8.toNat_lt b
  have back : ∀ n k, b.toNat = n + k → b = .ofNat (n + k) := fun n k same => by
    rw [← same, UInt8.ofNat_toNat]
  simp only [lead, UInt8.lt_iff_toNat_lt, UInt8.reduceToNat] at opens
  rcases Nat.lt_or_ge b.toNat 0xC2 with none | two
  · rw [if_pos none] at opens
    cases opens
  rw [if_neg (Nat.not_lt.mpr two)] at opens
  rcases Nat.lt_or_ge b.toNat 0xE0 with short | three
  · rw [if_pos short] at opens
    cases opens
    exact .inl ⟨b.toNat - 0xC0, by omega, by omega, back _ _ (by omega), rfl⟩
  rw [if_neg (Nat.not_lt.mpr three)] at opens
  rcases Nat.lt_or_ge b.toNat 0xF0 with middle | four
  · rw [if_pos middle] at opens
    cases opens
    refine .inr (.inl ⟨b.toNat - 0xE0, by omega, back _ _ (by omega), ?_⟩)
    have first : b = 0xE0 ↔ b.toNat - 0xE0 = 0 := by rw [← UInt8.toNat_inj]; simp; omega
    have surrogates : b = 0xED ↔ b.toNat - 0xE0 = 13 := by rw [← UInt8.toNat_inj]; simp; omega
    simp only [first, surrogates]
  rw [if_neg (Nat.not_lt.mpr four)] at opens
  rcases Nat.lt_or_ge b.toNat 0xF5 with long | past
  · rw [if_pos long] at opens
    cases opens
    refine .inr (.inr ⟨b.toNat - 0xF0, by omega, back _ _ (by omega), ?_⟩)
    have first : b = 0xF0 ↔ b.toNat - 0xF0 = 0 := by rw [← UInt8.toNat_inj]; simp; omega
    have last : b = 0xF4 ↔ b.toNat - 0xF0 = 4 := by rw [← UInt8.toNat_inj]; simp; omega
    simp only [first, last]
  · rw [if_neg (Nat.not_lt.mpr past)] at opens
    cases opens

theorem map_ok {α β : Type} {r : Except DecodeError α} {f : α → β} {y : β}
    (done : r.map f = .ok y) : ∃ x, r = .ok x ∧ f x = y := by
  cases r with
  | ok x => cases done; exact ⟨x, rfl, rfl⟩
  | error e => cases done

structure Opened (p : Pending) : Prop where
  owed : 0 < p.owed
  low : 0x80 ≤ p.low.toNat
  high : p.high.toNat ≤ 0xBF

theorem lead_opened (opens : lead b pos = some p) : Opened p := by
  rcases lead_some opens with ⟨_, _, _, _, rfl⟩ | ⟨_, _, _, rfl⟩ | ⟨_, _, _, rfl⟩
  · exact ⟨Nat.one_pos, Nat.le_refl 0x80, Nat.le_refl 0xBF⟩
  · refine ⟨Nat.two_pos, ?_, ?_⟩ <;> dsimp only <;> split <;> decide
  · refine ⟨Nat.zero_lt_succ 2, ?_, ?_⟩ <;> dsimp only <;> split <;> decide

theorem owed_read (read : decodeFrom pos (some p) bytes = .ok cs) (opened : Opened p) :
    ∃ n ns rest ds next, Continues p n ∧ (∀ m ∈ ns, m < 64) ∧ p.owed = ns.length + 1 ∧
      bytes = (n :: ns).map (fun m => UInt8.ofNat (m + 128)) ++ rest ∧
      cs = Char.ofNat ((n :: ns).foldl (fun bits m => bits * 64 + m) p.bits) :: ds ∧
      decodeFrom next none rest = .ok ds := by
  induction bytes generalizing p pos with
  | nil => rw [decodeFrom_pending_nil] at read; cases read
  | cons b rest ih =>
    rw [decodeFrom_pending_cons] at read
    split at read
    · cases read
    · rename_i inside
      simp only [UInt8.lt_iff_toNat_lt, not_or, Nat.not_lt] at inside
      obtain ⟨owed, low, high⟩ := opened
      have six : Continues p (b.toNat - 128) := ⟨by omega, by omega, by omega⟩
      have byte : UInt8.ofNat (b.toNat - 128 + 128) = b := by
        rw [Nat.sub_add_cancel (by omega), UInt8.ofNat_toNat]
      dsimp only at read
      split at read
      · obtain ⟨ds, later, rfl⟩ := map_ok read
        refine ⟨b.toNat - 128, [], rest, ds, _, six, nofun, ?_, ?_, rfl, later⟩
        · simp only [List.length_nil]
          omega
        · rw [List.map_cons, byte]
          rfl
      · rename_i more
        obtain ⟨n, ns, left, ds, next, free, small, length, text, chars, later⟩ :=
          ih read ⟨Nat.sub_pos_of_lt (Nat.lt_of_not_le more), Nat.le_refl 0x80, Nat.le_refl 0xBF⟩
        refine ⟨b.toNat - 128, n :: ns, left, ds, next, six,
          List.forall_mem_cons.mpr ⟨free.1, small⟩, ?_, ?_, ?_, later⟩
        · simp only [List.length_cons] at length ⊢
          omega
        · rw [List.map_cons, byte, List.cons_append, ← text]
        · rw [List.foldl_cons]
          exact chars

theorem char_read (read : decodeFrom pos none (b :: bytes) = .ok cs) :
    ∃ v rest ds next, v.isValidChar ∧ b :: bytes = bytesOf v ++ rest ∧ cs = Char.ofNat v :: ds ∧
      decodeFrom next none rest = .ok ds := by
  rw [decodeFrom_cons] at read
  split at read
  · rename_i ascii
    have small : b.toNat < 128 := UInt8.lt_iff_toNat_lt.mp ascii
    obtain ⟨ds, later, rfl⟩ := map_ok read
    refine ⟨b.toNat, bytes, ds, _, .inl (by omega), ?_, rfl, later⟩
    rw [bytesOf, if_pos (by omega), UInt8.ofNat_toNat]
    rfl
  · split at read
    · rename_i p opens
      obtain ⟨m, ms, rest, ds, next, free, small, length, rfl, rfl, later⟩ :=
        owed_read read (lead_opened opens)
      rcases lead_some opens with ⟨n, least, bits, rfl, rfl⟩ | ⟨n, bits, rfl, rfl⟩ | ⟨n, bits, rfl, rfl⟩
      · obtain rfl : ms = [] := List.length_eq_zero_iff.mp (by simpa using length.symm)
        obtain ⟨six, _, _⟩ := free
        refine ⟨n * 64 + m, rest, ds, next, .inl (by omega), ?_, rfl, later⟩
        rw [bytesOf_two least bits six]
        rfl
      · obtain ⟨k, rfl⟩ : ∃ k, ms = [k] := List.length_eq_one_iff.mp (by simpa using length.symm)
        obtain ⟨six, low, high⟩ := free
        have last := small k (by simp)
        have least : n = 0 → 32 ≤ m := by
          rintro rfl
          have bound : 0xA0 ≤ m + 128 := low
          omega
        have most : n = 13 → m ≤ 31 := by
          rintro rfl
          have bound : m + 128 ≤ 0x9F := high
          omega
        refine ⟨(n * 64 + m) * 64 + k, rest, ds, next, ?_, ?_, rfl, later⟩
        · unfold Nat.isValidChar
          omega
        · rw [bytesOf_three bits six last least]
          rfl
      · obtain ⟨k, l, rfl⟩ : ∃ k l, ms = [k, l] := List.length_eq_two.mp (by simpa using length.symm)
        obtain ⟨six, low, high⟩ := free
        have third := small k (by simp)
        have last := small l (by simp)
        have least : n = 0 → 16 ≤ m := by
          rintro rfl
          have bound : 0x90 ≤ m + 128 := low
          omega
        have most : n = 4 → m ≤ 15 := by
          rintro rfl
          have bound : m + 128 ≤ 0x8F := high
          omega
        refine ⟨((n * 64 + m) * 64 + k) * 64 + l, rest, ds, next, ?_, ?_, rfl, later⟩
        · unfold Nat.isValidChar
          omega
        · rw [bytesOf_four bits six third last least]
          rfl
    · cases read

theorem decodeFrom_ok (read : decodeFrom pos none bytes = .ok cs) :
    bytes = cs.flatMap String.utf8EncodeChar := by
  induction size : bytes.length using Nat.strongRecOn generalizing pos bytes cs with
  | ind k ih =>
    cases bytes with
    | nil => rw [decodeFrom_nil] at read; cases read; rfl
    | cons b bytes =>
      obtain ⟨v, rest, ds, next, valid, text, rfl, later⟩ := char_read read
      have shorter : rest.length < k := by
        rw [← size, text, List.length_append]
        exact Nat.lt_add_of_pos_left (List.length_pos_of_ne_nil (bytesOf_ne_nil v))
      rw [text, List.flatMap_cons, encodeChar_eq, Char.toNat_ofNat, if_pos valid,
        ← ih rest.length shorter later rfl]

end

theorem decode_ok {bytes : List UInt8} {cs : List Char} :
    decode bytes = .ok cs ↔ bytes = encode cs := by
  constructor
  · exact decodeFrom_ok
  · rintro rfl
    exact decode_encode cs

end Columnar.Text.Utf8
