import Columnar.Proofs.Json.Ascii
import Columnar.Proofs.Text.Surrogates

/-! Texts as bytes in the encoding forms. Bytes are read just if they are a mark and then the bytes
of units: of numbers in UTF-8 and UTF-32, of 16 bits in UTF-16. -/
namespace Columnar.Text

namespace Utf8

theorem byte_ne_zero {n : Nat} (bound : n < 256) (some : n ≠ 0) : UInt8.ofNat n ≠ 0 := by
  intro zero
  exact some (byte_value bound zero)

theorem encodeChar_ascii {c : Char} (ascii : c.toNat < 0x80) :
    String.utf8EncodeChar c = [.ofNat c.toNat] := by
  rw [encodeChar_eq, bytesOf, if_pos (Nat.le_of_lt_succ ascii)]

theorem encodeChar_head {c : Char} (some : c.toNat ≠ 0) :
    ∃ b tail, b ≠ 0 ∧ String.utf8EncodeChar c = b :: tail := by
  have bound := Json.toNat_bound c
  rw [encodeChar_eq]
  unfold bytesOf
  split_ifs
  · exact ⟨_, _, byte_ne_zero (by omega) some, rfl⟩
  · exact ⟨_, _, byte_ne_zero (by omega) (by omega), rfl⟩
  · exact ⟨_, _, byte_ne_zero (by omega) (by omega), rfl⟩
  · exact ⟨_, _, byte_ne_zero (by omega) (by omega), rfl⟩

end Utf8

namespace Utf16

variable {order : ByteOrder} {pos : Nat}

theorem units_bytesOf {n : Nat} (bound : n < 0x10000) (rest : List UInt8) :
    units order pos (bytesOf order n ++ rest) =
      (units order (pos + 2) rest).map (n :: ·) := by
  have low : (UInt8.ofNat (n % 256)).toNat = n % 256 := Utf8.toNat_byte (by omega)
  have high : (UInt8.ofNat (n / 256)).toNat = n / 256 := Utf8.toNat_byte (by omega)
  cases order with
  | little =>
    have value : unit .little (.ofNat (n % 256)) (.ofNat (n / 256)) = n := by
      rw [unit, low, high]
      omega
    simp only [bytesOf, List.cons_append, List.nil_append, units, value]
  | big =>
    have value : unit .big (.ofNat (n / 256)) (.ofNat (n % 256)) = n := by
      rw [unit, low, high]
      omega
    simp only [bytesOf, List.cons_append, List.nil_append, units, value]

variable (order) in
theorem bytesOf_unit (a b : UInt8) :
    unit order a b < 0x10000 ∧ bytesOf order (unit order a b) = [a, b] := by
  have first : a.toNat < 256 := UInt8.toNat_lt a
  have second : b.toNat < 256 := UInt8.toNat_lt b
  cases order with
  | little =>
    have low : (a.toNat + 256 * b.toNat) % 256 = a.toNat := by omega
    have high : (a.toNat + 256 * b.toNat) / 256 = b.toNat := by omega
    simp only [unit, bytesOf, low, high, UInt8.ofNat_toNat, and_true]
    omega
  | big =>
    have low : (256 * a.toNat + b.toNat) % 256 = b.toNat := by omega
    have high : (256 * a.toNat + b.toNat) / 256 = a.toNat := by omega
    simp only [unit, bytesOf, low, high, UInt8.ofNat_toNat, and_true]
    omega

theorem units_ok {bytes : List UInt8} {ns : List Nat} : units order pos bytes = .ok ns ↔
    (∀ n ∈ ns, n < 0x10000) ∧ bytes = ns.flatMap (bytesOf order) := by
  constructor
  · intro read
    fun_induction units order pos bytes generalizing ns with
    | case1 => cases read; exact ⟨nofun, rfl⟩
    | case2 => cases read
    | case3 pos a b rest ih =>
      obtain ⟨ms, later, rfl⟩ := Utf8.map_ok read
      obtain ⟨bounds, rfl⟩ := ih later
      obtain ⟨bound, bytes⟩ := bytesOf_unit order a b
      exact ⟨List.forall_mem_cons.mpr ⟨bound, bounds⟩, by rw [List.flatMap_cons, bytes]; rfl⟩
  · rintro ⟨bounds, rfl⟩
    induction ns generalizing pos with
    | nil => rfl
    | cons n ns ih =>
      obtain ⟨first, others⟩ := List.forall_mem_cons.mp bounds
      rw [List.flatMap_cons, units_bytesOf first, ih others]
      rfl

def unitsOf (c : Char) : List Nat :=
  if c.toNat < 0x10000 then [c.toNat]
  else [0xD800 + (c.toNat - 0x10000) / 0x400, 0xDC00 + (c.toNat - 0x10000) % 0x400]

theorem unitsOf_bound (c : Char) : ∀ n ∈ unitsOf c, n < 0x10000 := by
  have bound := Json.toNat_bound c
  unfold unitsOf
  split_ifs <;> simp <;> omega

theorem encodeChar_units (c : Char) : encodeChar order c = (unitsOf c).flatMap (bytesOf order) := by
  unfold encodeChar unitsOf
  dsimp only
  split_ifs <;> simp

theorem joinPairs_unitsOf (c : Char) (ns : List Nat) :
    Json.joinPairs (unitsOf c ++ ns) = .char c :: Json.joinPairs ns := by
  unfold unitsOf
  split_ifs with narrow
  · exact Json.joinPairs_toNat c ns
  · obtain ⟨high, low, joined⟩ := Json.halves (Nat.not_lt.mp narrow) (Json.toNat_bound c)
    rw [List.cons_append, List.singleton_append, Json.joinPairs_pair high low, joined,
      Char.ofNat_toNat]

def shown : Point → Char
  | .char c => c
  | .half _ => replacement

theorem shown_ofCode (u : Nat) :
    shown (.ofCode u) = if isHigh u || isLow u then replacement else Char.ofNat u := by
  have half : (isHigh u || isLow u) = true ↔ 0xD800 ≤ u ∧ u < 0xE000 := by
    unfold isHigh isLow
    simp only [Bool.or_eq_true, Bool.and_eq_true, decide_eq_true_eq]
    omega
  unfold Point.ofCode
  by_cases inside : 0xD800 ≤ u ∧ u < 0xE000
  · rw [dif_pos inside, if_pos (half.mpr inside)]
    rfl
  · rw [dif_neg inside, if_neg fun h => inside (half.mp h)]
    rfl

/-- Units are joined as numbers in a JSON text are, but for the halves that are left. -/
theorem join_eq (ns : List Nat) : join ns = (Json.joinPairs ns).map shown := by
  fun_induction join ns with
  | case1 => rfl
  | case2 u => rw [Json.joinPairs, List.map_singleton, shown_ofCode]
  | case3 u v rest pair ih => rw [Json.joinPairs, if_pos pair, ih, List.map_cons, shown]
  | case4 u v rest single ih =>
    rw [Json.joinPairs, if_neg single, ih, List.map_cons, shown_ofCode]

theorem unitsOf_bounds (cs : List Char) : ∀ n ∈ cs.flatMap unitsOf, n < 0x10000 := by
  intro n member
  obtain ⟨c, _, unit⟩ := List.mem_flatMap.mp member
  exact unitsOf_bound c n unit

theorem join_unitsOf (cs : List Char) : join (cs.flatMap unitsOf) = cs := by
  rw [join_eq]
  induction cs with
  | nil => rfl
  | cons c cs ih => rw [List.flatMap_cons, joinPairs_unitsOf, List.map_cons, ih, shown]

theorem encodeChar_ascii {c : Char} (ascii : c.toNat < 0x80) : encodeChar order c =
    match order with
    | .little => [.ofNat c.toNat, 0]
    | .big => [0, .ofNat c.toNat] := by
  have low : c.toNat % 256 = c.toNat := by omega
  have high : c.toNat / 256 = 0 := by omega
  cases order <;> simp only [encodeChar, if_pos (show c.toNat < 0x10000 by omega), bytesOf, low, high]
    <;> rfl

variable (order) in
theorem bytesOf_head {n : Nat} (bound : n < 0x10000) (some : n ≠ 0) :
    ∃ a b, (a ≠ 0 ∨ b ≠ 0) ∧ bytesOf order n = [a, b] := by
  have halves : UInt8.ofNat (n % 256) ≠ 0 ∨ UInt8.ofNat (n / 256) ≠ 0 := by
    by_cases low : n % 256 = 0
    · exact .inr (Utf8.byte_ne_zero (by omega) (by omega))
    · exact .inl (Utf8.byte_ne_zero (by omega) low)
  cases order with
  | little => exact ⟨_, _, halves, rfl⟩
  | big => exact ⟨_, _, halves.symm, rfl⟩

variable (order) in
theorem encodeChar_head {c : Char} (some : c.toNat ≠ 0) :
    ∃ a b tail, (a ≠ 0 ∨ b ≠ 0) ∧ encodeChar order c = a :: b :: tail := by
  have bound := Json.toNat_bound c
  have first : ∃ u us, unitsOf c = u :: us ∧ u < 0x10000 ∧ u ≠ 0 := by
    unfold unitsOf
    split_ifs
    · exact ⟨_, _, rfl, by omega, some⟩
    · exact ⟨_, _, rfl, by omega, by omega⟩
  obtain ⟨u, us, units, narrow, least⟩ := first
  obtain ⟨a, b, nonzero, bytes⟩ := bytesOf_head order narrow least
  exact ⟨a, b, _, nonzero, by rw [encodeChar_units, units, List.flatMap_cons, bytes]; rfl⟩

end Utf16

namespace Utf32

variable {order : ByteOrder} {pos : Nat}

def bytesOf : ByteOrder → Nat → List UInt8
  | .little, n => Utf16.bytesOf .little (n % 0x10000) ++ Utf16.bytesOf .little (n / 0x10000)
  | .big, n => Utf16.bytesOf .big (n / 0x10000) ++ Utf16.bytesOf .big (n % 0x10000)

theorem encodeChar_eq (c : Char) : encodeChar order c = bytesOf order c.toNat := by
  cases order <;> rfl

variable (order) in
theorem unit_bytesOf {n : Nat} (bound : n < 0x110000) :
    ∃ a b c d, bytesOf order n = [a, b, c, d] ∧ unit order a b c d = n := by
  have first : (UInt8.ofNat (n % 0x10000 % 256)).toNat = n % 0x10000 % 256 :=
    Utf8.toNat_byte (by omega)
  have second : (UInt8.ofNat (n % 0x10000 / 256)).toNat = n % 0x10000 / 256 :=
    Utf8.toNat_byte (by omega)
  have third : (UInt8.ofNat (n / 0x10000 % 256)).toNat = n / 0x10000 % 256 :=
    Utf8.toNat_byte (by omega)
  have fourth : (UInt8.ofNat (n / 0x10000 / 256)).toNat = n / 0x10000 / 256 :=
    Utf8.toNat_byte (by omega)
  cases order with
  | little =>
    refine ⟨_, _, _, _, rfl, ?_⟩
    rw [unit, first, second, third, fourth]
    omega
  | big =>
    refine ⟨_, _, _, _, rfl, ?_⟩
    rw [unit, first, second, third, fourth]
    omega

theorem bytesOf_unit (a b c d : UInt8) : bytesOf order (unit order a b c d) = [a, b, c, d] := by
  -- The number has a unit of 16 bits in its lower and one in its upper half.
  obtain ⟨lower, front⟩ := Utf16.bytesOf_unit order a b
  obtain ⟨upper, back⟩ := Utf16.bytesOf_unit order c d
  cases order with
  | little =>
    have whole : unit .little a b c d =
        Utf16.unit .little a b + 0x10000 * Utf16.unit .little c d := by
      simp only [unit, Utf16.unit]
      omega
    have low : unit .little a b c d % 0x10000 = Utf16.unit .little a b := by omega
    have high : unit .little a b c d / 0x10000 = Utf16.unit .little c d := by omega
    rw [bytesOf, low, high, front, back]
    rfl
  | big =>
    have whole : unit .big a b c d =
        Utf16.unit .big c d + 0x10000 * Utf16.unit .big a b := by
      simp only [unit, Utf16.unit]
      omega
    have low : unit .big a b c d % 0x10000 = Utf16.unit .big c d := by omega
    have high : unit .big a b c d / 0x10000 = Utf16.unit .big a b := by omega
    rw [bytesOf, low, high, front, back]
    rfl

theorem decode_units {bytes : List UInt8} {cs : List Char} : decodeFrom order pos bytes = .ok cs ↔
    ∃ ns : List Nat, (∀ n ∈ ns, n < 0x110000) ∧ bytes = ns.flatMap (bytesOf order) ∧
      cs = ns.map scalar := by
  constructor
  · intro read
    fun_induction decodeFrom order pos bytes generalizing cs with
    | case1 => cases read; exact ⟨[], nofun, rfl, rfl⟩
    | case2 => cases read
    | case3 pos a b c d rest u bound char =>
      rename_i ih
      obtain ⟨ds, later, rfl⟩ := Utf8.map_ok read
      obtain ⟨ns, bounds, rfl, rfl⟩ := ih later
      refine ⟨u :: ns, List.forall_mem_cons.mpr ⟨Nat.not_le.mp bound, bounds⟩, ?_, rfl⟩
      rw [List.flatMap_cons, bytesOf_unit]
      rfl
    | case4 => cases read
  · rintro ⟨ns, bounds, rfl, rfl⟩
    induction ns generalizing pos with
    | nil => rfl
    | cons n ns ih =>
      obtain ⟨first, others⟩ := List.forall_mem_cons.mp bounds
      obtain ⟨a, b, c, d, bytes, value⟩ := unit_bytesOf order first
      rw [List.flatMap_cons, bytes]
      simp only [List.cons_append, List.nil_append]
      rw [decodeFrom, value, if_neg (Nat.not_le.mpr first), ih others]
      rfl

theorem encodeChar_ascii {c : Char} (ascii : c.toNat < 0x80) : encodeChar order c =
    match order with
    | .little => [.ofNat c.toNat, 0, 0, 0]
    | .big => [0, 0, 0, .ofNat c.toNat] := by
  have whole : c.toNat % 0x10000 = c.toNat := by omega
  have upper : c.toNat / 0x10000 = 0 := by omega
  have low : c.toNat % 256 = c.toNat := by omega
  have high : c.toNat / 256 = 0 := by omega
  cases order <;> simp only [encodeChar, Utf16.bytesOf, whole, upper, low, high] <;> rfl

end Utf32

namespace Encoding

def unitBound : Encoding → Nat
  | .utf8 _ => 0x110000
  | .utf16 _ _ => 0x10000
  | .utf32 _ _ => 0x110000

def unitBytes : Encoding → Nat → List UInt8
  | .utf8 _ => Utf8.bytesOf
  | .utf16 order _ => Utf16.bytesOf order
  | .utf32 order _ => Utf32.bytesOf order

def chars : Encoding → List Nat → List Char
  | .utf8 _ => List.map scalar
  | .utf16 _ _ => Utf16.join
  | .utf32 _ _ => List.map scalar

variable {form : Encoding} {data bytes : List UInt8} {cs : List Char}

theorem decode_units : decode (form.mark ++ bytes) form = .ok cs ↔
    ∃ ns : List Nat, (∀ n ∈ ns, n < form.unitBound) ∧ bytes = ns.flatMap form.unitBytes ∧
      cs = form.chars ns := by
  have body : (form.mark ++ bytes).drop form.mark.length = bytes := List.drop_left
  cases form with
  | utf8 marked =>
    have mark : (mark (.utf8 marked)).length = if marked then 3 else 0 := by cases marked <;> rfl
    rw [decode, ← mark, body]
    exact Utf8.decode_units
  | utf16 order marked =>
    have mark : (mark (.utf16 order marked)).length = if marked then 2 else 0 := by
      cases marked <;> cases order <;> rfl
    rw [decode, ← mark, body, Utf16.decodeFrom]
    constructor
    · intro read
      obtain ⟨ns, units, rfl⟩ := Utf8.map_ok read
      obtain ⟨bounds, rfl⟩ := Utf16.units_ok.mp units
      exact ⟨ns, bounds, rfl, rfl⟩
    · rintro ⟨ns, bounds, rfl, rfl⟩
      exact congrArg (Except.map Utf16.join) (Utf16.units_ok.mpr ⟨bounds, rfl⟩)
  | utf32 order marked =>
    have mark : (mark (.utf32 order marked)).length = if marked then 4 else 0 := by
      cases marked <;> cases order <;> rfl
    rw [decode, ← mark, body]
    exact Utf32.decode_units

theorem decode_encode (cs : List Char) (form : Encoding) : decode (encode cs form) form = .ok cs := by
  have kept : (cs.map Char.toNat).map scalar = cs := by
    rw [List.map_map]
    exact (List.map_congr_left fun c _ => scalar_toNat c).trans (List.map_id cs)
  have bounds : ∀ n ∈ cs.map Char.toNat, n < 0x110000 :=
    List.forall_mem_map.mpr fun c _ => Json.toNat_bound c
  refine decode_units.mpr ?_
  cases form with
  | utf8 marked =>
    refine ⟨cs.map Char.toNat, bounds, ?_, kept.symm⟩
    rw [List.flatMap_map]
    exact List.flatMap_congr fun c _ => Utf8.encodeChar_eq c
  | utf16 order marked =>
    refine ⟨cs.flatMap Utf16.unitsOf, ?_, ?_, (Utf16.join_unitsOf cs).symm⟩
    · exact Utf16.unitsOf_bounds cs
    · rw [List.flatMap_assoc]
      exact List.flatMap_congr fun c _ => Utf16.encodeChar_units c
  | utf32 order marked =>
    refine ⟨cs.map Char.toNat, bounds, ?_, kept.symm⟩
    rw [List.flatMap_map]
    exact List.flatMap_congr fun c _ => Utf32.encodeChar_eq c

theorem ofZeros_mark (data : List UInt8) : (ofZeros data).mark = [] := by
  unfold ofZeros
  split
  · split_ifs <;> rfl
  · split_ifs <;> rfl
  · rfl

theorem detect_mark (data : List UInt8) : (detect data).mark <+: data := by
  unfold detect
  split
  · exact ⟨_, rfl⟩
  · exact ⟨_, rfl⟩
  · exact ⟨_, rfl⟩
  · exact ⟨_, rfl⟩
  · exact ⟨_, rfl⟩
  · rw [ofZeros_mark]
    exact List.nil_prefix

section
variable {a b c d : UInt8} {rest : List UInt8}

/-- All marks but one start with a byte that is not ASCII, and that one with two zeros and 0xFE. -/
theorem detect_unmarked (ascii : a < 0x80) (apart : a = 0 → ¬ [0, 0xFE] <+: rest) :
    detect (a :: rest) = ofZeros (a :: rest) := by
  unfold detect
  split
  case h_1 start => cases start; exact absurd ⟨_, rfl⟩ (apart rfl)
  case h_2 start => cases start; exact absurd ascii (by decide)
  case h_3 start => cases start; exact absurd ascii (by decide)
  case h_4 start => cases start; exact absurd ascii (by decide)
  case h_5 start => cases start; exact absurd ascii (by decide)
  case h_6 => rfl

theorem detect_little (some : a ≠ 0) :
    detect (0xFF :: 0xFE :: a :: rest) = .utf16 .little true := by
  unfold detect
  split
  case h_2 start => cases start; exact absurd rfl some
  case h_4 => rfl
  case h_6 apart _ => exact absurd rfl (apart _)
  all_goals
    rename_i start
    cases start

theorem ofZeros_big (second : b ≠ 0) :
    ofZeros (0 :: b :: c :: d :: rest) = .utf16 .big false := by
  rw [ofZeros, if_pos rfl, if_pos second]

theorem ofZeros_little (first : a ≠ 0) (next : c ≠ 0 ∨ d ≠ 0) :
    ofZeros (a :: 0 :: c :: d :: rest) = .utf16 .little false := by
  rw [ofZeros, if_neg first, if_pos rfl, if_pos next]

theorem ofZeros_utf8 (first : a ≠ 0) (second : b ≠ 0) : ofZeros (a :: b :: rest) = .utf8 false := by
  unfold ofZeros
  split
  · rename_i start
    cases start
    rw [if_neg first, if_neg second]
  · rename_i start
    cases start
    rw [if_neg first, if_neg second]
  · rfl

end

section
variable {c d : Char}

theorem detect_encode (ascii : c.toNat < 0x80) (first : c.toNat ≠ 0) (second : d.toNat ≠ 0)
    (cs : List Char) (form : Encoding) : detect (encode (c :: d :: cs) form) = form := by
  have small : UInt8.ofNat c.toNat < 0x80 := by
    rw [UInt8.lt_iff_toNat_lt, Utf8.toNat_byte (by omega)]
    exact ascii
  have some : UInt8.ofNat c.toNat ≠ 0 := Utf8.byte_ne_zero (by omega) first
  -- Behind a mark the first character is only looked at where the mark starts another one.
  cases form with
  | utf8 marked =>
    obtain ⟨b, tail, other, bytes⟩ := Utf8.encodeChar_head second
    rw [encode, Utf8.encode, List.flatMap_cons, List.flatMap_cons, Utf8.encodeChar_ascii ascii, bytes]
    cases marked with
    | true => rfl
    | false => exact (detect_unmarked small fun zero => absurd zero some).trans (ofZeros_utf8 some other)
  | utf16 order marked =>
    obtain ⟨a, b, tail, other, bytes⟩ := Utf16.encodeChar_head order second
    rw [encode, Utf16.encode, List.flatMap_cons, List.flatMap_cons, Utf16.encodeChar_ascii ascii,
      bytes]
    cases order with
    | little =>
      cases marked with
      | true => exact detect_little some
      | false =>
        refine (detect_unmarked small fun zero => absurd zero some).trans ?_
        exact ofZeros_little some other
    | big =>
      cases marked with
      | true => rfl
      | false =>
        refine (detect_unmarked (by decide) ?_).trans ?_
        · rintro _ ⟨_, start⟩
          exact some (List.cons.inj start).1.symm
        · exact ofZeros_big some
  | utf32 order marked =>
    rw [encode, Utf32.encode, List.flatMap_cons, Utf32.encodeChar_ascii ascii]
    cases order with
    | little =>
      cases marked with
      | true => rfl
      | false =>
        refine (detect_unmarked small fun zero => absurd zero some).trans ?_
        exact (if_neg some).trans ((if_pos rfl).trans (if_neg (by simp)))
    | big => cases marked <;> rfl

end

end Encoding

/-- The text of bytes that are units of the form they announce, behind its mark. -/
def Encodes (data : List UInt8) (cs : List Char) : Prop :=
  ∃ ns : List Nat, (∀ n ∈ ns, n < (Encoding.detect data).unitBound) ∧
    data = (Encoding.detect data).mark ++ ns.flatMap (Encoding.detect data).unitBytes ∧
    cs = (Encoding.detect data).chars ns

theorem decodeBytes_ok {data : List UInt8} {cs : List Char} :
    decodeBytes data = .ok cs ↔ Encodes data cs := by
  obtain ⟨bytes, same⟩ := Encoding.detect_mark data
  unfold decodeBytes Encodes
  generalize Encoding.detect data = form at same ⊢
  rw [← same, Encoding.decode_units]
  simp only [List.append_cancel_left_eq]

theorem encodes_unique {data : List UInt8} {cs ds : List Char} (left : Encodes data cs)
    (right : Encodes data ds) : cs = ds :=
  Except.ok.inj ((decodeBytes_ok.mpr left).symm.trans (decodeBytes_ok.mpr right))

theorem decodeBytes_encode {c d : Char} (ascii : c.toNat < 0x80) (first : c.toNat ≠ 0)
    (second : d.toNat ≠ 0) (cs : List Char) (form : Encoding) :
    decodeBytes (Encoding.encode (c :: d :: cs) form) = .ok (c :: d :: cs) := by
  rw [decodeBytes, Encoding.detect_encode ascii first second]
  exact Encoding.decode_encode _ form

end Columnar.Text
