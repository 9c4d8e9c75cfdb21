import Columnar.Json.Reader
import Columnar.Json.Writer
import Columnar.Proofs.Text.Points
import Mathlib

/-! Strings between quotes, read back. A spelling gives each character some code points of its own;
it is enough that these are read and joined again whatever stands behind them. Halves of surrogate
pairs are spelled by number, so two of them come back unless they make a pair. -/
namespace Columnar

namespace Text

theorem hexValue_hexDigit : ∀ d < 16, hexValue? (hexDigit d) = some d := by decide

theorem hexNat_hexText {width n : Nat} (bound : n < 16 ^ width) :
    hexNat? (hexText width n) = some n := by
  induction width generalizing n with
  | zero =>
    have zero : n = 0 := by simpa using bound
    rw [zero]
    rfl
  | succ width ih =>
    have high : n / 16 < 16 ^ width := by
      rw [Nat.pow_succ] at bound
      omega
    have low := hexValue_hexDigit (n % 16) (by omega)
    have rest := ih high
    simp only [hexNat?] at rest ⊢
    rw [hexText, List.foldlM_append, rest]
    simp [low]
    omega

theorem hexText_digits (width n : Nat) : ∀ c ∈ hexText width n, ∃ d < 16, c = hexDigit d := by
  induction width generalizing n with
  | zero => nofun
  | succ width ih =>
    intro c hc
    rw [hexText, List.mem_append, List.mem_singleton] at hc
    rcases hc with hc | rfl
    · exact ih (n / 16) c hc
    · exact ⟨n % 16, by omega, rfl⟩

def IsPair (p q : Point) : Prop := Utf16.isHigh p.code = true ∧ Utf16.isLow q.code = true

instance (p q : Point) : Decidable (IsPair p q) := inferInstanceAs (Decidable (_ ∧ _))

def Joined (t : Text) : Prop := t.points.IsChain fun p q => ¬ IsPair p q

instance (t : Text) : Decidable t.Joined := inferInstanceAs (Decidable (List.IsChain _ _))

theorem toNat_not_high (c : Char) : Utf16.isHigh c.toNat = false := by
  have valid : c.toNat.isValidChar := c.valid
  simp only [Nat.isValidChar] at valid
  simp only [Utf16.isHigh, Bool.and_eq_false_iff, decide_eq_false_iff_not]
  omega

theorem toNat_not_low (c : Char) : Utf16.isLow c.toNat = false := by
  have valid : c.toNat.isValidChar := c.valid
  simp only [Nat.isValidChar] at valid
  simp only [Utf16.isLow, Bool.and_eq_false_iff, decide_eq_false_iff_not]
  omega

theorem joined_whole (s : String) : Joined s := by
  rw [Joined, points_whole, List.isChain_map]
  refine List.Pairwise.isChain (List.pairwise_of_forall fun c d pair => ?_)
  exact absurd pair.1 (Bool.eq_false_iff.mp (toNat_not_high c))

end Text

namespace Json
open Text

theorem toNat_bound (c : Char) : c.toNat < 0x110000 := by
  have valid : c.toNat.isValidChar := c.valid
  simp only [Nat.isValidChar] at valid
  omega

/-- What a spelling must do to be read back: its characters give code points that are joined to the
character, and what follows is read as it would be by itself. None of it joins with what is in
front. -/
def Readable (spell : Char → List Char) : Prop :=
  ∀ (opening : Nat) (c : Char) (tail : List Char), tail ≠ [] → ∃ (n : Nat) (units : List Nat),
    (codePoints opening (spell c ++ tail) =
      (codePoints opening tail).map fun p => (n :: units ++ p.1, p.2)) ∧
    (∀ ns, joinPairs (n :: units ++ ns) = .char c :: joinPairs ns) ∧ Utf16.isLow n = false

theorem joinPairs_toNat (c : Char) (ns : List Nat) :
    joinPairs (c.toNat :: ns) = .char c :: joinPairs ns := by
  cases ns with
  | nil => simp [joinPairs]
  | cons n ns => simp [joinPairs, toNat_not_high]

theorem joinPairs_pair {m n : Nat} (high : Utf16.isHigh m = true) (low : Utf16.isLow n = true)
    (ns : List Nat) : joinPairs (m :: n :: ns) = .char (Char.ofNat (Utf16.joined m n)) :: joinPairs ns := by
  simp [joinPairs, high, low]

theorem codePoints_hex {opening : Nat} {a b c d : Char} {n : Nat}
    (digits : hexNat? [a, b, c, d] = some n) {tail : List Char} (more : tail ≠ []) :
    codePoints opening ('\\' :: 'u' :: a :: b :: c :: d :: tail) =
      (codePoints opening tail).map fun p => (n :: p.1, p.2) := by
  obtain ⟨e, rest, rfl⟩ := List.exists_cons_of_ne_nil more
  rw [codePoints, digits]

theorem codePoints_unit {opening n : Nat} (bound : n < 16 ^ 4) {tail : List Char}
    (more : tail ≠ []) : codePoints opening (unitEscape n ++ tail) =
      (codePoints opening tail).map fun p => (n :: p.1, p.2) :=
  codePoints_hex (hexNat_hexText bound) more

theorem codePoints_letter {opening : Nat} {letter c : Char} (escaped : escaped? letter = some c)
    (tail : List Char) : codePoints opening ('\\' :: letter :: tail) =
      (codePoints opening tail).map fun p => (c.toNat :: p.1, p.2) := by
  -- No letter that stands for a character starts an escape with a number.
  have other : letter ≠ 'u' := by
    rintro rfl
    cases escaped
  rw [codePoints.eq_5 _ _ _ (fun _ _ _ _ _ _ h => absurd h other), if_neg other, escaped]

theorem codePoints_raw {opening : Nat} {c : Char} (quote : c ≠ '"') (slash : c ≠ '\\')
    (visible : 0x20 ≤ c.toNat) (tail : List Char) : codePoints opening (c :: tail) =
      (codePoints opening tail).map fun p => (c.toNat :: p.1, p.2) := by
  rw [codePoints.eq_6 _ _ _ quote (fun h => absurd h slash) (fun _ _ _ _ _ _ h => absurd h slash)
    (fun _ _ h => absurd h slash), if_neg (Nat.not_lt.mpr visible)]

theorem unescaped {c : Char} (plain : escape? c = none) :
    c ≠ '"' ∧ c ≠ '\\' ∧ 0x20 ≤ c.toNat := by
  have quote : c ≠ '"' := by rintro rfl; cases plain
  have slash : c ≠ '\\' := by rintro rfl; cases plain
  refine ⟨quote, slash, Nat.not_lt.mp fun low => ?_⟩
  simp only [escape?, low, if_true] at plain
  split_ifs at plain

theorem escape_letter {c : Char} {e : List Char} (h : escape? c = some e) :
    (∃ letter, e = ['\\', letter] ∧ escaped? letter = some c) ∨
      e = unitEscape c.toNat ∧ c.toNat < 0x20 := by
  unfold escape? at h
  split_ifs at h with quote slash line ret tab back feed control
  · cases h; exact .inl ⟨'"', rfl, by rw [quote]; rfl⟩
  · cases h; exact .inl ⟨'\\', rfl, by rw [slash]; rfl⟩
  · cases h; exact .inl ⟨'n', rfl, by rw [line]; rfl⟩
  · cases h; exact .inl ⟨'r', rfl, by rw [ret]; rfl⟩
  · cases h; exact .inl ⟨'t', rfl, by rw [tab]; rfl⟩
  · cases h; exact .inl ⟨'b', rfl, by rw [back]; rfl⟩
  · cases h; exact .inl ⟨'f', rfl, by rw [feed]; rfl⟩
  · cases h; exact .inr ⟨rfl, control⟩

theorem codePoints_escape {opening : Nat} {c : Char} {e : List Char} (h : escape? c = some e)
    {tail : List Char} (more : tail ≠ []) : codePoints opening (e ++ tail) =
      (codePoints opening tail).map fun p => (c.toNat :: p.1, p.2) := by
  rcases escape_letter h with ⟨letter, rfl, escaped⟩ | ⟨rfl, low⟩
  · exact codePoints_letter escaped tail
  · exact codePoints_unit (by omega) more

theorem rawChar_readable : Readable rawChar := by
  intro opening c tail more
  refine ⟨c.toNat, [], ?_, joinPairs_toNat c, toNat_not_low c⟩
  cases h : escape? c with
  | none =>
    obtain ⟨quote, slash, visible⟩ := unescaped h
    simpa [rawChar, h] using codePoints_raw quote slash visible tail
  | some e => simpa [rawChar, h] using codePoints_escape h more

theorem joinPairs_half (h : Half) {ns : List Nat}
    (apart : ∀ n, ns.head? = some n → ¬ (Utf16.isHigh h.code = true ∧ Utf16.isLow n = true)) :
    joinPairs (h.code :: ns) = .half h :: joinPairs ns := by
  have point : Point.ofCode h.code = .half h := Point.ofCode_code (.half h)
  cases ns with
  | nil => simp [joinPairs, point]
  | cons n ns => simp [joinPairs, point, apart n rfl]

theorem half_bound (h : Half) : h.code < 16 ^ 4 := by
  have small := h.offset.isLt
  simp only [Half.code]
  omega

theorem codePoints_readable {spell : Char → List Char} (readable : Readable spell) (opening : Nat)
    (rest : List Char) {ps : List Point} (apart : ps.IsChain fun p q => ¬ IsPair p q) :
    ∃ ns, joinPairs ns = ps ∧
      (∀ n, ns.head? = some n → Utf16.isLow n = true →
        ∃ p, ps.head? = some p ∧ Utf16.isLow p.code = true) ∧
      codePoints opening (ps.flatMap (spellPoint spell) ++ '"' :: rest) = .ok (ns, rest) := by
  induction ps with
  | nil => exact ⟨[], rfl, nofun, by simp [codePoints]⟩
  | cons p ps ih =>
    obtain ⟨ns, joined, low, read⟩ := ih apart.of_cons
    have more : ps.flatMap (spellPoint spell) ++ '"' :: rest ≠ [] := by simp
    rw [List.flatMap_cons, List.append_assoc]
    cases p with
    | char c =>
      obtain ⟨n, units, head, join, high⟩ := readable opening c _ more
      refine ⟨n :: units ++ ns, by rw [join, joined], ?_, by rw [spellPoint, head, read]; rfl⟩
      rintro _ ⟨⟩ half
      exact absurd half (Bool.eq_false_iff.mp high)
    | half h =>
      refine ⟨h.code :: ns, ?_, ?_, ?_⟩
      · rw [joinPairs_half h, joined]
        rintro n first ⟨front, back⟩
        obtain ⟨q, next, second⟩ := low n first back
        exact apart.rel_head? next ⟨front, second⟩
      · rintro _ ⟨⟩ half
        exact ⟨_, rfl, half⟩
      · rw [spellPoint, codePoints_unit (half_bound h) more, read]
        rfl

theorem string_readable {spell : Char → List Char} (readable : Readable spell) (opening : Nat)
    {t : Text} (joined : t.Joined) (rest : List Char) :
    string opening (t.points.flatMap (spellPoint spell) ++ '"' :: rest) = .ok (t, rest) := by
  obtain ⟨ns, same, _, read⟩ := codePoints_readable readable opening rest joined
  rw [string, read]
  simp [Except.map, same]

theorem ofCode_high (n : Nat) : Utf16.isHigh (Point.ofCode n).code = Utf16.isHigh n := by
  unfold Point.ofCode
  split
  · rename_i half
    simp only [Point.code, Half.code, Nat.add_sub_cancel' half.1]
  · rename_i other
    rw [Point.code, toNat_not_high, eq_comm]
    simp only [Utf16.isHigh, Bool.and_eq_false_iff, decide_eq_false_iff_not]
    omega

theorem ofCode_low (n : Nat) : Utf16.isLow (Point.ofCode n).code = Utf16.isLow n := by
  unfold Point.ofCode
  split
  · rename_i half
    simp only [Point.code, Half.code, Nat.add_sub_cancel' half.1]
  · rename_i other
    rw [Point.code, toNat_not_low, eq_comm]
    simp only [Utf16.isLow, Bool.and_eq_false_iff, decide_eq_false_iff_not]
    omega

theorem joinPairs_low {n : Nat} {ns : List Nat} {p : Point}
    (first : (joinPairs (n :: ns)).head? = some p) (low : Utf16.isLow p.code = true) :
    Utf16.isLow n = true := by
  cases ns with
  | nil =>
    cases first
    exact (ofCode_low n).symm.trans low
  | cons m ns =>
    rw [joinPairs] at first
    split at first
    · cases first
      exact absurd low (Bool.eq_false_iff.mp (toNat_not_low _))
    · cases first
      exact (ofCode_low n).symm.trans low

theorem joinPairs_apart (ns : List Nat) : (joinPairs ns).IsChain fun p q => ¬ IsPair p q := by
  fun_induction joinPairs ns with
  | case1 => exact .nil
  | case2 n => exact .singleton _
  | case3 m n ns pair ih =>
    refine List.isChain_cons.mpr ⟨fun q _ both => ?_, ih⟩
    exact absurd both.1 (Bool.eq_false_iff.mp (toNat_not_high _))
  | case4 m n ns apart ih =>
    refine List.isChain_cons.mpr ⟨fun q first both => apart ?_, ih⟩
    rw [Bool.and_eq_true]
    exact ⟨(ofCode_high m).symm.trans both.1, joinPairs_low first both.2⟩

end Json
end Columnar
