import Columnar.Binary64.Text
import Mathlib

/-! Rounding as a function of the value. A ratio and every other spelling of it are rounded alike, a
number that needs no rounding stays as it is, and the shortcuts for decimals of extreme size give
what rounding would give. -/
namespace Columnar.Binary64

theorem roundDiv_mul_right (num den : Nat) {k : Nat} (positive : 0 < k) :
    roundDiv (num * k) (den * k) = roundDiv num den := by
  have quotient : num * k / (den * k) = num / den := Nat.mul_div_mul_right num den positive
  have remainder : num * k % (den * k) = num % den * k := Nat.mul_mod_mul_right k num den
  have twice : 2 * (num % den * k) = 2 * (num % den) * k := by ring
  have above : den * k < 2 * (num % den) * k ↔ den < 2 * (num % den) :=
    Nat.mul_lt_mul_right positive
  have half : den * k = 2 * (num % den) * k ↔ den = 2 * (num % den) :=
    Nat.mul_left_inj positive.ne'
  simp only [roundDiv, quotient, remainder, twice, above, half]

theorem roundDiv_exact (q : Nat) {den : Nat} (positive : 0 < den) : roundDiv (q * den) den = q := by
  have none : ¬ (den < 0 ∨ den = 0 ∧ q % 2 = 1) := by omega
  simp only [roundDiv, Nat.mul_div_cancel q positive, Nat.mul_mod_left, Nat.mul_zero, if_neg none]

theorem roundDiv_small {num den : Nat} (small : 2 * num < den) : roundDiv num den = 0 := by
  have quotient : num / den = 0 := Nat.div_eq_of_lt (by omega)
  have remainder : num % den = num := Nat.mod_eq_of_lt (by omega)
  have below : ¬ (den < 2 * num ∨ den = 2 * num ∧ 0 % 2 = 1) := by omega
  simp only [roundDiv, quotient, remainder, if_neg below]

theorem mul_shiftLeft (a k s : Nat) : (a * k) <<< s = a <<< s * k := by
  rw [Nat.shiftLeft_eq, Nat.shiftLeft_eq, Nat.mul_right_comm]

theorem nearestRank_mul_right (num den : Nat) {k : Nat} (positive : 0 < k) :
    nearestRank (num * k) (den * k) = nearestRank num den := by
  simp only [nearestRank, mul_shiftLeft, roundDiv_mul_right _ _ positive,
    Nat.mul_div_mul_right _ _ positive]

theorem nearestRank_congr {a b c d : Nat} (same : a * d = c * b) (left : 0 < b) (right : 0 < d) :
    nearestRank a b = nearestRank c d := by
  rw [← nearestRank_mul_right a b right, ← nearestRank_mul_right c d left, same, Nat.mul_comm b d]

theorem units_subnormal {rank : Nat} (small : rank < 1 <<< 52) : units rank = rank := by
  have bound : rank < 2 ^ 52 := by rwa [Nat.one_shiftLeft] at small
  have exponent : shift rank = 0 := by
    rw [shift, Nat.shiftRight_eq_div_pow, Nat.div_eq_of_lt bound]
  rw [units, significand, if_pos small, exponent, Nat.shiftLeft_zero]

/-- Above the subnormals the rank counts the exponent and the bits behind the leading one. -/
theorem rank_normal {rank : Nat} (normal : ¬ rank < 1 <<< 52) :
    rank = shift rank <<< 52 + significand rank ∧ 1 <<< 52 ≤ significand rank ∧
      significand rank < 1 <<< 53 := by
  rw [shift, significand, if_neg normal]
  simp only [Nat.shiftLeft_eq, Nat.shiftRight_eq_div_pow] at normal ⊢
  omega

theorem log2_units {rank : Nat} (normal : ¬ rank < 1 <<< 52) :
    Nat.log2 (units rank) = 52 + shift rank := by
  obtain ⟨_, least, bound⟩ := rank_normal normal
  rw [Nat.one_shiftLeft] at least bound
  have power : 0 < 2 ^ shift rank := Nat.two_pow_pos _
  have positive : significand rank * 2 ^ shift rank ≠ 0 := by
    have some : 0 < significand rank := Nat.lt_of_lt_of_le (Nat.two_pow_pos 52) least
    exact (Nat.mul_pos some power).ne'
  have next : 52 + shift rank + 1 = 53 + shift rank := by omega
  rw [units, Nat.shiftLeft_eq, Nat.log2_eq_iff positive, next, Nat.pow_add, Nat.pow_add]
  exact ⟨Nat.mul_le_mul_right _ least, Nat.mul_lt_mul_of_pos_right bound power⟩

theorem nearestRank_units (rank : Nat) {num den : Nat} (positive : 0 < den)
    (value : num <<< 1074 = units rank * den) : nearestRank num den = rank := by
  have quotient : units rank * den / den = units rank := Nat.mul_div_cancel _ positive
  simp only [nearestRank, value, quotient]
  by_cases small : rank < 1 <<< 52
  · have low : Nat.log2 rank - 52 = 0 := by
      have bound : rank < 2 ^ 53 := by
        rw [Nat.one_shiftLeft] at small
        omega
      have log : Nat.log2 rank < 53 := by
        by_cases zero : rank = 0
        · simp [zero]
        · exact (Nat.log2_lt zero).mpr bound
      omega
    rw [units_subnormal small, low, Nat.zero_shiftLeft, Nat.shiftLeft_zero,
      roundDiv_exact rank positive, Nat.zero_add]
  · obtain ⟨split, _, _⟩ := rank_normal small
    have exponent : 52 + shift rank - 52 = shift rank := by omega
    have both : units rank * den = significand rank * (den <<< shift rank) := by
      rw [units, Nat.shiftLeft_eq, Nat.shiftLeft_eq]
      ring
    have divisor : 0 < den <<< shift rank := by
      rw [Nat.shiftLeft_eq]
      exact Nat.mul_pos positive (Nat.two_pow_pos _)
    rw [log2_units small, exponent, both, roundDiv_exact _ divisor, ← split]

theorem nearestRank_large {num e : Nat} (large : 2 ^ e ≤ num) :
    (e + 1074 - 52) <<< 52 ≤ nearestRank num 1 := by
  have scaled : 2 ^ (e + 1074) ≤ num <<< 1074 := by
    rw [Nat.pow_add, Nat.shiftLeft_eq]
    exact Nat.mul_le_mul_right _ large
  have log : e + 1074 ≤ Nat.log2 (num <<< 1074) :=
    (Nat.le_log2 (Nat.lt_of_lt_of_le (Nat.two_pow_pos _) scaled).ne').mpr scaled
  have carried : (e + 1074 - 52) <<< 52 ≤ (Nat.log2 (num <<< 1074) - 52) <<< 52 := by
    rw [Nat.shiftLeft_eq, Nat.shiftLeft_eq]
    exact Nat.mul_le_mul_right _ (Nat.sub_le_sub_right log 52)
  simp only [nearestRank, Nat.div_one]
  exact Nat.le_add_right_of_le carried

theorem nearestRank_tiny {num den : Nat} (small : 2 * num <<< 1074 < den) :
    nearestRank num den = 0 := by
  have quotient : num <<< 1074 / den = 0 := Nat.div_eq_of_lt (by omega)
  have exponent : Nat.log2 0 - 52 = 0 := by simp
  simp only [nearestRank, quotient, exponent, Nat.shiftLeft_zero, Nat.zero_shiftLeft,
    roundDiv_small small]

theorem twice_shiftLeft_lt {n bits : Nat} (bound : n < 2 ^ bits) (s : Nat) :
    2 * n <<< s < 2 ^ (bits + s + 1) := by
  rw [Nat.shiftLeft_eq, Nat.pow_succ, Nat.pow_add, Nat.mul_comm]
  gcongr

theorem two_pow_le (n : Nat) : 2 ^ (3 * n) ≤ 10 ^ n := by
  rw [Nat.pow_mul]
  exact Nat.pow_le_pow_left (by decide) n

/-- Where the reader of decimals stops early, it gives what rounding the whole ratio would give. -/
theorem ofDecimal_eq (negative : Bool) (digits : Nat) (exponent : Int) :
    ofDecimal negative digits exponent =
      ofRatio negative (digits * 10 ^ exponent.toNat) (10 ^ (-exponent).toNat) := by
  unfold ofDecimal
  split_ifs with zero huge tiny whole
  · have small : 2 * 0 <<< 1074 < 10 ^ (-exponent).toNat := by
      rw [Nat.zero_shiftLeft]
      positivity
    rw [zero, Nat.zero_mul, ofRatio, nearestRank_tiny small]
  · have unit : (-exponent).toNat = 0 := by omega
    have large : 2 ^ (3 * exponent.toNat) ≤ digits * 10 ^ exponent.toNat :=
      (two_pow_le _).trans (Nat.le_mul_of_pos_left _ (Nat.pos_of_ne_zero zero))
    have above : 2047 <<< 52 ≤ (3 * exponent.toNat + 1074 - 52) <<< 52 := by
      rw [Nat.shiftLeft_eq, Nat.shiftLeft_eq]
      exact Nat.mul_le_mul_right _ (by omega)
    rw [unit, Nat.pow_zero, ofRatio, ofRank,
      dif_neg (Nat.not_lt.mpr (above.trans (nearestRank_large large)))]
  · have whole : exponent.toNat = 0 := by omega
    have bits : 2 * digits <<< 1074 < 2 ^ (Nat.log2 digits + 1 + 1074 + 1) :=
      twice_shiftLeft_lt Nat.lt_log2_self 1074
    have room : Nat.log2 digits + 1 + 1074 + 1 ≤ 3 * (-exponent).toNat := by omega
    have small : 2 * digits <<< 1074 < 10 ^ (-exponent).toNat :=
      bits.trans_le ((Nat.pow_le_pow_right (by decide) room).trans (two_pow_le _))
    rw [whole, Nat.pow_zero, Nat.mul_one, ofRatio, nearestRank_tiny small]
  · have unit : (-exponent).toNat = 0 := by omega
    rw [unit, Nat.pow_zero, Nat.pow_eq]
  · have none : exponent.toNat = 0 := by omega
    rw [none, Nat.pow_zero, Nat.mul_one, Nat.pow_eq]

theorem ofDecimal_congr (negative : Bool) {d d' : Nat} {e e' : Int}
    (same : d * 10 ^ e.toNat * 10 ^ (-e').toNat = d' * 10 ^ e'.toNat * 10 ^ (-e).toNat) :
    ofDecimal negative d e = ofDecimal negative d' e' := by
  rw [ofDecimal_eq, ofDecimal_eq, ofRatio, ofRatio,
    nearestRank_congr same (by positivity) (by positivity)]

theorem ofDecimal_zeros (negative : Bool) (digits zeros : Nat) (exponent : Int) :
    ofDecimal negative (digits * 10 ^ zeros) exponent =
      ofDecimal negative digits (exponent + zeros) := by
  apply ofDecimal_congr
  have exponents : zeros + exponent.toNat + (-(exponent + zeros)).toNat =
      (exponent + zeros).toNat + (-exponent).toNat := by omega
  calc digits * 10 ^ zeros * 10 ^ exponent.toNat * 10 ^ (-(exponent + zeros)).toNat
      = digits * 10 ^ (zeros + exponent.toNat + (-(exponent + zeros)).toNat) := by ring
    _ = digits * 10 ^ (exponent + zeros).toNat * 10 ^ (-exponent).toNat := by
      rw [exponents]
      ring

theorem five_pow_shiftLeft (a n : Nat) : (a * 5 ^ n) <<< n = a * 10 ^ n := by
  rw [Nat.shiftLeft_eq, Nat.mul_assoc, ← Nat.mul_pow]

theorem exactDecimal_read (negative : Bool) (rank : Nat) :
    (exactDecimal rank).read negative = ofRank negative rank := by
  -- The number of places stays a variable, so that no power of it is taken.
  have expansion : ∀ n : Nat, n = 1074 →
      ofDecimal negative (units rank * Nat.pow 5 n) (-(n : Int)) = ofRank negative rank := by
    intro n known
    have places : (- -(n : Int)).toNat = n := by omega
    have whole : (-(n : Int)).toNat = 0 := by omega
    have value := five_pow_shiftLeft (units rank) n
    rw [ofDecimal_eq, ofRatio, places, whole, Nat.pow_zero, Nat.mul_one, Nat.pow_eq,
      nearestRank_units rank (by positivity) (by rw [← known, value])]
  unfold Decimal.read exactDecimal
  apply expansion
  rfl

theorem search_read (exact : Decimal) (width rank count tries : Nat)
    (fallback : exact.read false = ofRank false rank) :
    (search exact width rank count tries).read false = ofRank false rank := by
  induction tries generalizing count with
  | zero => exact fallback
  | succ tries ih =>
    rw [search]
    split
    · rename_i d found
      simpa using List.find?_some found
    · exact ih (count + 1)

theorem shortest_read (rank : Nat) : (shortest rank).read false = ofRank false rank := by
  unfold shortest
  exact search_read _ _ rank 1 17 (exactDecimal_read false rank)

theorem read_sign {d : Decimal} {rank : Nat} (bounded : rank < 2047 <<< 52)
    (read : d.read false = ofRank false rank) (negative : Bool) :
    d.read negative = ofRank negative rank := by
  rw [Decimal.read, ofDecimal_eq, ofRatio] at read ⊢
  generalize nearestRank _ _ = m at read ⊢
  have same : m = rank := by
    simp only [ofRank, dif_pos bounded] at read
    split at read
    · exact (Binary64.finite.inj read).2
    · cases read
  rw [same]

end Columnar.Binary64
