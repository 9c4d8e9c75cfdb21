import Columnar.Proofs.Binary64.Rounding
import Columnar.Proofs.Json.Scalars

/-! Finite floating-point numbers, read back from their digits. However the shortest decimal is laid
out, positionally or with an exponent, the numeral that is read stands for the same decimal, and
never for an integer. -/
namespace Columnar

namespace Text.Numeral

theorem natOf_append (xs ys : List Char) :
    natOf (xs ++ ys) = natOf xs * 10 ^ ys.length + natOf ys := by
  unfold natOf
  rw [Nat.ofDigitChars_append, Nat.ofDigitChars_eq_ofDigitChars_zero, Nat.mul_comm]

theorem natOf_zeros (n : Nat) : natOf (List.replicate n '0') = 0 := by
  unfold natOf
  rw [Nat.ofDigitChars_replicate_zero, Nat.mul_zero]

theorem natOf_zeros_append (n : Nat) (ds : List Char) :
    natOf (List.replicate n '0' ++ ds) = natOf ds := by
  rw [natOf_append, natOf_zeros, Nat.zero_mul, Nat.zero_add]

theorem natOf_append_zeros (ds : List Char) (n : Nat) :
    natOf (ds ++ List.replicate n '0') = natOf ds * 10 ^ n := by
  rw [natOf_append, natOf_zeros, Nat.add_zero, List.length_replicate]

theorem natOf_toDigits (n : Nat) : natOf (Nat.toDigits 10 n) = n := Nat.ofDigitChars_ten_toDigits

end Text.Numeral

namespace Json
open Text

theorem fraction_read {ds rest : List Char} (digits : ∀ c ∈ ds, c.isDigit = true) (some : ds ≠ [])
    (ends : ∀ c, rest.head? = .some c → c.isDigit = false) :
    Numeral.fraction? ('.' :: (ds ++ rest)) = (.some ds, rest) := by
  rw [Numeral.fraction?, digits_read digits some ends]

/-- An exponent shows its sign and two digits at least, the first of them perhaps a zero. -/
theorem exponentText_digits (e : Int) : ∃ ds : List Char,
    Binary64.exponentText e = (if e < 0 then '-' else '+') :: ds ∧
      (∀ c ∈ ds, c.isDigit = true) ∧ ds ≠ [] ∧ Numeral.natOf ds = e.natAbs := by
  have digits := toDigits_digits e.natAbs
  have value := Numeral.natOf_toDigits e.natAbs
  by_cases short : (Nat.toDigits 10 e.natAbs).length < 2
  · refine ⟨'0' :: Nat.toDigits 10 e.natAbs, ?_, ?_, by simp, ?_⟩
    · simp only [Binary64.exponentText, short, if_true]
    · exact List.forall_mem_cons.mpr ⟨rfl, digits⟩
    · exact (Numeral.natOf_zeros_append 1 _).trans value
  · refine ⟨Nat.toDigits 10 e.natAbs, ?_, digits, Nat.toDigits_ne_nil, value⟩
    simp only [Binary64.exponentText, short, if_false]

theorem exponent_read (e : Int) {rest : List Char}
    (ends : ∀ c, rest.head? = some c → c.isDigit = false) :
    Numeral.exponent? ('e' :: (Binary64.exponentText e ++ rest)) = (some e, rest) := by
  obtain ⟨ds, text, digits, nonempty, value⟩ := exponentText_digits e
  have read := digits_read digits nonempty ends
  rw [text]
  by_cases negative : e < 0
  · simp [negative, abs_of_neg, Numeral.exponent?, Numeral.signedDigits?, read, value]
  · have size : |e| = e := abs_of_nonneg (not_lt.mp negative)
    simp [negative, Numeral.exponent?, Numeral.signedDigits?, read, value, size]

/-- What a numeral is read as: the number of a decimal, and no integer. -/
def ReadsAs (negative : Bool) (text : List Char) (x : Binary64) : Prop :=
  ∀ rest, Stops rest → ∃ n : Numeral,
    Numeral.magnitude? negative (text ++ rest) = some (n, rest) ∧ n.isInteger = false ∧
      n.toBinary64 = x

section
variable {whole : List Char} (digits : ∀ c ∈ whole, c.isDigit = true)
  (lead : whole = ['0'] ∨ ∃ d tail, whole = d :: tail ∧ d ≠ '0') (negative : Bool)

include digits lead

theorem readsAs_fraction {fraction : List Char} (places : ∀ c ∈ fraction, c.isDigit = true)
    (some : fraction ≠ []) : ReadsAs negative (whole ++ '.' :: fraction)
      (.ofDecimal negative (Numeral.natOf (whole ++ fraction)) (-(fraction.length : Int))) := by
  intro rest stops
  have first : Numeral.whole? (whole ++ '.' :: (fraction ++ rest)) =
      .some (whole, '.' :: (fraction ++ rest)) :=
    whole_digits digits lead (by rintro c ⟨⟩; rfl)
  have second := fraction_read places some fun c head => (stops c head).1
  refine ⟨⟨negative, whole, .some fraction, none⟩, ?_, rfl, ?_⟩
  · simp [Numeral.magnitude?, first, second, exponent_none stops]
  · simp [Numeral.toBinary64]

theorem readsAs_exponent {fraction : List Char} (places : ∀ c ∈ fraction, c.isDigit = true)
    (e : Int) : ReadsAs negative
      (whole ++ (if fraction = [] then [] else '.' :: fraction) ++ 'e' :: Binary64.exponentText e)
      (.ofDecimal negative (Numeral.natOf (whole ++ fraction)) (e - fraction.length)) := by
  intro rest stops
  have third := exponent_read e fun c head => (stops c head).1
  by_cases none : fraction = []
  · have first : Numeral.whole? (whole ++ 'e' :: (Binary64.exponentText e ++ rest)) =
        some (whole, 'e' :: (Binary64.exponentText e ++ rest)) :=
      whole_digits digits lead (by rintro c ⟨⟩; rfl)
    refine ⟨⟨negative, whole, .none, some e⟩, ?_, rfl, ?_⟩
    · simp [none, Numeral.magnitude?, first, Numeral.fraction?, third]
    · simp [none, Numeral.toBinary64]
  · have first : Numeral.whole?
          (whole ++ '.' :: (fraction ++ 'e' :: (Binary64.exponentText e ++ rest))) =
        some (whole, '.' :: (fraction ++ 'e' :: (Binary64.exponentText e ++ rest))) :=
      whole_digits digits lead (by rintro c ⟨⟩; rfl)
    have second : Numeral.fraction?
          ('.' :: (fraction ++ 'e' :: (Binary64.exponentText e ++ rest))) =
        (some fraction, 'e' :: (Binary64.exponentText e ++ rest)) :=
      fraction_read places none (by rintro c ⟨⟩; rfl)
    refine ⟨⟨negative, whole, some fraction, some e⟩, ?_, rfl, ?_⟩
    · simp [none, Numeral.magnitude?, first, second, third]
    · simp [Numeral.toBinary64]

end

theorem zeros_digits (n : Nat) : ∀ c ∈ List.replicate n '0', c.isDigit = true := by
  intro c zero
  rw [List.eq_of_mem_replicate zero]
  rfl

section
variable {ds : List Char} (digits : ∀ c ∈ ds, c.isDigit = true) (negative : Bool)

include digits

theorem readsAs_below (nonempty : ds ≠ []) {e : Int} (below : e < 0) :
    ReadsAs negative ('0' :: '.' :: (List.replicate (e.natAbs - 1) '0' ++ ds))
      (.ofDecimal negative (Numeral.natOf ds) (e + 1 - ds.length)) := by
  have places : ∀ c ∈ List.replicate (e.natAbs - 1) '0' ++ ds, c.isDigit = true :=
    List.forall_mem_append.mpr ⟨zeros_digits _, digits⟩
  have read := readsAs_fraction (zeros_digits 1) (.inl rfl) negative places (by simp [nonempty])
  have exponent : -((List.replicate (e.natAbs - 1) '0' ++ ds).length : Int) =
      e + 1 - ds.length := by
    simp only [List.length_append, List.length_replicate]
    omega
  rw [Numeral.natOf_zeros_append, Numeral.natOf_zeros_append, exponent] at read
  exact read

theorem readsAs_among (lead : ∃ d tail, ds = d :: tail ∧ d ≠ '0') {n : Nat}
    (long : n + 1 < ds.length) :
    ReadsAs negative (ds.take (n + 1) ++ '.' :: ds.drop (n + 1))
      (.ofDecimal negative (Numeral.natOf ds) (n + 1 - ds.length)) := by
  obtain ⟨d, tail, rfl, nonzero⟩ := lead
  have more : (d :: tail).drop (n + 1) ≠ [] := List.ne_nil_of_length_pos (by
    rw [List.length_drop]
    omega)
  have read := readsAs_fraction (fun c member => digits c (List.mem_of_mem_take member))
    (.inr ⟨d, tail.take n, List.take_succ_cons, nonzero⟩) negative
    (fun c member => digits c (List.mem_of_mem_drop member)) more
  have exponent : -(((d :: tail).drop (n + 1)).length : Int) = n + 1 - (d :: tail).length := by
    rw [List.length_drop]
    omega
  rwa [List.take_append_drop, exponent] at read

theorem readsAs_filled {n : Nat} (lead : ds = ['0'] ∧ n = 0 ∨ ∃ d tail, ds = d :: tail ∧ d ≠ '0')
    (short : ds.length ≤ n + 1) :
    ReadsAs negative (ds ++ List.replicate (n + 1 - ds.length) '0' ++ ['.', '0'])
      (.ofDecimal negative (Numeral.natOf ds) (n + 1 - ds.length)) := by
  have whole : ds ++ List.replicate (n + 1 - ds.length) '0' = ['0'] ∨ ∃ d tail,
      ds ++ List.replicate (n + 1 - ds.length) '0' = d :: tail ∧ d ≠ '0' := by
    rcases lead with ⟨rfl, rfl⟩ | ⟨d, tail, rfl, nonzero⟩
    · exact .inl rfl
    · exact .inr ⟨d, _, List.cons_append, nonzero⟩
  have read := readsAs_fraction (List.forall_mem_append.mpr ⟨digits, zeros_digits _⟩) whole
    negative (zeros_digits 1) (by simp)
  have zeros : ds ++ List.replicate (n + 1 - ds.length) '0' ++ List.replicate 1 '0' =
      ds ++ List.replicate (n + 2 - ds.length) '0' := by
    rw [List.append_assoc, ← List.replicate_add]
    congr 2
    omega
  have exponent : -((List.replicate 1 '0').length : Int) + (n + 2 - ds.length : Nat) =
      n + 1 - ds.length := by
    rw [List.length_replicate]
    omega
  rwa [zeros, Numeral.natOf_append_zeros, Binary64.ofDecimal_zeros, exponent] at read

theorem place_readsAs {e : Int}
    (lead : ds = ['0'] ∧ e = 0 ∨ ∃ d tail, ds = d :: tail ∧ d ≠ '0') :
    ReadsAs negative (Binary64.place ds e)
      (.ofDecimal negative (Numeral.natOf ds) (e + 1 - ds.length)) := by
  have nonempty : ds ≠ [] := by
    rcases lead with ⟨rfl, _⟩ | ⟨d, tail, rfl, _⟩ <;> simp
  unfold Binary64.place
  split
  · split
    · -- Behind the point stand zeros up to the first digit.
      rename_i below
      exact readsAs_below digits negative nonempty below
    · rename_i above
      have place : (e.toNat : Int) = e := Int.toNat_of_nonneg (Int.not_lt.mp above)
      by_cases long : e.toNat + 1 < ds.length
      · -- The point stands among the digits.
        have first : ∃ d tail, ds = d :: tail ∧ d ≠ '0' := by
          refine lead.resolve_left ?_
          rintro ⟨rfl, rfl⟩
          simp at long
        have filled : e.toNat + 1 - (ds.take (e.toNat + 1)).length = 0 := by
          rw [List.length_take_of_le (Nat.le_of_lt long), Nat.sub_self]
        have more : ds.drop (e.toNat + 1) ≠ [] := by simpa using long
        have read := readsAs_among digits negative first long
        rw [place] at read
        simpa only [filled, List.replicate_zero, List.append_nil, List.isEmpty_iff, more, if_false]
          using read
      · -- Zeros fill up to the point, and one stands behind it.
        have short : ds.length ≤ e.toNat + 1 := Nat.le_of_not_lt long
        have whole : ds.take (e.toNat + 1) = ds := List.take_of_length_le short
        have none : ds.drop (e.toNat + 1) = [] := List.drop_eq_nil_of_le short
        have read := readsAs_filled digits negative
          (lead.imp_left fun single => ⟨single.1, by rw [single.2]; rfl⟩) short
        rw [place] at read
        simpa only [whole, none, List.isEmpty_nil, if_true] using read
  · -- One digit stands in front of the point; a zero never comes here.
    rename_i outside
    obtain ⟨d, tail, rfl, nonzero⟩ : ∃ d tail, ds = d :: tail ∧ d ≠ '0' := by
      refine lead.resolve_left ?_
      rintro ⟨rfl, rfl⟩
      exact outside (by decide)
    obtain ⟨digit, places⟩ := List.forall_mem_cons.mp digits
    have read := readsAs_exponent (List.forall_mem_singleton.mpr digit)
      (.inr ⟨d, [], rfl, nonzero⟩) negative places e
    have exponent : e - tail.length = e + 1 - ((d :: tail).length : Int) := by
      rw [List.length_cons]
      omega
    rw [exponent] at read
    simpa using read

end

theorem dropZeros (ds : List Char) : ∃ n,
    ds = (ds.reverse.dropWhile (· == '0')).reverse ++ List.replicate n '0' := by
  obtain ⟨n, taken⟩ : ∃ n, ds.reverse.takeWhile (· == '0') = List.replicate n '0' := by
    refine ⟨_, List.eq_replicate_iff.mpr ⟨rfl, fun c member => ?_⟩⟩
    simpa using List.mem_takeWhile_imp member
  have split := congrArg List.reverse
    (List.takeWhile_append_dropWhile (p := (· == '0')) (l := ds.reverse))
  rw [List.reverse_append, List.reverse_reverse, taken, List.reverse_replicate] at split
  exact ⟨n, split.symm⟩

/-- The digits that are shown and the place of the first one give back the decimal: the exponent
makes up for the zeros that are left out. -/
theorem scientific_value {d : Binary64.Decimal} {ds : List Char} {e : Int}
    (shown : Binary64.scientific d = (ds, e)) :
    (∀ c ∈ ds, c.isDigit = true) ∧ (ds = ['0'] ∧ e = 0 ∨ ∃ c tail, ds = c :: tail ∧ c ≠ '0') ∧
      ∀ negative, Binary64.ofDecimal negative (Numeral.natOf ds) (e + 1 - ds.length) =
        d.read negative := by
  obtain ⟨n, all⟩ := dropZeros (Nat.toDigits 10 d.digits)
  have value := Numeral.natOf_toDigits d.digits
  have digits := toDigits_digits d.digits
  by_cases zero : d.digits = 0
  · obtain ⟨rfl, rfl⟩ : ds = ['0'] ∧ e = 0 := by simpa [Binary64.scientific, zero] using shown.symm
    refine ⟨zeros_digits 1, .inl ⟨rfl, rfl⟩, fun negative => ?_⟩
    have none : Numeral.natOf ['0'] = 0 := Numeral.natOf_zeros 1
    simp only [Binary64.Decimal.read, Binary64.ofDecimal, none, zero, if_true]
  · obtain ⟨c, tail, first, nonzero⟩ := toDigits_positive (Nat.pos_of_ne_zero zero)
    simp only [Binary64.scientific] at shown
    generalize (((Nat.toDigits 10 d.digits).reverse.dropWhile (· == '0')).reverse) = kept
      at all shown
    rw [all] at value digits first shown
    rw [Numeral.natOf_append_zeros] at value
    cases kept with
    | nil =>
      rw [← value] at zero
      exact absurd (Nat.zero_mul _) zero
    | cons k ks =>
      simp only [List.isEmpty_cons, Bool.false_eq_true, if_false, Prod.mk.injEq] at shown
      obtain ⟨rfl, rfl⟩ := shown
      refine ⟨(List.forall_mem_append.mp digits).1, .inr ⟨k, ks, rfl, ?_⟩, fun negative => ?_⟩
      · rw [(List.cons.inj first).1]
        exact nonzero
      · have exponent : d.exponent + ((k :: ks) ++ List.replicate n '0').length - 1 + 1 -
            (k :: ks).length = d.exponent + n := by
          rw [List.length_append, List.length_replicate]
          omega
        rw [exponent, ← Binary64.ofDecimal_zeros, value]
        rfl

theorem magnitudeText_place {rank : Nat} {ds : List Char} {e : Int}
    (shown : Binary64.scientific (Binary64.shortest rank) = (ds, e)) :
    Binary64.magnitudeText rank = Binary64.place ds e := by
  -- The search for the shortest decimal is made a variable before anything is unfolded: to look into
  -- the pair that comes of it, the search would have to be run.
  have text : ∀ f : Nat → List Char, f = Binary64.magnitudeText → f rank = Binary64.place ds e := by
    delta Binary64.magnitudeText
    generalize Binary64.shortest = search at shown ⊢
    intro f known
    rw [known]
    beta_reduce
    rw [shown]
  exact text _ rfl

theorem magnitudeText_readsAs {rank : Nat} (bounded : rank < 2047 <<< 52) (negative : Bool) :
    ReadsAs negative (Binary64.magnitudeText rank) (.finite negative rank bounded) := by
  have same := Binary64.read_sign bounded (Binary64.shortest_read rank) negative
  rw [Binary64.ofRank, dif_pos bounded] at same
  cases shown : Binary64.scientific (Binary64.shortest rank) with
  | mk ds e =>
    obtain ⟨digits, lead, value⟩ := scientific_value shown
    have read := place_readsAs digits negative lead
    rwa [value, same, ← magnitudeText_place shown] at read

theorem magnitude_starts {negative : Bool} {cs : List Char} {p : Numeral × List Char}
    (read : Numeral.magnitude? negative cs = some p) :
    ∃ d tail, cs = d :: tail ∧ d.isDigit = true := by
  cases cs with
  | nil => cases read
  | cons d tail =>
    refine ⟨d, tail, rfl, ?_⟩
    by_contra other
    have zero : d ≠ '0' := by
      rintro rfl
      exact other rfl
    simp [Numeral.magnitude?, Numeral.whole?, Numeral.digits?, zero, other] at read

theorem scalarText_finite (negative : Bool) {rank : Nat} (bounded : rank < 2047 <<< 52) :
    scalarText compact (.float (.finite negative rank bounded)) =
      if negative then '-' :: Binary64.magnitudeText rank else Binary64.magnitudeText rank := by
  simp only [scalarText, floatText, Binary64.toChars]

theorem finite_readsBack (negative : Bool) {rank : Nat} (bounded : rank < 2047 <<< 52) :
    ReadsBack compact (.float (.finite negative rank bounded)) := by
  intro fuel rest stops
  obtain ⟨n, read, real, same⟩ := magnitudeText_readsAs bounded negative rest stops
  rw [scalarText_finite]
  generalize Binary64.magnitudeText rank = text at read ⊢
  obtain ⟨d, tail, shown, digit⟩ := magnitude_starts read
  cases negative with
  | true =>
    have scanned : Numeral.scan ('-' :: d :: tail) = some (n, rest) := by
      rw [← shown]
      exact read
    rw [if_pos rfl, List.cons_append, shown, (value_digits digit fuel tail).2, number, scanned]
    simp [real, same]
  | false =>
    have scanned : Numeral.scan (d :: tail) = some (n, rest) := by
      rw [← shown, Numeral.scan, read]
      rw [shown]
      rintro cs ⟨⟩
      cases digit
    rw [if_neg (by decide), shown, (value_digits digit fuel tail).1, number, scanned]
    simp [real, same]

end Json
end Columnar
