import Columnar.Json.Reader
import Columnar.Json.Writer

namespace Columnar.Json
open Text

def Stops (rest : List Char) : Prop :=
  ∀ c, rest.head? = some c → c.isDigit = false ∧ c ≠ '.' ∧ c ≠ 'e' ∧ c ≠ 'E'

theorem stops_nil : Stops [] := nofun

theorem toDigits_digits (n : Nat) : ∀ c ∈ Nat.toDigits 10 n, c.isDigit = true :=
  fun _ hc => Nat.isDigit_of_mem_toDigits (by decide) (by decide) hc

theorem digitChar_ne_zero : ∀ d < 10, 0 < d → d.digitChar ≠ '0' := by decide

theorem toDigits_positive {n : Nat} (positive : 0 < n) :
    ∃ d ds, Nat.toDigits 10 n = d :: ds ∧ d ≠ '0' := by
  induction n using Nat.strongRecOn with
  | ind n ih =>
    by_cases small : n < 10
    · exact ⟨n.digitChar, [], Nat.toDigits_of_lt_base small, digitChar_ne_zero n small positive⟩
    · obtain ⟨d, ds, digits, nonzero⟩ := ih (n / 10) (by omega) (by omega)
      refine ⟨d, ds ++ [(n % 10).digitChar], ?_, nonzero⟩
      rw [Nat.toDigits_of_base_le (by decide) (by omega), digits]
      rfl

theorem digits_read {ds rest : List Char} (digits : ∀ c ∈ ds, c.isDigit = true) (some : ds ≠ [])
    (ends : ∀ c, rest.head? = .some c → c.isDigit = false) :
    Numeral.digits? (ds ++ rest) = .some (ds, rest) := by
  have taken : (ds ++ rest).takeWhile Char.isDigit = ds := by
    rw [List.takeWhile_append_of_pos digits]
    cases rest with
    | nil => simp
    | cons c rest => simp [ends c rfl]
  have dropped : (ds ++ rest).dropWhile Char.isDigit = rest := by
    rw [List.dropWhile_append_of_pos digits]
    cases rest with
    | nil => rfl
    | cons c rest => simp [ends c rfl]
  simp only [Numeral.digits?, taken, dropped, List.isEmpty_iff, some, if_false]

theorem whole_digits {ds rest : List Char} (digits : ∀ c ∈ ds, c.isDigit = true)
    (lead : ds = ['0'] ∨ ∃ d tail, ds = d :: tail ∧ d ≠ '0')
    (ends : ∀ c, rest.head? = some c → c.isDigit = false) :
    Numeral.whole? (ds ++ rest) = some (ds, rest) := by
  rcases lead with rfl | ⟨d, tail, rfl, nonzero⟩
  · rfl
  · have read := digits_read digits (by simp) ends
    rw [List.cons_append] at read ⊢
    rw [Numeral.whole?, read]
    intro cs same
    exact nonzero (List.cons.inj same).1

theorem toDigits_lead (n : Nat) :
    Nat.toDigits 10 n = ['0'] ∨ ∃ d ds, Nat.toDigits 10 n = d :: ds ∧ d ≠ '0' := by
  rcases Nat.eq_zero_or_pos n with rfl | positive
  · exact .inl rfl
  · exact .inr (toDigits_positive positive)

theorem whole_read (n : Nat) {rest : List Char} (stops : Stops rest) :
    Numeral.whole? (Nat.toDigits 10 n ++ rest) = some (Nat.toDigits 10 n, rest) :=
  whole_digits (toDigits_digits n) (toDigits_lead n) fun c first => (stops c first).1

theorem fraction_none {rest : List Char} (stops : Stops rest) :
    Numeral.fraction? rest = (none, rest) := by
  cases rest with
  | nil => rfl
  | cons c rest =>
    rw [Numeral.fraction?]
    intro cs same
    exact (stops c rfl).2.1 (List.cons.inj same).1

theorem exponent_none {rest : List Char} (stops : Stops rest) :
    Numeral.exponent? rest = (none, rest) := by
  cases rest with
  | nil => rfl
  | cons c rest =>
    have letter := (stops c rfl).2.2
    simp [Numeral.exponent?, letter.1, letter.2]

theorem magnitude_read (negative : Bool) (n : Nat) {rest : List Char} (stops : Stops rest) :
    Numeral.magnitude? negative (Nat.toDigits 10 n ++ rest) =
      some (⟨negative, Nat.toDigits 10 n, none, none⟩, rest) := by
  simp [Numeral.magnitude?, whole_read n stops, fraction_none stops, exponent_none stops]

theorem toDigits_head (n : Nat) : ∃ d ds, Nat.toDigits 10 n = d :: ds ∧ d.isDigit = true := by
  obtain ⟨d, ds, digits⟩ := List.exists_cons_of_ne_nil (Nat.toDigits_ne_nil (b := 10) (n := n))
  exact ⟨d, ds, digits, toDigits_digits n d (by rw [digits]; exact List.mem_cons_self)⟩

theorem scan_read (n : Int) {rest : List Char} (stops : Stops rest) :
    Numeral.scan (intText n ++ rest) =
      some (⟨n < 0, Nat.toDigits 10 n.natAbs, none, none⟩, rest) := by
  by_cases negative : n < 0
  · simp [intText, negative, Numeral.scan, magnitude_read true n.natAbs stops]
  · obtain ⟨d, ds, digits, digit⟩ := toDigits_head n.natAbs
    have read := magnitude_read false n.natAbs stops
    simp only [intText, negative, if_false, decide_false]
    rw [digits, List.cons_append] at read ⊢
    rw [Numeral.scan, read]
    intro cs same
    rw [(List.cons.inj same).1] at digit
    cases digit

theorem number_read {n : Int} (short : (Nat.toDigits 10 n.natAbs).length ≤ maxDigits)
    {rest : List Char} (stops : Stops rest) : number (intText n ++ rest) = .ok (.int n, rest) := by
  have value : Numeral.toInt ⟨n < 0, Nat.toDigits 10 n.natAbs, none, none⟩ = n := by
    simp only [Numeral.toInt, Numeral.natOf, Nat.ofDigitChars_ten_toDigits]
    by_cases negative : n < 0
    · simp only [negative, decide_true, if_true]
      omega
    · simp only [negative, decide_false, Bool.false_eq_true, if_false]
      omega
  rw [number, scan_read n stops]
  simp only [Numeral.isInteger, Option.isNone_none, Bool.and_self, if_true, value,
    if_neg (Nat.not_lt.mpr short)]

end Columnar.Json
