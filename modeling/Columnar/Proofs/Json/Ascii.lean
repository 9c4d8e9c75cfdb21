import Columnar.Proofs.Json.Visible

namespace Columnar

namespace Text

theorem hexDigit_printable : ∀ d < 16, 0x20 ≤ (hexDigit d).toNat ∧ (hexDigit d).toNat < 0x7F := by
  decide

end Text

namespace Json
open Text

theorem halves {n : Nat} (wide : 0x10000 ≤ n) (bound : n < 0x110000) :
    Utf16.isHigh (0xD800 + (n - 0x10000) / 0x400) = true ∧
      Utf16.isLow (0xDC00 + (n - 0x10000) % 0x400) = true ∧
      Utf16.joined (0xD800 + (n - 0x10000) / 0x400) (0xDC00 + (n - 0x10000) % 0x400) = n := by
  -- Only unfolded: closing by computation would count the literals down one by one.
  refine ⟨?_, ?_, by unfold Utf16.joined; omega⟩
  · simp only [Utf16.isHigh, Bool.and_eq_true, decide_eq_true_eq]
    omega
  · simp only [Utf16.isLow, Bool.and_eq_true, decide_eq_true_eq]
    omega

theorem asciiChar_readable : Readable asciiChar := by
  intro opening c tail more
  cases h : escape? c with
  | some e =>
    refine ⟨c.toNat, [], ?_, joinPairs_toNat c, toNat_not_low c⟩
    simpa [asciiChar, h] using codePoints_escape h more
  | none =>
    by_cases printable : c.toNat < 0x7F
    · obtain ⟨quote, slash, visible⟩ := unescaped h
      refine ⟨c.toNat, [], ?_, joinPairs_toNat c, toNat_not_low c⟩
      simpa [asciiChar, h, printable] using codePoints_raw quote slash visible tail
    · by_cases narrow : c.toNat < 0x10000
      · refine ⟨c.toNat, [], ?_, joinPairs_toNat c, toNat_not_low c⟩
        simpa [asciiChar, h, printable, narrow] using codePoints_unit narrow more
      · obtain ⟨high, low, joined⟩ := halves (Nat.not_lt.mp narrow) (toNat_bound c)
        refine ⟨0xD800 + (c.toNat - 0x10000) / 0x400,
          [0xDC00 + (c.toNat - 0x10000) % 0x400], ?_, ?_, ?_⟩
        · have units : asciiChar c = unitEscape (0xD800 + (c.toNat - 0x10000) / 0x400) ++
              unitEscape (0xDC00 + (c.toNat - 0x10000) % 0x400) := by
            simp [asciiChar, h, printable, narrow]
          have bound := toNat_bound c
          rw [units, List.append_assoc, codePoints_unit (by omega) (by simp [unitEscape]),
            codePoints_unit (by omega) more]
          cases codePoints opening tail <;> rfl
        · intro ns
          rw [List.cons_append, List.singleton_append, joinPairs_pair high low, joined,
            Char.ofNat_toNat]
        · simp only [Utf16.isHigh, Bool.and_eq_true, decide_eq_true_eq] at high
          simp only [Utf16.isLow, Bool.and_eq_false_iff, decide_eq_false_iff_not]
          omega

def Printable (cs : List Char) : Prop := ∀ c ∈ cs, 0x20 ≤ c.toNat ∧ c.toNat < 0x7F

theorem unitEscape_printable (n : Nat) : Printable (unitEscape n) := by
  intro c hc
  rw [unitEscape, List.mem_cons, List.mem_cons] at hc
  rcases hc with rfl | rfl | hc
  · decide
  · decide
  · obtain ⟨d, bound, rfl⟩ := hexText_digits 4 n c hc
    exact hexDigit_printable d bound

theorem asciiChar_printable (c : Char) : Printable (asciiChar c) := by
  unfold asciiChar
  split
  · rename_i e escape
    rcases escape_letter escape with ⟨letter, rfl, escaped⟩ | ⟨rfl, _⟩
    · have slash : 0x20 ≤ '\\'.toNat ∧ '\\'.toNat < 0x7F := by decide
      simpa [Printable, slash] using escaped_printable escaped
    · exact unitEscape_printable _
  · rename_i plain
    dsimp only
    split
    · rename_i below
      simpa [Printable] using ⟨(unescaped plain).2.2, below⟩
    · split
      · exact unitEscape_printable _
      · exact List.forall_mem_append.mpr ⟨unitEscape_printable _, unitEscape_printable _⟩

theorem quoteAscii_printable (t : Text) : Printable (quoteAscii t) := by
  have quote : 0x20 ≤ '"'.toNat ∧ '"'.toNat < 0x7F := by decide
  have body : Printable (t.points.flatMap (spellPoint asciiChar)) := by
    intro c hc
    obtain ⟨p, _, spelled⟩ := List.mem_flatMap.mp hc
    cases p with
    | char d => exact asciiChar_printable d c spelled
    | half h => exact unitEscape_printable _ c spelled
  unfold quoteAscii quoteWith
  exact List.forall_mem_cons.mpr ⟨quote, List.forall_mem_append.mpr
    ⟨body, List.forall_mem_singleton.mpr quote⟩⟩

end Json
end Columnar
