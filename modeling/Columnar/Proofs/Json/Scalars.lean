import Columnar.Proofs.Json.ReadBack

namespace Columnar

/-- A scalar that its text keeps: no floating-point number, and no integer too long to be read. -/
def Value.Exact : Value → Prop
  | .float _ => False
  | .int n => (Nat.toDigits 10 n.natAbs).length ≤ Json.maxDigits
  | _ => True

namespace Json

/-- In front of digits the reader is past every other kind of value. -/
theorem value_digits {d : Char} (digit : d.isDigit = true) (fuel : Nat) (cs : List Char) :
    value (fuel + 1) (d :: cs) = number (d :: cs) ∧
      value (fuel + 1) ('-' :: d :: cs) = number ('-' :: d :: cs) := by
  constructor
  · rw [value]
    all_goals
      rintro rest ⟨⟩
      cases digit
  · rw [value]
    all_goals rintro rest ⟨⟩ <;> cases digit

theorem int_readsBack {n : Int} (short : (Nat.toDigits 10 n.natAbs).length ≤ maxDigits) :
    ReadsBack compact (.int n) := by
  intro fuel rest stops
  have read := number_read short stops
  obtain ⟨d, ds, digits, digit⟩ := toDigits_head n.natAbs
  change value (fuel + 1) (intText n ++ rest) = _
  rw [← read]
  by_cases negative : n < 0
  · simp only [intText, negative, if_true, digits, List.cons_append]
    exact (value_digits digit fuel _).2
  · simp only [intText, negative, if_false, digits, List.cons_append]
    exact (value_digits digit fuel _).1

theorem str_readsBack {style : Style} (lawful : style.Lawful) {t : Text} (joined : t.Joined) :
    ReadsBack style (.str t) := by
  intro fuel rest _
  obtain ⟨body, spelled, key⟩ := lawful.string t joined
  change value (fuel + 1) (style.string t ++ rest) = _
  rw [spelled, List.cons_append, value, key]
  rfl

theorem exact_readsBack {v : Value} (kind : Document.isScalar v = true) (exact : v.Exact)
    (apart : v.isSplit = false) : ReadsBack compact v := by
  cases v with
  | null => intro fuel rest _; rfl
  | bool b => intro fuel rest _; cases b <;> rfl
  | int n => exact int_readsBack exact
  | float x => cases exact
  | str t => exact str_readsBack compact_lawful (by simpa [Value.isSplit] using apart)
  | _ => cases kind

theorem read_exact {v : Value} (json : v.IsJson Value.Exact) (whole : v.holdsHalf = false) :
    read (write compact v) = .ok v := by
  have apart := Value.apart_of_whole json whole
  exact read_write compact_lawful
    ((json.without apart).mono fun _ kind ok => exact_readsBack kind ok.1 ok.2) apart

end Json
end Columnar
