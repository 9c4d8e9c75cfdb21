import Columnar.Proofs.Insertion
import Columnar.Proofs.Json.Remains
import Columnar.Proofs.Json.Spelled
import Mathlib

namespace Columnar.Json
open Text Value

theorem digit_value {c : Char} (digit : c.isDigit = true) : c.toNat - '0'.toNat < 10 := by
  simp only [Char.isDigit, Bool.and_eq_true, decide_eq_true_eq] at digit
  have upper : c.toNat ≤ 57 := digit.2
  have zero : '0'.toNat = 48 := rfl
  omega

theorem natOf_lt {ds : List Char} (digits : ∀ c ∈ ds, c.isDigit = true) :
    Numeral.natOf ds < 10 ^ ds.length := by
  induction ds using List.reverseRecOn with
  | nil => exact Nat.one_pos
  | append_singleton ds d ih =>
    have front := ih fun c member => digits c (List.mem_append_left _ member)
    have last := digit_value (digits d (by simp))
    have value : Numeral.natOf (ds ++ [d]) = 10 * Numeral.natOf ds + (d.toNat - '0'.toNat) := by
      simp only [Numeral.natOf, Nat.ofDigitChars_append, Nat.ofDigitChars_cons,
        Nat.ofDigitChars_nil]
    rw [value, List.length_append, List.length_singleton, Nat.pow_succ]
    omega

theorem toInt_legible {n : Numeral} (digits : ∀ c ∈ n.whole, c.isDigit = true)
    (short : n.whole.length ≤ maxDigits) : Legible (.int n.toInt) := by
  have size : n.toInt.natAbs = Numeral.natOf n.whole := by
    rw [Numeral.toInt]
    split <;> simp
  rw [Legible, size, Nat.length_toDigits_le_iff (by decide) (by decide)]
  exact (natOf_lt digits).trans_le (Nat.pow_le_pow_right (by decide) short)

def Gives {α : Type} (p : α → Prop) : Reading α → Prop
  | .ok (a, _) => p a
  | .error _ => True

theorem Gives.map {α β : Type} {p : α → Prop} {q : β → Prop} {r : Reading α} (gives : Gives p r)
    (f : α → β) (carries : ∀ a, p a → q (f a)) : Gives q (r.map fun x => (f x.1, x.2)) := by
  match r with
  | .ok (a, _) => exact carries a gives
  | .error _ => trivial

theorem number_gives (cs : List Char) : Gives (IsJson Legible) (number cs) := by
  unfold number
  split
  · trivial
  · rename_i n rest read
    split
    · split
      · trivial
      · rename_i short
        exact .scalar rfl (toInt_legible (scan_cut read).2.2 (Nat.le_of_not_lt short))
    · exact .scalar rfl trivial

def Members (es : Entries) : Prop := ∀ e ∈ es, e.1.isStr = true ∧ e.2.IsJson Legible

theorem members_object {es : Entries} (members : Members es) :
    (Value.object (Entries.ofList es)).IsJson Legible := by
  have kept := Entries.ofList_keeps (p := (isStr · = true)) (q := IsJson Legible) members
  have texts : ∀ e ∈ Entries.ofList es, e.1.isStr = true := fun e member => (kept e member).1
  exact .object (Entries.distinct_texts texts (Entries.ofList_distinct es)) fun e member =>
    (kept e member).2

section
variable {fuel : Nat} (items : ∀ cs, Gives (∀ v ∈ ·, IsJson Legible v) (elements fuel cs))
  (entries : ∀ cs, Gives Members (members fuel cs))
  (values : ∀ cs, Gives (IsJson Legible) (value fuel cs))

include items entries in
theorem value_gives (cs : List Char) : Gives (IsJson Legible) (value (fuel + 1) cs) := by
  unfold value
  split
  · rename_i rest
    cases string ('"' :: rest).length rest with
    | error => trivial
    | ok p => exact IsJson.scalar rfl trivial
  · split
    · exact .object Entries.named_nil (List.forall_mem_nil _)
    · exact (entries _).map _ fun _ => members_object
  · split
    · exact .list (List.forall_mem_nil _)
    · exact (items _).map _ fun _ => .list
  · exact .scalar rfl trivial
  · exact .scalar rfl trivial
  · exact .scalar rfl trivial
  · exact .scalar rfl trivial
  · exact .scalar rfl trivial
  · exact .scalar rfl trivial
  · exact number_gives cs

include items values in
theorem elements_gives (cs : List Char) :
    Gives (∀ v ∈ ·, IsJson Legible v) (elements (fuel + 1) cs) := by
  have first := values cs
  rw [elements]
  split
  · trivial
  · rename_i v rest read
    rw [read] at first
    split
    · exact List.forall_mem_singleton.mpr first
    · exact (items _).map _ fun vs others => List.forall_mem_cons.mpr ⟨first, others⟩
    · trivial

include entries values in
theorem members_gives (cs : List Char) : Gives Members (members (fuel + 1) cs) := by
  unfold members
  split
  · split
    · trivial
    · split
      · rename_i text _
        have under := values (skipBlanks text)
        split
        · trivial
        · rename_i v left read
          rw [read] at under
          split
          · exact List.forall_mem_singleton.mpr ⟨rfl, under⟩
          · exact (entries _).map _ fun es others => List.forall_mem_cons.mpr ⟨⟨rfl, under⟩, others⟩
          · trivial
      · trivial
  · trivial

end

theorem readers_give (fuel : Nat) : (∀ cs, Gives (IsJson Legible) (value fuel cs)) ∧
    (∀ cs, Gives (∀ v ∈ ·, IsJson Legible v) (elements fuel cs)) ∧
    ∀ cs, Gives Members (members fuel cs) := by
  induction fuel with
  | zero => exact ⟨fun _ => trivial, fun _ => trivial, fun _ => trivial⟩
  | succ fuel ih =>
    obtain ⟨values, items, entries⟩ := ih
    exact ⟨value_gives items entries, elements_gives items values, members_gives entries values⟩

/-- A text is read as a value if it starts with one and goes on with blanks only. -/
theorem read_ok {text : List Char} {v : Value} : Json.read text = .ok v ↔
    text.head? ≠ some '\uFEFF' ∧ ∃ rest,
      value (2 * text.length + 2) (skipBlanks text) = .ok (v, rest) ∧ skipBlanks rest = [] := by
  unfold Json.read
  split
  · rename_i mark
    simp [mark]
  · rename_i plain
    unfold document
    cases value (2 * text.length + 2) (skipBlanks text) with
    | error e => simp [Except.mapError]
    | ok p =>
      obtain ⟨w, rest⟩ := p
      cases behind : skipBlanks rest <;> simp [Except.mapError, stopAt, plain, behind]

theorem read_legible {text : List Char} {v : Value} (read : Json.read text = .ok v) :
    v.IsJson Legible := by
  obtain ⟨_, rest, first, _⟩ := read_ok.mp read
  have gives := (readers_give (2 * text.length + 2)).1 (skipBlanks text)
  rw [first] at gives
  exact gives

end Columnar.Json
