import Columnar.Proofs.Json.Scalars
import Columnar.Text.Characters

namespace Columnar

namespace Text

theorem unifyNewlines_none {cs : List Char} (none : '\r' ∉ cs) : unifyNewlines cs = cs := by
  induction cs with
  | nil => rfl
  | cons c cs ih =>
    obtain ⟨other, rest⟩ := List.ne_and_not_mem_of_not_mem_cons none
    rw [unifyNewlines, ih rest]
    · rintro _ rfl
      exact absurd rfl other
    · rintro rfl
      exact absurd rfl other

theorem hexDigit_visible : ∀ d < 16, 0x20 ≤ (hexDigit d).toNat := by decide

theorem hexText_visible (width n : Nat) : ∀ c ∈ hexText width n, 0x20 ≤ c.toNat := by
  intro c hc
  obtain ⟨d, bound, rfl⟩ := hexText_digits width n c hc
  exact hexDigit_visible d bound

end Text

namespace Json
open Text

def Visible (cs : List Char) : Prop := ∀ c ∈ cs, 0x20 ≤ c.toNat

@[simp] theorem visible_nil : Visible [] := nofun

@[simp] theorem visible_cons {c : Char} {cs : List Char} :
    Visible (c :: cs) ↔ 0x20 ≤ c.toNat ∧ Visible cs := List.forall_mem_cons

@[simp] theorem visible_append {cs ds : List Char} :
    Visible (cs ++ ds) ↔ Visible cs ∧ Visible ds := List.forall_mem_append

theorem visible_unify {cs : List Char} (visible : Visible cs) : unifyNewlines cs = cs := by
  apply unifyNewlines_none
  intro ret
  exact absurd (visible _ ret) (by decide)

theorem escaped_printable {letter c : Char} (escaped : escaped? letter = some c) :
    0x20 ≤ letter.toNat ∧ letter.toNat < 0x7F := by
  unfold escaped? at escaped
  split at escaped
  all_goals first | cases escaped; done | decide

theorem unitEscape_visible (n : Nat) : Visible (unitEscape n) := by
  have digits : Visible (hexText 4 n) := hexText_visible 4 n
  simp [unitEscape, digits]

theorem rawChar_visible (c : Char) : Visible (rawChar c) := by
  cases h : escape? c with
  | none => simpa [rawChar, h, Visible] using (unescaped h).2.2
  | some e =>
    rw [rawChar, h, Option.getD_some]
    rcases escape_letter h with ⟨letter, rfl, escaped⟩ | ⟨rfl, _⟩
    · simp [(escaped_printable escaped).1]
    · exact unitEscape_visible _

theorem quote_visible (t : Text) : Visible (quote t) := by
  have body : Visible (t.points.flatMap (spellPoint rawChar)) := by
    intro c hc
    obtain ⟨p, _, spelled⟩ := List.mem_flatMap.mp hc
    cases p with
    | char d => exact rawChar_visible d c spelled
    | half h => exact unitEscape_visible _ c spelled
  simpa [quote, quoteWith] using body

theorem toDigits_visible (n : Nat) : Visible (Nat.toDigits 10 n) := by
  intro c hc
  have digit := toDigits_digits n c hc
  simp only [Char.isDigit, Bool.and_eq_true, decide_eq_true_eq] at digit
  exact Nat.le_trans (by decide : 0x20 ≤ 0x30) digit.1

theorem exact_visible {v : Value} (kind : Document.isScalar v = true) (exact : v.Exact) :
    Visible (scalarText compact v) := by
  cases v with
  | null => simp [scalarText, compact, Names.same]
  | bool b => cases b <;> simp [scalarText, boolText]
  | int n =>
    change Visible (intText n)
    unfold intText
    split
    · simpa using toDigits_visible n.natAbs
    · exact toDigits_visible n.natAbs
  | float x => cases exact
  | str s => exact quote_visible s
  | _ => cases kind

theorem writeItems_all {p : Char → Prop} {style : Style} (comma : ∀ c ∈ style.comma, p c)
    {vs : List Value} (each : ∀ v ∈ vs, ∀ c ∈ write style v, p c) :
    ∀ c ∈ writeItems style vs, p c := by
  induction vs with
  | nil => nofun
  | cons v vs ih =>
    have first := each v List.mem_cons_self
    have others := ih fun w hw => each w (List.mem_cons_of_mem _ hw)
    cases vs with
    | nil => exact first
    | cons w ws =>
      rw [writeItems]
      exact List.forall_mem_append.mpr ⟨List.forall_mem_append.mpr ⟨first, comma⟩, others⟩

theorem entries_visible {es : Entries} (each : ∀ e ∈ es, Visible (write compact e.2)) :
    Visible (writeEntries compact es) := by
  induction es with
  | nil => nofun
  | cons e es ih =>
    obtain ⟨k, v⟩ := e
    have first := each (k, v) List.mem_cons_self
    have others := ih fun f hf => each f (List.mem_cons_of_mem _ hf)
    have key : Visible (compact.string (keyName compact k)) := quote_visible _
    have marks : Visible compact.colon ∧ Visible compact.comma := by simp [compact]
    cases es with
    | nil => simp [writeEntries, key, marks, first]
    | cons f fs => simp [writeEntries, key, marks, first, others]

/-- No document shows a control character, whatever its texts hold. -/
theorem write_visible {v : Value} (json : v.IsJson Value.Exact) : Visible (write compact v) := by
  induction json with
  | scalar kind exact =>
    rw [write_scalar kind]
    exact exact_visible kind exact
  | list _ ih =>
    have items : Visible (writeItems compact _) := writeItems_all (by simp [compact]) ih
    simpa [write] using items
  | object _ _ ih =>
    simpa [write] using entries_visible ih

end Json
end Columnar
