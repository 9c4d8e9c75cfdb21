import Columnar.Proofs.Tables
import Columnar.Proofs.Titles

namespace Columnar.Schema
open Titles Value

theorem defaultTitle_toList (i : Nat) :
    (defaultTitle i).toList = 'c' :: 'o' :: 'l' :: '_' :: Nat.toDigits 10 i := by
  have digits : (toString i).toList = Nat.toDigits 10 i := String.toList_ofList
  have whole : defaultTitle i = "col_" ++ toString i := rfl
  rw [whole, String.toList_append, digits]
  rfl

theorem defaultTitle_name (i : Nat) : IsMachineName (defaultTitle i) := by
  refine ⟨_, _, congrArg (List.map Point.char) (defaultTitle_toList i), .inl rfl, ?_⟩
  have digits : ∀ d ∈ Nat.toDigits 10 i, d.isAlphanum = true := by
    intro d hd
    simp [Char.isAlphanum, Nat.isDigit_of_mem_toDigits (by decide) (by decide) hd]
  simp only [List.forall_mem_cons]
  exact ⟨by decide, by decide, by decide, fun d hd => .inl (digits d hd)⟩

theorem defaultTitle_inj {i j : Nat} (same : defaultTitle i = defaultTitle j) : i = j := by
  have digits := congrArg String.toList same
  rw [defaultTitle_toList, defaultTitle_toList] at digits
  simp only [List.cons.injEq, true_and] at digits
  calc
    i = Nat.ofDigitChars 10 (Nat.toDigits 10 i) 0 := Nat.ofDigitChars_ten_toDigits.symm
    _ = Nat.ofDigitChars 10 (Nat.toDigits 10 j) 0 := by rw [digits]
    _ = j := Nat.ofDigitChars_ten_toDigits

def ownTitle? (items : List Value) (i : Nat) : Option Text :=
  (items[i]?).bind fun v => (v.under "title").bind str?

def titleAt (items : List Value) (i : Nat) : Text := (ownTitle? items i).getD (defaultTitle i)

variable {items : List Value}

theorem ownTitle_bound {i : Nat} {t : Text} (own : ownTitle? items i = some t) :
    i < items.length := by
  obtain ⟨v, found, _⟩ := Option.bind_eq_some_iff.mp own
  exact (List.getElem?_eq_some_iff.mp found).1

theorem compileColumn_title (i : Nat) (v : Value) :
    (compileColumn i v).1.title = ((v.under "title").bind str?).getD (defaultTitle i) := by
  cases v <;> rfl

theorem compileItems_titles (items : List Value) :
    (compileItems items).columns.titles = (List.range items.length).map (titleAt items) := by
  apply List.ext_getElem (by simp [Columns.titles, compileItems])
  intro i hi _
  have bound : i < items.length := by simpa [Columns.titles, compileItems] using hi
  simp [Columns.titles, compileItems, compileColumn_title, titleAt, ownTitle?, bound]

/-- Whether all titles are names is up to the titles that items give themselves. -/
theorem names_iff : (∀ t ∈ (compileItems items).columns.titles, IsMachineName t) ↔
    ∀ i t, ownTitle? items i = some t → IsMachineName t := by
  simp only [compileItems_titles, List.forall_mem_map, List.mem_range]
  constructor
  · intro names i t own
    simpa [titleAt, own] using names i (ownTitle_bound own)
  · intro names i _
    cases own : ownTitle? items i with
    | none => simpa [titleAt, own] using defaultTitle_name i
    | some t => simpa [titleAt, own] using names i t own

theorem distinct_iff : (compileItems items).columns.titles.Nodup ↔
    (∀ i j t, ownTitle? items i = some t → ownTitle? items j = some t → i = j) ∧
      ∀ i j, ownTitle? items i = some (.whole (defaultTitle j)) → j < items.length →
        ownTitle? items j ≠ none := by
  rw [compileItems_titles, List.nodup_map_iff_inj_on List.nodup_range]
  simp only [List.mem_range]
  constructor
  · intro inj
    constructor
    · intro i j t first second
      exact inj i (ownTitle_bound first) j (ownTitle_bound second) (by simp [titleAt, first, second])
    · intro i j own bound missing
      have same : i = j := inj i (ownTitle_bound own) j bound (by simp [titleAt, own, missing])
      rw [same, missing] at own
      cases own
  · rintro ⟨own, clash⟩ i hi j hj same
    -- Each of the two titles is given or a default; only two defaults leave it to the digits.
    cases first : ownTitle? items i with
    | some t =>
      cases second : ownTitle? items j with
      | some u =>
        have titles : t = u := by simpa [titleAt, first, second] using same
        exact own i j t first (titles ▸ second)
      | none =>
        have title : t = defaultTitle j := by simpa [titleAt, first, second] using same
        exact absurd second (clash i j (title ▸ first) hj)
    | none =>
      cases second : ownTitle? items j with
      | some u =>
        have title : defaultTitle i = u := by simpa [titleAt, first, second] using same
        exact absurd first (clash j i (title ▸ second) hi)
      | none => exact defaultTitle_inj (by simpa [titleAt, first, second] using same)

/-- The titles of compiled columns are refused just where an item gives itself a title that is no
name, or one that another item gives itself, or one that stands in for the title that another is
missing. -/
theorem compiled_titles_refused {schema : Value} {r : Compiled} (compiled : compile schema = .ok r) :
    ∃ items, Tabular schema items ∧
      ((∃ e, check r.columns.titles = some e ∧ e.kind = .titles) ↔
        (∃ i t, ownTitle? items i = some t ∧ ¬ IsMachineName t) ∨
        (∃ i j t, ownTitle? items i = some t ∧ ownTitle? items j = some t ∧ i ≠ j) ∨
        ∃ i j : Nat, ownTitle? items i = some (.whole s!"col_{j}") ∧ j < items.length ∧
          ownTitle? items j = none) ∧
      (∀ j < items.length, ownTitle? items j = none →
        r.columns.titles[j]? = some (.whole s!"col_{j}")) ∧
      (∀ j : Nat, IsMachineName s!"col_{j}") ∧
      ∀ i j : Nat, s!"col_{i}" = s!"col_{j}" → i = j := by
  obtain ⟨items, table, rfl⟩ := compile_ok_iff.mp compiled
  refine ⟨items, table, ?_, ?_, defaultTitle_name, fun i j => defaultTitle_inj⟩
  · rw [check_refuses, names_iff, distinct_iff]
    rw [not_and_or, not_and_or]
    push Not
    exact Iff.rfl
  · intro j bound missing
    simp [compileItems_titles, titleAt, missing, bound, defaultTitle]

theorem compiled_titles_refused_stand_in :
    let schema := Columns.wrap (.list [.object [(.str "title", .str "col_1")], .null])
    let r := compileItems [.object [(.str "title", .str "col_1")], .null]
    compile schema = .ok r ∧ r.columns.titles = (["col_1", "col_1"] : List Text) ∧
      ∃ e, check r.columns.titles = some e ∧ e.kind = .titles := by
  intro schema r
  have compiled : compile schema = .ok r := rfl
  obtain ⟨items, table, refused, _⟩ := compiled_titles_refused compiled
  obtain rfl : items = [.object [(.str "title", .str "col_1")], .null] :=
    tabular_unique table ⟨rfl, _, rfl, rfl⟩
  exact ⟨compiled, rfl, refused.mpr (.inr (.inr ⟨0, 1, rfl, by decide, rfl⟩))⟩

end Columnar.Schema
