import Columnar.Proofs.Compatibility
import Columnar.Proofs.Writable
import Mathlib

namespace Columnar

theorem Value.isLong_pow : isLong (10 ^ Json.maxDigits) = true := by
  have base : Int.natAbs 10 = 10 := rfl
  rw [isLong, decide_eq_true_eq, ← Nat.not_le, Int.natAbs_pow, base,
    Nat.length_toDigits_le_iff (by decide) (by decide)]
  exact Nat.lt_irrefl _

namespace Document
open Value

/-- A defect of a value and its place. The keys and the values of an object are numbered in turn,
the items of a list by themselves. -/
inductive Found : Value → List Nat → Defect → Prop
  | value {v : Value} : v.isLeaf = true → isScalar v = false → Found v [] (.value v)
  | item {vs : List Value} {i : Nat} {v : Value} {place : List Nat} {d : Defect} :
      vs[i]? = some v → Found v place d → Found (.list vs) (i :: place) d
  | key {es : Entries} {i : Nat} {e : Value × Value} :
      es[i]? = some e → e.1.isStr = false → Found (.object es) [2 * i] (.key e.1)
  | entry {es : Entries} {i : Nat} {e : Value × Value} {place : List Nat} {d : Defect} :
      es[i]? = some e → Found e.2 place d → Found (.object es) ((2 * i + 1) :: place) d

def First (v : Value) (place : List Nat) (d : Defect) : Prop :=
  Found v place d ∧ ∀ q e, Found v q e → place < q ∨ q = place ∧ e = d

/-- Where a way of names and indices leads, and the place of what it leads to. -/
inductive Leads : Value → List Nat → List Step → Value → Prop
  | here {v : Value} : Leads v [] [] v
  | item {vs : List Value} {i : Nat} {v w : Value} {place : List Nat} {way : List Step} :
      vs[i]? = some v → Leads v place way w → Leads (.list vs) (i :: place) (.index i :: way) w
  | entry {es : Entries} {i : Nat} {name : Text} {v w : Value} {place : List Nat}
      {way : List Step} : es[i]? = some (.str name, v) → Leads v place way w →
      Leads (.object es) ((2 * i + 1) :: place) (.name name :: way) w

def Located (v : Value) (place : List Nat) (way : List Step) : Defect → Prop
  | .value w => Leads v place way w
  | .key k => ∃ outer i, ∃ es : Entries, ∃ x, place = outer ++ [2 * i] ∧
      Leads v outer way (.object es) ∧ es[i]? = some (k, x)

theorem Located.item {vs : List Value} {i : Nat} {v : Value} {place : List Nat} {way : List Step}
    {d : Defect} (there : vs[i]? = some v) (located : Located v place way d) :
    Located (.list vs) (i :: place) (.index i :: way) d := by
  cases d with
  | value w => exact Leads.item there located
  | key k =>
    obtain ⟨outer, j, es, x, rfl, leads, key⟩ := located
    exact ⟨i :: outer, j, es, x, rfl, Leads.item there leads, key⟩

theorem Located.entry {es : Entries} {i : Nat} {name : Text} {v : Value} {place : List Nat}
    {way : List Step} {d : Defect} (there : es[i]? = some (.str name, v))
    (located : Located v place way d) :
    Located (.object es) ((2 * i + 1) :: place) (.name name :: way) d := by
  cases d with
  | value w => exact Leads.entry there located
  | key k =>
    obtain ⟨outer, j, fs, x, rfl, leads, key⟩ := located
    exact ⟨(2 * i + 1) :: outer, j, fs, x, rfl, Leads.entry there leads, key⟩

theorem not_found {v : Value} {place : List Nat} {d : Defect} (found : Found v place d) :
    firstDefect v ≠ none := by
  induction found with
  | value bare kind => simp [firstDefect_leaf bare, kind]
  | item there _ ih =>
    exact fun none => ih (firstItemDefect_none.mp none _ (List.mem_of_getElem? there))
  | key there kind =>
    intro none
    have text := (firstEntryDefect_none.mp none _ (List.mem_of_getElem? there)).1
    rw [kind] at text
    cases text
  | entry there _ ih =>
    exact fun none => ih (firstEntryDefect_none.mp none _ (List.mem_of_getElem? there)).2

theorem firstItemDefect_some {vs : List Value} {i : Nat} {way : List Step} {d : Defect}
    (found : firstItemDefect i vs = some (way, d)) :
    ∃ (j : Nat) (v : Value) (rest : List Step), vs[j]? = some v ∧
      firstDefect v = some (rest, d) ∧ way = .index ((i + j : Nat) : Int) :: rest ∧
      ∀ k < j, ∀ w, vs[k]? = some w → firstDefect w = none := by
  induction vs generalizing i with
  | nil => cases found
  | cons v vs ih =>
    rw [firstItemDefect] at found
    split at found
    · rename_i rest _ head
      cases found
      exact ⟨0, v, rest, rfl, head, rfl, fun k less => absurd less k.not_lt_zero⟩
    · rename_i head
      obtain ⟨j, w, rest, there, inside, rfl, before⟩ := ih found
      refine ⟨j + 1, w, rest, there, inside, by rw [Nat.add_right_comm, Nat.add_assoc], ?_⟩
      intro k less u place
      cases k with
      | zero => cases place; exact head
      | succ k => exact before k (by omega) u place

theorem firstEntryDefect_some {es : Entries} {way : List Step} {d : Defect}
    (found : firstEntryDefect es = some (way, d)) :
    ∃ (j : Nat) (e : Value × Value), es[j]? = some e ∧
      (e.1.isStr = false ∧ way = [] ∧ d = .key e.1 ∨
        ∃ name rest, e.1 = .str name ∧ firstDefect e.2 = some (rest, d) ∧
          way = .name name :: rest) ∧
      ∀ k < j, ∀ f : Value × Value, es[k]? = some f → f.1.isStr = true ∧ firstDefect f.2 = none := by
  induction es with
  | nil => cases found
  | cons e es ih =>
    obtain ⟨k, v⟩ := e
    cases k with
    | str name =>
      rw [firstEntryDefect] at found
      split at found
      · rename_i rest _ head
        cases found
        exact ⟨0, _, rfl, .inr ⟨name, rest, rfl, head, rfl⟩, fun k less => absurd less k.not_lt_zero⟩
      · rename_i head
        obtain ⟨j, f, there, cause, before⟩ := ih found
        refine ⟨j + 1, f, there, cause, fun m less g place => ?_⟩
        cases m with
        | zero => cases place; exact ⟨rfl, head⟩
        | succ m => exact before m (by omega) g place
    | _ =>
      cases found
      exact ⟨0, _, rfl, .inl ⟨rfl, rfl, rfl⟩, fun k less => absurd less k.not_lt_zero⟩

theorem first_leaf {v : Value} (bare : v.isLeaf = true) (kind : isScalar v = false) :
    First v [] (.value v) := by
  refine ⟨.value bare kind, fun q e found => ?_⟩
  cases found with
  | value => exact .inr ⟨rfl, rfl⟩
  | item | key | entry => cases bare

/-- Of what a list or an object holds, the numbers at the heads of the places decide first. -/
theorem first_of_head {v : Value} {n : Nat} {place : List Nat} {d : Defect}
    (inner : v.isLeaf = false) (found : Found v (n :: place) d)
    (least : ∀ m q e, Found v (m :: q) e → n < m ∨ m = n ∧ (place < q ∨ q = place ∧ e = d)) :
    First v (n :: place) d := by
  refine ⟨found, fun q e other => ?_⟩
  cases q with
  | nil => cases other with
    | value bare => rw [inner] at bare; cases bare
  | cons m q =>
    rcases least m q e other with less | ⟨rfl, less | ⟨rfl, rfl⟩⟩
    · exact .inl (List.cons_lt_cons_iff.mpr (.inl less))
    · exact .inl (List.cons_lt_cons_iff.mpr (.inr ⟨rfl, less⟩))
    · exact .inr ⟨rfl, rfl⟩

theorem first_item {vs : List Value} {j : Nat} {v : Value} {place : List Nat} {d : Defect}
    (there : vs[j]? = some v) (first : First v place d)
    (before : ∀ k < j, ∀ w, vs[k]? = some w → firstDefect w = none) :
    First (.list vs) (j :: place) d := by
  refine first_of_head rfl (.item there first.1) fun k q e found => ?_
  cases found with
  | @item _ _ w _ _ at' inside =>
    rcases Nat.lt_trichotomy k j with less | rfl | more
    · exact absurd (before k less w at') (not_found inside)
    · obtain rfl : v = w := Option.some.inj (there.symm.trans at')
      exact .inr ⟨rfl, first.2 q e inside⟩
    · exact .inl more

section
variable {es : Entries} {j : Nat} {e : Value × Value} (there : es[j]? = some e)
  (before : ∀ k < j, ∀ f : Value × Value, es[k]? = some f →
    f.1.isStr = true ∧ firstDefect f.2 = none)

include there before

theorem first_key (kind : e.1.isStr = false) : First (.object es) [2 * j] (.key e.1) := by
  refine first_of_head rfl (.key there kind) fun m q d found => ?_
  cases found with
  | @key _ k f at' other =>
    rcases Nat.lt_trichotomy k j with less | rfl | more
    · rw [(before k less f at').1] at other
      cases other
    · obtain rfl : e = f := Option.some.inj (there.symm.trans at')
      exact .inr ⟨rfl, .inr ⟨rfl, rfl⟩⟩
    · exact .inl (by omega)
  | @entry _ k f _ _ at' inside =>
    rcases Nat.lt_or_ge k j with less | more
    · exact absurd (before k less f at').2 (not_found inside)
    · exact .inl (by omega)

theorem first_entry {place : List Nat} {d : Defect} (text : e.1.isStr = true)
    (first : First e.2 place d) : First (.object es) ((2 * j + 1) :: place) d := by
  refine first_of_head rfl (.entry there first.1) fun m q c found => ?_
  cases found with
  | @key _ k f at' other =>
    rcases Nat.lt_trichotomy k j with less | rfl | more
    · rw [(before k less f at').1] at other
      cases other
    · obtain rfl : e = f := Option.some.inj (there.symm.trans at')
      rw [text] at other
      cases other
    · exact .inl (by omega)
  | @entry _ k f _ _ at' inside =>
    rcases Nat.lt_trichotomy k j with less | rfl | more
    · exact absurd (before k less f at').2 (not_found inside)
    · obtain rfl : e = f := Option.some.inj (there.symm.trans at')
      exact .inr ⟨rfl, first.2 q c inside⟩
    · exact .inl (by omega)

end

theorem firstDefect_first (v : Value) {way : List Step} {d : Defect}
    (found : firstDefect v = some (way, d)) :
    ∃ place, First v place d ∧ Located v place way d := by
  induction v using parts_induction generalizing way with
  | list vs ih =>
    obtain ⟨j, v, rest, there, inside, rfl, before⟩ := firstItemDefect_some found
    obtain ⟨place, first, located⟩ := ih v (List.mem_of_getElem? there) inside
    rw [Nat.zero_add]
    exact ⟨j :: place, first_item there first before, located.item there⟩
  | object es ih =>
    obtain ⟨j, ⟨k, v⟩, there, cause, before⟩ := firstEntryDefect_some found
    rcases cause with ⟨kind, rfl, rfl⟩ | ⟨name, rest, rfl, inside, rfl⟩
    · exact ⟨[2 * j], first_key there before kind, [], j, es, v, rfl, .here, there⟩
    · obtain ⟨place, first, located⟩ := ih _ (List.mem_of_getElem? there) inside
      exact ⟨_, first_entry there before rfl first, located.entry there⟩
  | leaf v bare =>
    rw [firstDefect_leaf bare] at found
    split at found
    · cases found
    · rename_i kind
      cases found
      exact ⟨[], first_leaf bare (by simpa using kind), .here⟩

theorem locationText_eq (start : Text) (way : List Step) :
    locationText start way = start ++ .intercalate "" (way.map Step.text) := by
  apply Text.points_injective
  induction way generalizing start with
  | nil => simp [locationText]
  | cons step way ih =>
    have rest := ih (start ++ step.text)
    rw [List.map_cons, Text.intercalate_cons, ← Text.append_assoc]
    exact rest

theorem check_value {v w : Value} {way : List Step} (found : firstDefect v = some (way, .value w))
    (start : Text) : check v start =
      .ok (some (w.kindName ++ " value at " ++ (start ++ .intercalate "" (way.map Step.text)))) := by
  simp only [check, incompatibility, found, Option.all_some, Defect.writable, if_true,
    Option.map_some, Defect.text, locationText_eq, String.append_assoc]
  rfl

theorem check_key {v k : Value} {way : List Step} (found : firstDefect v = some (way, .key k))
    (start : Text) : check v start = if k.holdsLong then .error .unwritten else
      .ok (some ("non-string key " ++ k.literal ++ " at " ++
        (start ++ .intercalate "" (way.map Step.text)))) := by
  simp only [check, incompatibility, found, Option.all_some, Defect.writable, Option.map_some,
    Defect.text, locationText_eq]
  cases k.holdsLong <;> rfl

/-- The check passes just the clean values. Of any other it describes the first defect, by the way
to it from wherever it is told to start: a value by its kind, a key as it is shown. But a key with
an integer that is too long to be written cannot be shown. -/
theorem check_first_defect (v : Value) :
    (v.Clean ∧ ∀ start, check v start = .ok none) ∨
    (¬ v.Clean ∧ ∃ place way w, First v place (.value w) ∧ Leads v place way w ∧
      ∀ start, check v start =
        .ok (some (w.kindName ++ " value at " ++ (start ++ .intercalate "" (way.map Step.text))))) ∨
    (¬ v.Clean ∧ ∃ place way i, ∃ es : Entries, ∃ k x, First v (place ++ [2 * i]) (.key k) ∧
      Leads v place way (.object es) ∧ es[i]? = some (k, x) ∧
      ∀ start, check v start = if k.holdsLong then .error .unwritten else
        .ok (some ("non-string key " ++ k.literal ++ " at " ++
          (start ++ .intercalate "" (way.map Step.text))))) := by
  cases found : firstDefect v with
  | none => exact .inl ⟨(firstDefect_none_iff v).mp found, fun _ => check_passes.mpr found⟩
  | some p =>
    obtain ⟨way, d⟩ := p
    have unclean : ¬ v.Clean := by rw [← firstDefect_none_iff, found]; nofun
    obtain ⟨place, first, located⟩ := firstDefect_first v found
    cases d with
    | value w => exact .inr (.inl ⟨unclean, place, way, w, first, located, check_value found⟩)
    | key k =>
      obtain ⟨outer, i, es, x, rfl, leads, there⟩ := located
      exact .inr (.inr ⟨unclean, outer, way, i, es, k, x, first, leads, there, check_key found⟩)

theorem long_key_untold :
    firstDefect (.object [(.int (10 ^ Json.maxDigits), .null)]) =
        some ([], .key (.int (10 ^ Json.maxDigits))) ∧
      ∀ start, check (.object [(.int (10 ^ Json.maxDigits), .null)]) start = .error .unwritten := by
  have shown : (Value.int (10 ^ Json.maxDigits)).holdsLong = true := by
    rw [holdsLong_int, isLong_pow]
  exact ⟨rfl, fun start => by rw [check_key rfl, if_pos shown]⟩

theorem Leads.holds {v w : Value} {place : List Nat} {way : List Step}
    (leads : Leads v place way w) : v.Holds w := by
  induction leads with
  | here => exact .self
  | item there _ ih => exact .item (List.mem_of_getElem? there) ih
  | entry there _ ih => exact .entry (List.mem_of_getElem? there) ih

theorem check_unreadable {v : Value} {start : Text} {u : Unreadable}
    (failed : check v start = .error u) : u = .unwritten ∧ v.HasLongKey := by
  rcases check_first_defect v with ⟨_, passed⟩ | ⟨_, _, _, _, _, _, told⟩ |
    ⟨_, _, _, _, es, k, x, _, leads, there, told⟩
  · rw [passed] at failed
    cases failed
  · rw [told] at failed
    cases failed
  · rw [told] at failed
    split at failed
    · rename_i long
      cases failed
      exact ⟨rfl, es, leads.holds, (k, x), List.mem_of_getElem? there, long⟩
    · cases failed

end Document
end Columnar
