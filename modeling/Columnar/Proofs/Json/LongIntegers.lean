import Columnar.Proofs.Json.Grammar

namespace Columnar.Json
open Text

/-- An integer of so many digits, more than are allowed, stands where a value of the part is
wanted. -/
inductive LongInteger (k : Nat) : Part → List Char → Prop
  | here {sign ds rest : List Char} (signed : sign = [] ∨ sign = ['-']) (whole : Whole ds)
      (digits : ds.length = k) (long : maxDigits < k) (undigit : Undigit rest) (ends : Ends rest) :
      LongInteger k .value (sign ++ (ds ++ rest))
  | inside {kind : Kind} {gap cs : List Char} (blank : Blank gap)
      (pieces : LongInteger k (.pieces kind) cs) : LongInteger k .value (kind.opening :: (gap ++ cs))
  | element {cs : List Char} (value : LongInteger k .value cs) : LongInteger k (.piece .array) cs
  | entry {key before after cs : List Char} {ns : List Nat} (literal : Literal key ns)
      (empty : Blank before) (free : Blank after) (value : LongInteger k .value cs) :
      LongInteger k (.piece .object) (key ++ (before ++ ':' :: (after ++ cs)))
  | first {kind : Kind} {cs : List Char} (piece : LongInteger k (.piece kind) cs) :
      LongInteger k (.pieces kind) cs
  | later {kind : Kind} {cs behind before others : List Char} (piece : Form (.piece kind) cs)
      (empty : Blank behind) (free : Blank before) (rest : LongInteger k (.pieces kind) others) :
      LongInteger k (.pieces kind) (cs ++ (behind ++ ',' :: (before ++ others)))

section
variable {k fuel : Nat} {cs : List Char}

theorem map_stops {α β : Type} {r : Reading α} {f : α × List Char → β × List Char} {e : Stop}
    (stopped : r.map f = .error e) : r = .error e := by
  cases r with
  | ok p => cases stopped
  | error e => cases stopped; rfl

theorem codePoints_short {opening : Nat} : codePoints opening cs ≠ .error (.longInteger k) := by
  intro stopped
  fun_induction codePoints opening cs with
  | case1 | case2 | case3 | case5 | case6 | case8 | case9 => cases stopped
  | case4 a b c d e tail n digits ih => exact ih (map_stops stopped)
  | case7 letter tail _ _ c escaped ih => exact ih (map_stops stopped)
  | case10 c tail _ _ _ _ _ ih => exact ih (map_stops stopped)

theorem string_short {opening : Nat} : string opening cs ≠ .error (.longInteger k) :=
  fun stopped => codePoints_short (map_stops stopped)

section
variable (items : ∀ cs, elements fuel cs = .error (.longInteger k) → LongInteger k (.pieces .array) cs)
  (entries : ∀ cs, members fuel cs = .error (.longInteger k) → LongInteger k (.pieces .object) cs)
  (values : ∀ cs, value fuel cs = .error (.longInteger k) → LongInteger k .value cs)

theorem long_inside (kind : Kind) {tail : List Char}
    (pieces : LongInteger k (.pieces kind) (skipBlanks tail)) :
    LongInteger k .value (kind.opening :: tail) := by
  obtain ⟨gap, blank, cut⟩ := skipBlanks_cut (rfl : skipBlanks tail = _)
  rw [cut]
  exact .inside blank pieces

include items entries in
theorem value_long (stopped : value (fuel + 1) cs = .error (.longInteger k)) :
    LongInteger k .value cs := by
  unfold value at stopped
  split at stopped
  · exact absurd (map_stops stopped) string_short
  · split at stopped
    · cases stopped
    · exact long_inside .object (entries _ (map_stops stopped))
  · split at stopped
    · cases stopped
    · exact long_inside .array (items _ (map_stops stopped))
  · cases stopped
  · cases stopped
  · cases stopped
  · cases stopped
  · cases stopped
  · cases stopped
  · obtain ⟨sign, ds, rest, signed, whole, digits, long, undigit, ends, rfl⟩ := number_long.mp stopped
    exact .here signed whole digits long undigit ends

theorem long_later {kind : Kind} {behind tail : List Char} (piece : Takes (.piece kind) cs behind)
    (comma : skipBlanks behind = ',' :: tail)
    (others : LongInteger k (.pieces kind) (skipBlanks tail)) : LongInteger k (.pieces kind) cs := by
  obtain ⟨text, form, rfl⟩ := piece
  obtain ⟨gap, empty, rfl⟩ := skipBlanks_cut comma
  obtain ⟨spaces, free, cut⟩ := skipBlanks_cut (rfl : skipBlanks tail = _)
  rw [cut]
  exact .later form empty free others

include items values in
theorem elements_long (stopped : elements (fuel + 1) cs = .error (.longInteger k)) :
    LongInteger k (.pieces .array) cs := by
  rw [elements] at stopped
  split at stopped
  · rename_i first
    cases stopped
    exact .first (.element (values _ first))
  · rename_i v behind first
    obtain ⟨text, form, rfl⟩ := (readers_take fuel).1 _ v behind first
    split at stopped
    · cases stopped
    · rename_i tail comma
      exact long_later ⟨text, .element form, rfl⟩ comma (items _ (map_stops stopped))
    · cases stopped

include entries values in
theorem members_long (stopped : members (fuel + 1) cs = .error (.longInteger k)) :
    LongInteger k (.pieces .object) cs := by
  unfold members at stopped
  split at stopped
  · split at stopped
    · rename_i text
      cases stopped
      exact absurd text string_short
    · rename_i name left text
      obtain ⟨key, ns, literal, same⟩ := string_literal text
      rw [same]
      split at stopped
      · rename_i tail colon
        obtain ⟨gap, empty, rfl⟩ := skipBlanks_cut colon
        obtain ⟨spaces, free, cut⟩ := skipBlanks_cut (rfl : skipBlanks tail = _)
        split at stopped
        · rename_i first
          cases stopped
          rw [cut]
          exact .first (.entry literal empty free (values _ first))
        · rename_i v behind first
          obtain ⟨under, form, value⟩ := (readers_take fuel).1 _ v behind first
          have piece : Takes (.piece .object) (key ++ (gap ++ ':' :: tail)) behind :=
            ⟨_, .entry literal empty free form, by rw [cut, value]; simp⟩
          split at stopped
          · cases stopped
          · rename_i others comma
            exact long_later piece comma (entries _ (map_stops stopped))
          · cases stopped
      · cases stopped
  · cases stopped

end

theorem readers_long (fuel : Nat) :
    (∀ cs, value fuel cs = .error (.longInteger k) → LongInteger k .value cs) ∧
    (∀ cs, elements fuel cs = .error (.longInteger k) → LongInteger k (.pieces .array) cs) ∧
    ∀ cs, members fuel cs = .error (.longInteger k) → LongInteger k (.pieces .object) cs := by
  -- The three readers call each other with one less of the fuel, so they go together.
  induction fuel with
  | zero => exact ⟨nofun, nofun, nofun⟩
  | succ fuel ih =>
    obtain ⟨values, items, entries⟩ := ih
    exact ⟨fun _ => value_long items entries, fun _ => elements_long items values,
      fun _ => members_long entries values⟩

theorem value_solid (stopped : value fuel cs = .error (.longInteger k)) : skipBlanks cs = cs := by
  cases fuel with
  | zero => cases stopped
  | succ fuel =>
    cases cs with
    | nil => rfl
    | cons c tail =>
      cases blank : isBlank c with
      | false => simp [skipBlanks, blank]
      | true =>
        simp only [isBlank, Bool.or_eq_true, beq_iff_eq] at blank
        rcases blank with ((rfl | rfl) | rfl) | rfl <;> cases stopped

theorem pieces_solid {kind : Kind} (stopped : kind.read fuel cs = .error (.longInteger k)) :
    skipBlanks cs = cs := by
  cases fuel with
  | zero => cases kind <;> cases stopped
  | succ fuel =>
    cases kind with
    | array =>
      rw [Kind.read, elements] at stopped
      split at stopped
      · rename_i first
        cases stopped
        exact value_solid first
      · rename_i first
        exact skipBlanks_starts (value_starts first)
    | object =>
      rw [Kind.read] at stopped
      unfold members at stopped
      split at stopped
      · rfl
      · cases stopped

/-- What becomes of a part in which there is such an integer. -/
def Stuck (k : Nat) : Part → List Char → Prop
  | .value, cs => ∀ fuel, 2 * cs.length ≤ fuel → value fuel cs = .error (.longInteger k)
  | .piece kind, cs | .pieces kind, cs => ∀ fuel, 2 * cs.length + 1 ≤ fuel →
    kind.read fuel cs = .error (.longInteger k)

theorem long_stuck {part : Part} (long : LongInteger k part cs) : Stuck k part cs := by
  induction long with
  | @here sign ds rest signed whole digits long undigit ends =>
    intro fuel enough
    have some := List.length_pos_of_ne_nil whole.1.1
    simp only [List.length_append] at enough
    obtain ⟨fuel, rfl⟩ : ∃ n, fuel = n + 1 := ⟨fuel - 1, by omega⟩
    rw [value_number signed whole]
    exact number_long.mpr ⟨sign, ds, rest, signed, whole, digits, long, undigit, ends, rfl⟩
  | @inside kind gap cs blank _ ih =>
    intro fuel enough
    simp only [List.length_cons, List.length_append] at enough
    obtain ⟨fuel, rfl⟩ : ∃ n, fuel = n + 1 := ⟨fuel - 1, by omega⟩
    have stopped := ih fuel (by omega)
    have solid := (skipBlanks_blanks blank cs).trans (pieces_solid stopped)
    -- A list that is closed at once is no place to stop in.
    have inside : ∀ rest, skipBlanks (gap ++ cs) ≠ kind.closing :: rest := by
      intro rest same
      obtain ⟨cause, left, malformed⟩ := closing_malformed kind fuel rest
      rw [← same, solid, stopped] at malformed
      cases malformed
    rw [value_pieces kind inside, solid, stopped]
    rfl
  | element _ ih =>
    intro fuel enough
    obtain ⟨fuel, rfl⟩ : ∃ n, fuel = n + 1 := ⟨fuel - 1, by omega⟩
    rw [Kind.read, elements, ih fuel (by omega)]
    rfl
  | @entry key before after cs ns literal empty free _ ih =>
    intro fuel enough
    obtain ⟨body, inner, rfl⟩ := literal
    simp only [List.length_append, List.length_cons] at enough
    obtain ⟨fuel, rfl⟩ : ∃ n, fuel = n + 1 := ⟨fuel - 1, by omega⟩
    have stopped := ih fuel (by omega)
    have colon : ∀ rest, skipBlanks (':' :: rest) = ':' :: rest := fun _ => rfl
    simp only [List.cons_append, List.append_assoc, List.nil_append]
    rw [Kind.read, members, string_iff.mpr ⟨body, ns, inner, rfl, rfl⟩]
    simp only [skipBlanks_blanks empty, colon, skipBlanks_blanks free, value_solid stopped, stopped]
    rfl
  | first _ ih => exact ih
  | @later kind cs behind before others piece empty free _ ih =>
    intro fuel enough
    simp only [List.length_append, List.length_cons] at enough
    obtain ⟨fuel, rfl⟩ : ∃ n, fuel = n + 1 := ⟨fuel - 1, by omega⟩
    have stopped := ih fuel (by omega)
    obtain ⟨f, step⟩ := (form_reads piece).passes
    rw [step fuel behind _ (by omega) empty, skipBlanks_blanks free, pieces_solid stopped, stopped]
    rfl

end

def LongIntegerText (k : Nat) (text : List Char) : Prop :=
  ∃ before cs, Blank before ∧ LongInteger k .value cs ∧ text = before ++ cs

/-- The reader stops at an integer for its length just if the text has one where a value is wanted,
and is well-formed as far as there. -/
theorem document_long {text : List Char} {k : Nat} :
    document text = .error (.longInteger k) ↔ LongIntegerText k text := by
  have first : document text = .error (.longInteger k) ↔
      value (2 * text.length + 2) (skipBlanks text) = .error (.longInteger k) := by
    rw [document]
    split
    · rename_i e read
      rw [read]
      simp
    · rename_i v rest read
      rw [read]
      split <;> simp [stopAt]
  rw [first]
  constructor
  · intro stopped
    obtain ⟨before, free, cut⟩ := skipBlanks_cut (rfl : skipBlanks text = _)
    exact ⟨before, _, free, (readers_long _).1 _ stopped, cut⟩
  · rintro ⟨before, cs, free, long, rfl⟩
    have stopped := long_stuck long (2 * (before ++ cs).length + 2) (by simp; omega)
    rw [skipBlanks_blanks free, value_solid stopped, stopped]

end Columnar.Json
