import Columnar.Proofs.Json.Yield
import Mathlib

/-! A grammar of strings and of arrays of strings, and the reader held against it. A literal denotes
units of 16 bits and characters side by side; what becomes of the units is a question of its own. -/
namespace Columnar.Json
open Text

def HexDigit (c : Char) (d : Nat) : Prop :=
  ['0', '1', '2', '3', '4', '5', '6', '7', '8', '9', 'a', 'b', 'c', 'd', 'e', 'f'][d]? = some c ∨
    ['0', '1', '2', '3', '4', '5', '6', '7', '8', '9', 'A', 'B', 'C', 'D', 'E', 'F'][d]? = some c

def letters : List (Char × Char) :=
  [('"', '"'), ('\\', '\\'), ('/', '/'), ('b', '\x08'), ('f', '\x0c'), ('n', '\n'), ('r', '\r'),
    ('t', '\t')]

/-- What stands between the quotes of a literal, and the numbers that it denotes. -/
inductive Body : List Char → List Nat → Prop
  | nil : Body [] []
  | raw {c : Char} {cs : List Char} {ns : List Nat} (quote : c ≠ '"') (slash : c ≠ '\\')
      (visible : 0x20 ≤ c.toNat) (rest : Body cs ns) : Body (c :: cs) (c.toNat :: ns)
  | letter {letter c : Char} {cs : List Char} {ns : List Nat} (listed : (letter, c) ∈ letters)
      (rest : Body cs ns) : Body ('\\' :: letter :: cs) (c.toNat :: ns)
  | number {a b c d : Char} {i j k l : Nat} {cs : List Char} {ns : List Nat} (first : HexDigit a i)
      (second : HexDigit b j) (third : HexDigit c k) (fourth : HexDigit d l) (rest : Body cs ns) :
      Body ('\\' :: 'u' :: a :: b :: c :: d :: cs) ((16 * (16 * (16 * i + j) + k) + l) :: ns)

def Literal (cs : List Char) (ns : List Nat) : Prop :=
  ∃ body, Body body ns ∧ cs = '"' :: (body ++ ['"'])

inductive Elements : List Char → List (List Nat) → Prop
  | last {before cs behind : List Char} {ns : List Nat} (free : Blank before)
      (literal : Literal cs ns) (empty : Blank behind) : Elements (before ++ cs ++ behind) [ns]
  | more {before cs behind others : List Char} {ns : List Nat} {ls : List (List Nat)}
      (free : Blank before) (literal : Literal cs ns) (empty : Blank behind)
      (rest : Elements others ls) : Elements (before ++ cs ++ behind ++ ',' :: others) (ns :: ls)

inductive Literals : List Char → List (List Nat) → Prop
  | single {cs : List Char} {ns : List Nat} (literal : Literal cs ns) : Literals cs [ns]
  | none {gap : List Char} (blank : Blank gap) : Literals ('[' :: (gap ++ [']'])) []
  | array {cs : List Char} {ls : List (List Nat)} (items : Elements cs ls) :
      Literals ('[' :: (cs ++ [']'])) ls

def LiteralsText (cs : List Char) (ls : List (List Nat)) : Prop :=
  ∃ before inner behind, Blank before ∧ Literals inner ls ∧ Blank behind ∧
    cs = before ++ (inner ++ behind)

/-- What numbers denote: a character each, but two halves of a pair one together. -/
inductive Denotes : List Nat → List Point → Prop
  | nil : Denotes [] []
  | char {c : Char} {ns : List Nat} {ps : List Point} (rest : Denotes ns ps) :
      Denotes (c.toNat :: ns) (.char c :: ps)
  | pair {m n : Nat} {c : Char} {ns : List Nat} {ps : List Point} (high : 0xD800 ≤ m ∧ m < 0xDC00)
      (low : 0xDC00 ≤ n ∧ n < 0xE000)
      (joined : c.toNat = 0x10000 + (m - 0xD800) * 0x400 + (n - 0xDC00)) (rest : Denotes ns ps) :
      Denotes (m :: n :: ns) (.char c :: ps)
  | half {h : Half} {ns : List Nat} {ps : List Point}
      (alone : h.code < 0xDC00 → ∀ n, ns.head? = some n → ¬ (0xDC00 ≤ n ∧ n < 0xE000))
      (rest : Denotes ns ps) : Denotes (h.code :: ns) (.half h :: ps)

theorem hexDigit_iff {c : Char} {d : Nat} : HexDigit c d ↔ hexValue? c = some d := by
  constructor
  · intro digit
    have bound : d < 16 := by
      rcases digit with h | h <;> exact (List.getElem?_eq_some_iff.mp h).1
    unfold HexDigit at digit
    interval_cases d <;> simp at digit <;> rcases digit with rfl | rfl <;> rfl
  · intro value
    simp only [hexValue?] at value
    have same : c = Char.ofNat c.toNat := (Char.ofNat_toNat c).symm
    rw [same]
    generalize c.toNat = n at value
    unfold HexDigit
    split_ifs at value with figure lower upper
    · cases value; obtain ⟨low, high⟩ := figure; interval_cases n <;> decide
    · cases value; obtain ⟨low, high⟩ := lower; interval_cases n <;> decide
    · cases value; obtain ⟨low, high⟩ := upper; interval_cases n <;> decide

theorem hex_four {a b c d : Char} {n : Nat} : hexNat? [a, b, c, d] = some n ↔
    ∃ i j k l, HexDigit a i ∧ HexDigit b j ∧ HexDigit c k ∧ HexDigit d l ∧
      n = 16 * (16 * (16 * i + j) + k) + l := by
  simp only [hexDigit_iff, hexNat?, List.foldlM_cons, List.foldlM_nil, Option.bind_eq_bind,
    Option.bind_eq_some_iff, Option.map_eq_some_iff, Option.pure_def]
  constructor
  · rintro ⟨_, ⟨i, hi, rfl⟩, _, ⟨j, hj, rfl⟩, _, ⟨k, hk, rfl⟩, _, ⟨l, hl, rfl⟩, same⟩
    exact ⟨i, j, k, l, hi, hj, hk, hl, by simpa using (Option.some.inj same).symm⟩
  · rintro ⟨i, j, k, l, hi, hj, hk, hl, rfl⟩
    exact ⟨_, ⟨i, hi, rfl⟩, _, ⟨j, hj, rfl⟩, _, ⟨k, hk, rfl⟩, _, ⟨l, hl, rfl⟩, by simp⟩

theorem escaped_iff {letter c : Char} : escaped? letter = some c ↔ (letter, c) ∈ letters := by
  constructor
  · intro escaped
    unfold escaped? at escaped
    split at escaped <;> cases escaped <;> decide
  · intro listed
    simp only [letters, List.mem_cons, Prod.mk.injEq, List.not_mem_nil, or_false] at listed
    rcases listed with ⟨rfl, rfl⟩ | ⟨rfl, rfl⟩ | ⟨rfl, rfl⟩ | ⟨rfl, rfl⟩ | ⟨rfl, rfl⟩ | ⟨rfl, rfl⟩ |
      ⟨rfl, rfl⟩ | ⟨rfl, rfl⟩ <;> rfl

theorem map_reads {α β : Type} {r : Reading α} {f : α → β} {b : β} {rest : List Char}
    (read : (r.map fun p => (f p.1, p.2)) = .ok (b, rest)) : ∃ a, r = .ok (a, rest) ∧ f a = b := by
  match r with
  | .ok (a, left) => cases read; exact ⟨a, rfl, rfl⟩
  | .error _ => cases read

theorem codePoints_iff {opening : Nat} {cs rest : List Char} {ns : List Nat} :
    codePoints opening cs = .ok (ns, rest) ↔ ∃ body, Body body ns ∧ cs = body ++ '"' :: rest := by
  constructor
  · intro read
    fun_induction codePoints opening cs generalizing ns rest with
    | case1 | case3 => cases read
    | case2 => cases read; exact ⟨[], .nil, rfl⟩
    | case4 a b c d e tail n digits ih =>
      obtain ⟨ms, later, rfl⟩ := map_reads read
      obtain ⟨i, j, k, l, hi, hj, hk, hl, rfl⟩ := hex_four.mp digits
      obtain ⟨body, inner, same⟩ := ih later
      exact ⟨_, .number hi hj hk hl inner, by simp [same]⟩
    | case5 | case6 | case8 | case9 => cases read
    | case7 letter tail _ _ c escaped ih =>
      obtain ⟨ms, later, rfl⟩ := map_reads read
      obtain ⟨body, inner, rfl⟩ := ih later
      exact ⟨_, .letter (escaped_iff.mp escaped) inner, rfl⟩
    | case10 c tail quote alone _ other visible ih =>
      -- A backslash in front of anything is read by one of the cases above.
      have slash : c ≠ '\\' := by
        intro same
        cases tail with
        | nil => exact alone same rfl
        | cons d ds => exact other d ds same rfl
      obtain ⟨ms, later, rfl⟩ := map_reads read
      obtain ⟨body, inner, rfl⟩ := ih later
      exact ⟨_, .raw quote slash (Nat.not_lt.mp visible) inner, rfl⟩
  · rintro ⟨body, inner, rfl⟩
    induction inner with
    | nil => simp [codePoints]
    | raw quote slash visible _ ih =>
      rw [List.cons_append, codePoints_raw quote slash visible, ih]
      rfl
    | letter listed _ ih =>
      rw [List.cons_append, List.cons_append, codePoints_letter (escaped_iff.mpr listed), ih]
      rfl
    | number first second third fourth _ ih =>
      have digits := hex_four.mpr ⟨_, _, _, _, first, second, third, fourth, rfl⟩
      simp only [List.cons_append]
      rw [codePoints_hex digits (by simp), ih]
      rfl

def joined (ns : List Nat) : Text := .ofPoints (joinPairs ns)

theorem joined_apart (ns : List Nat) : (joined ns).Joined := by
  rw [Text.Joined, joined, points_ofPoints]
  exact joinPairs_apart ns

theorem high_iff {n : Nat} : Utf16.isHigh n = true ↔ 0xD800 ≤ n ∧ n < 0xDC00 := by
  simp only [Utf16.isHigh, Bool.and_eq_true, decide_eq_true_eq]

theorem low_iff {n : Nat} : Utf16.isLow n = true ↔ 0xDC00 ≤ n ∧ n < 0xE000 := by
  simp only [Utf16.isLow, Bool.and_eq_true, decide_eq_true_eq]

theorem denotes_joined {ns : List Nat} {ps : List Point} (denotes : Denotes ns ps) :
    joinPairs ns = ps := by
  induction denotes with
  | nil => rfl
  | @char c _ _ _ ih => rw [joinPairs_toNat c, ih]
  | @pair m n c _ _ high low joined _ ih =>
    have one : Char.ofNat (Utf16.joined m n) = c := by
      rw [← Char.ofNat_toNat c, joined]
      unfold Utf16.joined
      congr 1
    rw [joinPairs_pair (high_iff.mpr high) (low_iff.mpr low), one, ih]
  | half alone _ ih =>
    rw [joinPairs_half _ fun n first pair =>
      alone (high_iff.mp pair.1).2 n first (low_iff.mp pair.2), ih]

theorem Denotes.point {n : Nat} {ns : List Nat} {ps : List Point} (bound : n < 0x110000)
    (alone : n < 0xDC00 → ∀ m, ns.head? = some m → ¬ (0xDC00 ≤ m ∧ m < 0xE000) ∨ n < 0xD800)
    (rest : Denotes ns ps) : Denotes (n :: ns) (.ofCode n :: ps) := by
  unfold Point.ofCode
  split
  · rename_i half
    have same : Half.code ⟨n - 0xD800, by omega⟩ = n := by simp only [Half.code]; omega
    conv in n :: ns => rw [← same]
    refine .half (fun high m first => ?_) rest
    rw [same] at high
    exact (alone high m first).resolve_right (by omega)
  · rename_i other
    have valid : n.isValidChar := by
      unfold Nat.isValidChar
      omega
    have same : (Char.ofNat n).toNat = n := by rw [Char.toNat_ofNat, if_pos valid]
    conv in n :: ns => rw [← same]
    exact .char rest

theorem joinPairs_denotes {ns : List Nat} (bounds : ∀ n ∈ ns, n < 0x110000) :
    Denotes ns (joinPairs ns) := by
  fun_induction joinPairs ns with
  | case1 => exact .nil
  | case2 n =>
    refine .point (bounds n List.mem_cons_self) (fun _ m first => ?_) .nil
    cases first
  | case3 m n ns pair ih =>
    rw [Bool.and_eq_true, high_iff, low_iff] at pair
    obtain ⟨high, low⟩ := pair
    have valid : (Utf16.joined m n).isValidChar := by
      unfold Utf16.joined Nat.isValidChar
      omega
    refine .pair high low ?_ (ih fun k member => bounds k (by simp [member]))
    rw [Char.toNat_ofNat, if_pos valid]
    unfold Utf16.joined
    omega
  | case4 m n ns apart ih =>
    obtain ⟨first, others⟩ := List.forall_mem_cons.mp bounds
    refine .point first (fun high k next => ?_) (ih others)
    cases next
    rw [Bool.and_eq_true, high_iff, low_iff] at apart
    omega

theorem Body.bounds {cs : List Char} {ns : List Nat} (body : Body cs ns) :
    ∀ n ∈ ns, n < 0x110000 := by
  induction body with
  | nil => nofun
  | raw _ _ _ _ ih => exact List.forall_mem_cons.mpr ⟨toNat_bound _, ih⟩
  | letter _ _ ih => exact List.forall_mem_cons.mpr ⟨toNat_bound _, ih⟩
  | number first second third fourth _ ih =>
    refine List.forall_mem_cons.mpr ⟨?_, ih⟩
    have bound : ∀ {c d}, HexDigit c d → d < 16 := fun digit => by
      rcases digit with h | h <;> exact (List.getElem?_eq_some_iff.mp h).1
    have := bound first
    have := bound second
    have := bound third
    have := bound fourth
    omega

theorem Literals.bounds {cs : List Char} {ls : List (List Nat)} (literals : Literals cs ls) :
    ∀ ns ∈ ls, ∀ n ∈ ns, n < 0x110000 := by
  have one : ∀ {cs ns}, Literal cs ns → ∀ n ∈ ns, n < 0x110000 := fun ⟨_, body, _⟩ => body.bounds
  cases literals with
  | single literal => exact List.forall_mem_singleton.mpr (one literal)
  | none => nofun
  | array items =>
    induction items with
    | last _ literal _ => exact List.forall_mem_singleton.mpr (one literal)
    | more _ literal _ _ ih => exact List.forall_mem_cons.mpr ⟨one literal, ih⟩

theorem string_iff {opening : Nat} {cs rest : List Char} {s : Text} :
    string opening cs = .ok (s, rest) ↔
      ∃ body ns, Body body ns ∧ cs = body ++ '"' :: rest ∧ joined ns = s := by
  constructor
  · intro read
    unfold string at read
    obtain ⟨ns, units, same⟩ := map_reads (f := joined) read
    obtain ⟨body, inner, shape⟩ := codePoints_iff.mp units
    exact ⟨body, ns, inner, shape, same⟩
  · rintro ⟨body, ns, inner, rfl, rfl⟩
    rw [string, codePoints_iff.mpr ⟨body, inner, rfl⟩]
    rfl

theorem number_inv {cs rest : List Char} {v : Value} (read : number cs = .ok (v, rest)) :
    (∃ n, v = .int n) ∨ ∃ x, v = .float x := by
  unfold number at read
  split at read
  · cases read
  · split at read
    · split at read
      · cases read
      · cases read; exact .inl ⟨_, rfl⟩
    · cases read; exact .inr ⟨_, rfl⟩

theorem value_inv {fuel : Nat} {cs rest : List Char} {v : Value}
    (read : value (fuel + 1) cs = .ok (v, rest)) :
    (∃ tail s, cs = '"' :: tail ∧ v = .str s ∧ string cs.length tail = .ok (s, rest)) ∨
    (∃ tail, cs = '[' :: tail ∧ (v = .list [] ∧ skipBlanks tail = ']' :: rest ∨
      ∃ vs, v = .list vs ∧ elements fuel (skipBlanks tail) = .ok (vs, rest))) ∨
    (∀ s, v ≠ .str s) ∧ ∀ vs, v ≠ .list vs := by
  unfold value at read
  split at read
  · obtain ⟨s, text, rfl⟩ := map_reads read
    exact .inl ⟨_, s, rfl, rfl, text⟩
  · split at read
    · cases read; exact .inr (.inr (by simp))
    · obtain ⟨es, _, rfl⟩ := map_reads (f := fun es => Value.object (Entries.ofList es)) read
      exact .inr (.inr (by simp))
  · split at read
    · rename_i close
      cases read
      exact .inr (.inl ⟨_, rfl, .inl ⟨rfl, close⟩⟩)
    · obtain ⟨vs, items, rfl⟩ := map_reads read
      exact .inr (.inl ⟨_, rfl, .inr ⟨vs, rfl, items⟩⟩)
  · cases read; exact .inr (.inr (by simp))
  · cases read; exact .inr (.inr (by simp))
  · cases read; exact .inr (.inr (by simp))
  · cases read; exact .inr (.inr (by simp))
  · cases read; exact .inr (.inr (by simp))
  · cases read; exact .inr (.inr (by simp))
  · rcases number_inv read with ⟨n, rfl⟩ | ⟨x, rfl⟩ <;> exact .inr (.inr (by simp))

theorem blank_append {cs ds : List Char} (left : Blank cs) (right : Blank ds) : Blank (cs ++ ds) :=
  List.forall_mem_append.mpr ⟨left, right⟩

theorem skipBlanks_cut {cs ds : List Char} (left : skipBlanks cs = ds) :
    ∃ blanks, Blank blanks ∧ cs = blanks ++ ds :=
  ⟨cs.takeWhile isBlank, fun _ hc => List.mem_takeWhile_imp hc, by
    rw [← left]; exact List.takeWhile_append_dropWhile.symm⟩

theorem Elements.pad {blanks cs : List Char} {ls : List (List Nat)} (blank : Blank blanks)
    (items : Elements cs ls) : Elements (blanks ++ cs) ls := by
  cases items with
  | last free literal empty =>
    simpa only [List.append_assoc] using Elements.last (blank_append blank free) literal empty
  | more free literal empty rest =>
    simpa only [List.append_assoc] using
      Elements.more (blank_append blank free) literal empty rest

theorem value_literal {fuel : Nat} {cs rest : List Char} {s : Text}
    (read : value fuel cs = .ok (.str s, rest)) :
    ∃ inner ns, Literal inner ns ∧ cs = inner ++ rest ∧ joined ns = s := by
  cases fuel with
  | zero => cases read
  | succ fuel =>
    rcases value_inv read with ⟨tail, t, rfl, same, text⟩ | ⟨_, _, form⟩ | ⟨other, _⟩
    · cases same
      obtain ⟨body, ns, inner, rfl, spelled⟩ := string_iff.mp text
      exact ⟨_, ns, ⟨body, inner, rfl⟩, by simp, spelled⟩
    · rcases form with ⟨same, _⟩ | ⟨_, same, _⟩ <;> cases same
    · exact absurd rfl (other s)

theorem elements_sound {fuel : Nat} {cs rest : List Char} {names : List Text}
    (read : elements fuel cs = .ok (names.map .str, rest)) :
    ∃ inner ls, Elements inner ls ∧ cs = inner ++ ']' :: rest ∧ ls.map joined = names := by
  induction fuel generalizing cs names with
  | zero => cases read
  | succ fuel ih =>
    rw [elements] at read
    split at read
    · cases read
    · rename_i v behind first
      split at read
      · rename_i tail close
        obtain ⟨blanks, blank, rfl⟩ := skipBlanks_cut close
        obtain ⟨same, rfl⟩ := Prod.mk.inj (Except.ok.inj read)
        obtain ⟨s, names, rfl, rfl, others⟩ := List.map_eq_cons_iff.mp same.symm
        cases List.map_eq_nil_iff.mp others
        obtain ⟨inner, ns, literal, rfl, rfl⟩ := value_literal first
        exact ⟨_, [ns], .last blank_nil literal blank, by simp, rfl⟩
      · rename_i tail comma
        obtain ⟨blanks, blank, rfl⟩ := skipBlanks_cut comma
        obtain ⟨vs, later, same⟩ := map_reads read
        obtain ⟨s, names, rfl, rfl, rfl⟩ := List.map_eq_cons_iff.mp same.symm
        obtain ⟨inner, ns, literal, rfl, rfl⟩ := value_literal first
        obtain ⟨others, ls, items, left, rfl⟩ := ih later
        obtain ⟨gap, free, rfl⟩ := skipBlanks_cut left
        exact ⟨_, ns :: ls, .more blank_nil literal blank (items.pad free), by simp, rfl⟩
      · cases read

theorem value_array {fuel : Nat} {cs rest : List Char} {names : List Text}
    (read : value fuel cs = .ok (.list (names.map .str), rest)) :
    ∃ inner ls, Literals inner ls ∧ cs = inner ++ rest ∧ ls.map joined = names := by
  cases fuel with
  | zero => cases read
  | succ fuel =>
    rcases value_inv read with ⟨_, _, _, same, _⟩ | ⟨tail, rfl, form⟩ | ⟨_, other⟩
    · cases same
    · rcases form with ⟨same, close⟩ | ⟨vs, same, items⟩
      · obtain ⟨gap, free, rfl⟩ := skipBlanks_cut close
        cases List.map_eq_nil_iff.mp (Value.list.inj same)
        exact ⟨_, [], .none free, by simp, rfl⟩
      · cases same
        obtain ⟨inner, ls, grammar, left, rfl⟩ := elements_sound items
        obtain ⟨gap, free, rfl⟩ := skipBlanks_cut left
        exact ⟨_, ls, .array (grammar.pad free), by simp, rfl⟩
    · exact absurd rfl (other _)

theorem literal_spells {cs : List Char} {ns : List Nat} (literal : Literal cs ns) :
    Spells cs (.str (joined ns)) := by
  obtain ⟨body, inner, rfl⟩ := literal
  intro fuel rest _ enough
  obtain ⟨fuel, rfl⟩ : ∃ n, fuel = n + 1 := ⟨fuel - 1, by simp at enough; omega⟩
  rw [List.cons_append, List.append_assoc, List.singleton_append, value,
    string_iff.mpr ⟨body, ns, inner, rfl, rfl⟩]
  rfl

theorem elements_complete {cs : List Char} {ls : List (List Nat)} (items : Elements cs ls)
    (fuel : Nat) (enough : 2 * cs.length + 1 ≤ fuel) (rest : List Char) :
    elements fuel (skipBlanks (cs ++ ']' :: rest)) =
      .ok ((ls.map joined).map .str, rest) := by
  induction items generalizing fuel with
  | @last before cs behind ns free literal empty =>
    simp only [List.length_append] at enough
    obtain ⟨fuel, rfl⟩ : ∃ n, fuel = n + 1 := ⟨fuel - 1, by omega⟩
    have first := literal_spells literal fuel (behind ++ ']' :: rest)
      (stops_blanks empty (by simp [Stops])) (by omega)
    rw [List.append_assoc, List.append_assoc, skipBlanks_blanks free,
      skipBlanks_starts (value_starts first)]
    exact elements_last empty first
  | @more before cs behind others ns ls free literal empty _ ih =>
    simp only [List.length_append, List.length_cons] at enough
    obtain ⟨fuel, rfl⟩ : ∃ n, fuel = n + 1 := ⟨fuel - 1, by omega⟩
    have later := ih fuel (by omega)
    obtain ⟨gap, blank, cut⟩ := skipBlanks_cut (rfl : skipBlanks (others ++ ']' :: rest) = _)
    have first := literal_spells literal fuel (behind ++ ',' :: (others ++ ']' :: rest))
      (stops_blanks empty (by simp [Stops])) (by omega)
    have starts := skipBlanks_starts (value_starts first)
    simp only [List.append_assoc, List.cons_append, skipBlanks_blanks free, starts]
    rw [cut] at first ⊢
    rw [elements_more blank empty first (elements_starts later), later]
    rfl

theorem array_spells {cs : List Char} {ls : List (List Nat)} (items : Elements cs ls) :
    Spells ('[' :: (cs ++ [']'])) (.list ((ls.map joined).map .str)) := by
  intro fuel rest _ enough
  simp only [List.length_cons, List.length_append] at enough
  obtain ⟨fuel, rfl⟩ : ∃ n, fuel = n + 1 := ⟨fuel - 1, by omega⟩
  have read := elements_complete items fuel (by omega) rest
  obtain ⟨gap, blank, cut⟩ := skipBlanks_cut (rfl : skipBlanks (cs ++ ']' :: rest) = _)
  rw [List.cons_append, List.append_assoc, List.singleton_append, cut,
    value_list blank (elements_starts read), read]
  rfl

end Columnar.Json
