import Columnar.Proofs.Json.Numerals

/-! The grammar of documents, and the reader held against it: the texts that are read are those of
values between blanks. Arrays and objects differ in their pieces only, which in an object have
names. -/
namespace Columnar.Json
open Text

inductive Kind
  | array
  | object

namespace Kind

def opening : Kind → Char
  | array => '['
  | object => '{'

def closing : Kind → Char
  | array => ']'
  | object => '}'

end Kind

def names : List (List Char) :=
  ["null".toList, "true".toList, "false".toList, "NaN".toList, "Infinity".toList, "-Infinity".toList]

inductive Part
  | value
  | piece (kind : Kind)
  | pieces (kind : Kind)

/-- The texts of a part. Blanks stand around the pieces and around the colon behind a name. -/
inductive Form : Part → List Char → Prop
  | name {cs : List Char} (listed : cs ∈ names) : Form .value cs
  | string {cs : List Char} {ns : List Nat} (literal : Literal cs ns) : Form .value cs
  | number {cs : List Char} (number : Number cs) : Form .value cs
  | none {kind : Kind} {gap : List Char} (blank : Blank gap) :
      Form .value (kind.opening :: (gap ++ [kind.closing]))
  | some {kind : Kind} {cs : List Char} (pieces : Form (.pieces kind) cs) :
      Form .value (kind.opening :: (cs ++ [kind.closing]))
  | element {cs : List Char} (value : Form .value cs) : Form (.piece .array) cs
  | entry {key before after cs : List Char} {ns : List Nat} (literal : Literal key ns)
      (empty : Blank before) (free : Blank after) (value : Form .value cs) :
      Form (.piece .object) (key ++ (before ++ ':' :: (after ++ cs)))
  | last {kind : Kind} {before cs behind : List Char} (free : Blank before)
      (piece : Form (.piece kind) cs) (empty : Blank behind) :
      Form (.pieces kind) (before ++ (cs ++ behind))
  | more {kind : Kind} {before cs behind others : List Char} (free : Blank before)
      (piece : Form (.piece kind) cs) (empty : Blank behind) (rest : Form (.pieces kind) others) :
      Form (.pieces kind) (before ++ (cs ++ (behind ++ ',' :: others)))

theorem Form.pad {kind : Kind} {blanks cs : List Char} (blank : Blank blanks)
    (pieces : Form (.pieces kind) cs) : Form (.pieces kind) (blanks ++ cs) := by
  cases pieces with
  | last free piece empty =>
    rw [← List.append_assoc]
    exact .last (blank_append blank free) piece empty
  | more free piece empty rest =>
    rw [← List.append_assoc]
    exact .more (blank_append blank free) piece empty rest

def Takes (part : Part) (cs rest : List Char) : Prop := ∃ text, Form part text ∧ cs = text ++ rest

theorem string_literal {opening : Nat} {cs rest : List Char} {s : Text}
    (read : string opening cs = .ok (s, rest)) :
    ∃ key ns, Literal key ns ∧ '"' :: cs = key ++ rest := by
  obtain ⟨body, ns, inner, rfl, _⟩ := string_iff.mp read
  exact ⟨_, ns, ⟨body, inner, rfl⟩, by simp⟩

section
variable {fuel : Nat}
  (items : ∀ cs vs rest, elements fuel cs = .ok (vs, rest) →
    Takes (.pieces .array) cs (']' :: rest))
  (entries : ∀ cs es rest, members fuel cs = .ok (es, rest) →
    Takes (.pieces .object) cs ('}' :: rest))
  (values : ∀ cs v rest, value fuel cs = .ok (v, rest) → Takes .value cs rest)
  {cs rest : List Char}

theorem taken_inside (kind : Kind) {tail inner : List Char}
    (blanks : skipBlanks tail = inner)
    (inside : inner = kind.closing :: rest ∨ Takes (.pieces kind) inner (kind.closing :: rest)) :
    Takes .value (kind.opening :: tail) rest := by
  obtain ⟨gap, blank, rfl⟩ := skipBlanks_cut blanks
  rcases inside with rfl | ⟨text, pieces, rfl⟩
  · exact ⟨kind.opening :: (gap ++ [kind.closing]), .none blank, by simp⟩
  · exact ⟨kind.opening :: (gap ++ text ++ [kind.closing]), .some (pieces.pad blank), by simp⟩

include items entries in
theorem value_takes {v : Value} (read : value (fuel + 1) cs = .ok (v, rest)) :
    Takes .value cs rest := by
  unfold value at read
  split at read
  · obtain ⟨s, text, _⟩ := map_reads read
    obtain ⟨key, ns, literal, same⟩ := string_literal text
    exact ⟨key, .string literal, same⟩
  · split at read
    · rename_i close
      cases read
      exact taken_inside .object rfl (.inl close)
    · obtain ⟨es, inner, _⟩ := map_reads (f := fun es => Value.object (Entries.ofList es)) read
      exact taken_inside .object rfl (.inr (entries _ es rest inner))
  · split at read
    · rename_i close
      cases read
      exact taken_inside .array rfl (.inl close)
    · obtain ⟨vs, inner, _⟩ := map_reads read
      exact taken_inside .array rfl (.inr (items _ vs rest inner))
  · cases read; exact ⟨"null".toList, .name (by simp [names]), rfl⟩
  · cases read; exact ⟨"true".toList, .name (by simp [names]), rfl⟩
  · cases read; exact ⟨"false".toList, .name (by simp [names]), rfl⟩
  · cases read; exact ⟨"NaN".toList, .name (by simp [names]), rfl⟩
  · cases read; exact ⟨"Infinity".toList, .name (by simp [names]), rfl⟩
  · cases read; exact ⟨"-Infinity".toList, .name (by simp [names]), rfl⟩
  · obtain ⟨text, number, same⟩ := number_sound read
    exact ⟨text, .number number, same⟩

/-- A piece in front of what closes the list, or of a comma and further pieces. -/
theorem taken_piece {kind : Kind} {behind left : List Char} (piece : Takes (.piece kind) cs behind)
    (blanks : skipBlanks behind = left)
    (next : left = kind.closing :: rest ∨
      ∃ tail, left = ',' :: tail ∧ Takes (.pieces kind) (skipBlanks tail) (kind.closing :: rest)) :
    Takes (.pieces kind) cs (kind.closing :: rest) := by
  obtain ⟨text, form, rfl⟩ := piece
  obtain ⟨gap, blank, rfl⟩ := skipBlanks_cut blanks
  rcases next with rfl | ⟨tail, rfl, others, pieces, same⟩
  · exact ⟨_, .last blank_nil form blank, by simp⟩
  · obtain ⟨spaces, space, rfl⟩ := skipBlanks_cut same
    exact ⟨_, .more blank_nil form blank (pieces.pad space), by simp⟩

include items values in
theorem elements_take {vs : List Value} (read : elements (fuel + 1) cs = .ok (vs, rest)) :
    Takes (.pieces .array) cs (']' :: rest) := by
  rw [elements] at read
  split at read
  · cases read
  · rename_i v behind first
    obtain ⟨text, form, rfl⟩ := values _ v behind first
    have piece : Takes (.piece .array) (text ++ behind) behind := ⟨text, .element form, rfl⟩
    split at read
    · rename_i close
      cases read
      exact taken_piece piece rfl (.inl close)
    · rename_i tail comma
      obtain ⟨ws, later, _⟩ := map_reads read
      exact taken_piece piece rfl (.inr ⟨tail, comma, items _ ws rest later⟩)
    · cases read

include entries values in
theorem members_take {es : Entries} (read : members (fuel + 1) cs = .ok (es, rest)) :
    Takes (.pieces .object) cs ('}' :: rest) := by
  unfold members at read
  split at read
  · split at read
    · cases read
    · rename_i name left text
      obtain ⟨key, ns, literal, same⟩ := string_literal text
      split at read
      · rename_i tail colon
        obtain ⟨gap, empty, rfl⟩ := skipBlanks_cut colon
        split at read
        · cases read
        · rename_i v behind first
          obtain ⟨under, form, cut⟩ := values _ v behind first
          obtain ⟨spaces, free, rfl⟩ := skipBlanks_cut cut
          have piece : Takes (.piece .object) ('"' :: _) behind :=
            ⟨_, .entry literal empty free form, by rw [same]; simp⟩
          split at read
          · rename_i close
            cases read
            exact taken_piece piece rfl (.inl close)
          · rename_i others comma
            obtain ⟨fs, later, _⟩ := map_reads (f := fun fs => (Value.str name, v) :: fs) read
            exact taken_piece piece rfl (.inr ⟨others, comma, entries _ fs rest later⟩)
          · cases read
      · cases read
  · cases read

end

/-- Whatever the readers take off a text has the form of what they read. -/
theorem readers_take (fuel : Nat) :
    (∀ cs v rest, value fuel cs = .ok (v, rest) → Takes .value cs rest) ∧
    (∀ cs vs rest, elements fuel cs = .ok (vs, rest) → Takes (.pieces .array) cs (']' :: rest)) ∧
    ∀ cs es rest, members fuel cs = .ok (es, rest) → Takes (.pieces .object) cs ('}' :: rest) := by
  induction fuel with
  | zero => exact ⟨nofun, nofun, nofun⟩
  | succ fuel ih =>
    obtain ⟨values, items, entries⟩ := ih
    exact ⟨fun _ _ _ => value_takes items entries, fun _ _ _ => elements_take items values,
      fun _ _ _ => members_take entries values⟩

namespace Kind

def Pieces : Kind → Type
  | array => List Value
  | object => Entries

def read : (kind : Kind) → Nat → List Char → Reading kind.Pieces
  | array => elements
  | object => members

def whole : (kind : Kind) → kind.Pieces → Value
  | array, vs => .list vs
  | object, es => .object (Entries.ofList es)

/-- One piece, read in front of what closes the list, and in front of a comma, where it is up to the
others what becomes of the text. -/
structure Settles (kind : Kind) (cs : List Char) : Prop where
  starts : ∀ tail, skipBlanks (cs ++ tail) = cs ++ tail
  closes : ∃ ps, ∀ fuel behind rest, 2 * cs.length ≤ fuel → Blank behind →
    kind.read (fuel + 1) (cs ++ (behind ++ kind.closing :: rest)) = .ok (ps, rest)
  passes : ∃ f : kind.Pieces → kind.Pieces,
    ∀ fuel behind others, 2 * cs.length ≤ fuel → Blank behind →
      kind.read (fuel + 1) (cs ++ (behind ++ ',' :: others)) =
        (kind.read fuel (skipBlanks others)).map fun p => (f p.1, p.2)

end Kind

def Reads : Part → List Char → Prop
  | .value, cs => ∃ v, Spells cs v
  | .piece kind, cs => kind.Settles cs
  | .pieces kind, cs => ∃ ps, ∀ fuel rest, 2 * cs.length + 1 ≤ fuel →
    kind.read fuel (skipBlanks (cs ++ kind.closing :: rest)) = .ok (ps, rest)

theorem spells_solid {cs : List Char} {v : Value} (spells : Spells cs v) (tail : List Char) :
    skipBlanks (cs ++ tail) = cs ++ tail := by
  have read := spells (2 * cs.length) [] stops_nil (Nat.le_refl _)
  obtain ⟨c, rest, same, solid, _⟩ := value_starts read
  rw [List.append_nil] at same
  rw [same]
  simp [skipBlanks, solid]

theorem element_settles {cs : List Char} {v : Value} (spells : Spells cs v) :
    Kind.array.Settles cs := by
  refine ⟨spells_solid spells, ⟨[v], fun fuel behind rest enough empty => ?_⟩,
    ⟨fun vs => v :: vs, fun fuel behind others enough empty => ?_⟩⟩
  · exact elements_last empty (spells fuel _ (stops_blanks empty (by simp [Stops, Kind.closing])) enough)
  · have first := spells fuel (behind ++ ',' :: others) (stops_blanks empty (by simp [Stops])) enough
    have comma : skipBlanks (',' :: others) = ',' :: others := rfl
    rw [Kind.read, elements, first]
    simp only [skipBlanks_blanks empty, comma]
    rfl

theorem entry_settles {key before after cs : List Char} {ns : List Nat} {v : Value}
    (literal : Literal key ns) (empty : Blank before) (free : Blank after) (spells : Spells cs v) :
    Kind.object.Settles (key ++ (before ++ ':' :: (after ++ cs))) := by
  obtain ⟨body, inner, rfl⟩ := literal
  have name : ∀ opening rest, string opening (body ++ '"' :: rest) = .ok (joined ns, rest) :=
    fun opening rest => string_iff.mpr ⟨body, ns, inner, rfl, rfl⟩
  have colon : ∀ rest, skipBlanks (':' :: rest) = ':' :: rest := fun _ => rfl
  refine ⟨fun tail => rfl, ⟨[(.str (joined ns), v)], fun fuel behind rest enough blank => ?_⟩,
    ⟨fun es => (.str (joined ns), v) :: es, fun fuel behind others enough blank => ?_⟩⟩
  · have close : skipBlanks ('}' :: rest) = '}' :: rest := rfl
    have first := spells fuel (behind ++ '}' :: rest) (stops_blanks blank (by simp [Stops]))
      (by simp at enough; omega)
    simp only [List.cons_append, List.append_assoc, List.nil_append, Kind.closing]
    rw [Kind.read, members, name]
    simp only [skipBlanks_blanks empty, colon, skipBlanks_blanks free, spells_solid spells, first,
      skipBlanks_blanks blank, close]
    rfl
  · have comma : skipBlanks (',' :: others) = ',' :: others := rfl
    have first := spells fuel (behind ++ ',' :: others) (stops_blanks blank (by simp [Stops]))
      (by simp at enough; omega)
    simp only [List.cons_append, List.append_assoc, List.nil_append]
    rw [Kind.read, members, name]
    simp only [skipBlanks_blanks empty, colon, skipBlanks_blanks free, spells_solid spells, first,
      skipBlanks_blanks blank, comma]
    rfl

theorem closing_malformed (kind : Kind) (fuel : Nat) (tail : List Char) :
    ∃ cause left, kind.read fuel (kind.closing :: tail) = .error (.malformed cause left) := by
  cases kind with
  | array =>
    match fuel with
    | 0 | 1 | _ + 2 => exact ⟨_, _, rfl⟩
  | object => cases fuel <;> exact ⟨_, _, rfl⟩

theorem value_pieces (kind : Kind) {fuel : Nat} {tail : List Char}
    (inside : ∀ rest, skipBlanks tail ≠ kind.closing :: rest) :
    value (fuel + 1) (kind.opening :: tail) =
      (kind.read fuel (skipBlanks tail)).map fun p => (kind.whole p.1, p.2) := by
  cases kind with
  | array =>
    rw [Kind.opening, value]
    split
    · rename_i same
      exact absurd same (inside _)
    · rfl
  | object =>
    rw [Kind.opening, value]
    split
    · rename_i same
      exact absurd same (inside _)
    · rfl

theorem name_spells {cs : List Char} (listed : cs ∈ names) : ∃ v, Spells cs v := by
  have spells : ∀ v, (∀ fuel rest, value (fuel + 1) (cs ++ rest) = .ok (v, rest)) →
      cs ≠ [] → Spells cs v := by
    intro v read some fuel rest _ enough
    have long := List.length_pos_of_ne_nil some
    obtain ⟨fuel, rfl⟩ : ∃ n, fuel = n + 1 := ⟨fuel - 1, by omega⟩
    exact read fuel rest
  simp only [names, List.mem_cons, List.not_mem_nil, or_false] at listed
  rcases listed with rfl | rfl | rfl | rfl | rfl | rfl
  · exact ⟨.null, spells _ (fun _ _ => rfl) (by decide)⟩
  · exact ⟨.bool true, spells _ (fun _ _ => rfl) (by decide)⟩
  · exact ⟨.bool false, spells _ (fun _ _ => rfl) (by decide)⟩
  · exact ⟨.float .nan, spells _ (fun _ _ => rfl) (by decide)⟩
  · exact ⟨.float (.infinite false), spells _ (fun _ _ => rfl) (by decide)⟩
  · exact ⟨.float (.infinite true), spells _ (fun _ _ => rfl) (by decide)⟩

theorem value_number {sign ds rest : List Char} (signed : sign = [] ∨ sign = ['-'])
    (whole : Whole ds) (fuel : Nat) :
    value (fuel + 1) (sign ++ (ds ++ rest)) = number (sign ++ (ds ++ rest)) := by
  obtain ⟨d, tail, rfl, digit⟩ := figures_head whole.1
  obtain ⟨plain, negative⟩ := value_digits digit fuel (tail ++ rest)
  rcases signed with rfl | rfl
  · exact plain
  · exact negative

theorem number_spells {cs : List Char} (form : Number cs) : ∃ v, Spells cs v := by
  obtain ⟨v, read⟩ := number_complete form
  obtain ⟨sign, ds, fraction, exponent, signed, whole, _, _, _, rfl⟩ := form
  refine ⟨v, fun fuel rest stops enough => ?_⟩
  have some := List.length_pos_of_ne_nil whole.1.1
  simp only [List.length_append] at enough
  obtain ⟨fuel, rfl⟩ : ∃ n, fuel = n + 1 := ⟨fuel - 1, by omega⟩
  rw [← read rest stops]
  simp only [List.append_assoc]
  exact value_number signed whole fuel

theorem none_spells (kind : Kind) {gap : List Char} (blank : Blank gap) :
    ∃ v, Spells (kind.opening :: (gap ++ [kind.closing])) v := by
  cases kind with
  | array => exact ⟨.list [], spells_none blank⟩
  | object =>
    refine ⟨.object [], fun fuel rest _ enough => ?_⟩
    simp only [List.length_cons] at enough
    obtain ⟨fuel, rfl⟩ : ∃ n, fuel = n + 1 := ⟨fuel - 1, by omega⟩
    rw [Kind.opening, List.cons_append, List.append_assoc, value, skipBlanks_blanks blank]
    rfl

theorem pieces_spell (kind : Kind) {cs : List Char} (reads : Reads (.pieces kind) cs) :
    ∃ v, Spells (kind.opening :: (cs ++ [kind.closing])) v := by
  obtain ⟨ps, read⟩ := reads
  refine ⟨kind.whole ps, fun fuel rest _ enough => ?_⟩
  simp only [List.length_cons, List.length_append] at enough
  obtain ⟨fuel, rfl⟩ : ∃ n, fuel = n + 1 := ⟨fuel - 1, by omega⟩
  have inner := read fuel rest (by omega)
  -- Pieces that are read do not start with what closes the list.
  have inside : ∀ tail, skipBlanks (cs ++ kind.closing :: rest) ≠ kind.closing :: tail := by
    intro tail same
    obtain ⟨cause, left, malformed⟩ := closing_malformed kind fuel tail
    rw [same, malformed] at inner
    cases inner
  rw [List.cons_append, List.append_assoc, List.singleton_append, value_pieces kind inside, inner]
  rfl

theorem form_reads {part : Part} {cs : List Char} (form : Form part cs) : Reads part cs := by
  induction form with
  | name listed => exact name_spells listed
  | string literal => exact ⟨_, literal_spells literal⟩
  | number form => exact number_spells form
  | @none kind gap blank => exact none_spells kind blank
  | @some kind cs _ ih => exact pieces_spell kind ih
  | element _ ih =>
    obtain ⟨v, spells⟩ := ih
    exact element_settles spells
  | entry literal empty free _ ih =>
    obtain ⟨v, spells⟩ := ih
    exact entry_settles literal empty free spells
  | @last kind before cs behind free _ empty ih =>
    obtain ⟨ps, read⟩ := ih.closes
    refine ⟨ps, fun fuel rest enough => ?_⟩
    simp only [List.length_append] at enough
    obtain ⟨fuel, rfl⟩ : ∃ n, fuel = n + 1 := ⟨fuel - 1, by omega⟩
    simp only [List.append_assoc]
    rw [skipBlanks_blanks free, ih.starts]
    exact read fuel behind rest (by omega) empty
  | @more kind before cs behind others free _ empty _ ih others_ih =>
    obtain ⟨f, step⟩ := ih.passes
    obtain ⟨ps, read⟩ := others_ih
    refine ⟨f ps, fun fuel rest enough => ?_⟩
    simp only [List.length_append, List.length_cons] at enough
    obtain ⟨fuel, rfl⟩ : ∃ n, fuel = n + 1 := ⟨fuel - 1, by omega⟩
    simp only [List.append_assoc, List.cons_append]
    rw [skipBlanks_blanks free, ih.starts, step fuel behind _ (by omega) empty,
      read fuel rest (by omega)]
    rfl

/-- The text of a document: a value between blanks. -/
def DocumentText (text : List Char) : Prop :=
  ∃ before inner behind, Blank before ∧ Form .value inner ∧ Blank behind ∧
    text = before ++ (inner ++ behind)

/-- The reader takes the texts of documents and no other text. -/
theorem read_iff {text : List Char} : (∃ v, Json.read text = .ok v) ↔ DocumentText text := by
  constructor
  · rintro ⟨v, read⟩
    obtain ⟨_, rest, first, ends⟩ := read_ok.mp read
    obtain ⟨behind, empty, rfl⟩ := skipBlanks_cut ends
    obtain ⟨before, free, cut⟩ := skipBlanks_cut (rfl : skipBlanks text = _)
    obtain ⟨inner, form, same⟩ := (readers_take _).1 _ _ _ first
    exact ⟨before, inner, behind, free, form, empty, by rw [cut, same, List.append_nil]⟩
  · rintro ⟨before, inner, behind, free, form, empty, rfl⟩
    obtain ⟨v, spells⟩ := form_reads form
    exact ⟨v, read_value spells free empty⟩

end Columnar.Json
