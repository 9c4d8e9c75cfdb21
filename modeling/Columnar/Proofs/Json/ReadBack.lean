import Columnar.Proofs.Documents
import Columnar.Proofs.Json.Numbers
import Columnar.Proofs.Json.Strings
import Columnar.Proofs.Writable

/-! Written documents, read back. The marks between values and the strings are a matter of the
style; the scalars are a parameter, so that each kind of number is settled by itself. -/
namespace Columnar

namespace Value

/-- Two halves side by side that make a pair: written by number they are read as one character. -/
def isSplit : Value → Bool
  | .str t => !decide t.Joined
  | _ => false

theorem joined_iff {t : Text} : (Value.str t).holds isSplit = false ↔ t.Joined := by
  simp [isSplit]

theorem split_broken {v : Value} (split : v.isSplit = true) : v.isBroken = true := by
  cases v with
  | str t =>
    cases t with
    | whole s => simp [isSplit, Text.joined_whole] at split
    | broken => rfl
  | _ => cases split

theorem apart_of_whole {allowed : Value → Prop} {v : Value} (json : v.IsJson allowed)
    (whole : v.holdsHalf = false) : v.holds isSplit = false :=
  json.holds_mono (fun _ => split_broken) whole

end Value

namespace Json

def Blank (cs : List Char) : Prop := ∀ c ∈ cs, isBlank c = true

theorem blank_nil : Blank [] := nofun

/-- A style whose strings are read back, if no two halves in them make a pair, and whose marks are
followed by blanks only. -/
structure Style.Lawful (style : Style) : Prop where
  string : ∀ t : Text, t.Joined → ∃ body, style.string t = '"' :: body ∧
    ∀ opening rest, Json.string opening (body ++ rest) = .ok (t, rest)
  comma : ∃ blanks, style.comma = ',' :: blanks ∧ Blank blanks
  colon : ∃ blanks, style.colon = ':' :: blanks ∧ Blank blanks

theorem quoteWith_read {spell : Char → List Char} (readable : Readable spell) (t : Text)
    (joined : t.Joined) : ∃ body, quoteWith spell t = '"' :: body ∧
      ∀ opening rest, string opening (body ++ rest) = .ok (t, rest) := by
  refine ⟨t.points.flatMap (spellPoint spell) ++ ['"'], rfl, fun opening rest => ?_⟩
  rw [List.append_assoc]
  exact string_readable readable opening joined rest

theorem compact_lawful : compact.Lawful :=
  ⟨quoteWith_read rawChar_readable, ⟨[], rfl, blank_nil⟩, ⟨[], rfl, blank_nil⟩⟩

/-- A scalar that is read back in front of anything it cannot run on into. -/
def ReadsBack (style : Style) (v : Value) : Prop :=
  ∀ fuel rest, Stops rest → value (fuel + 1) (scalarText style v ++ rest) = .ok (v, rest)

def Starts (cs : List Char) : Prop :=
  ∃ c tail, cs = c :: tail ∧ isBlank c = false ∧ c ≠ ']' ∧ c ≠ '\uFEFF'

theorem value_starts {fuel : Nat} {cs : List Char} {p : Value × List Char}
    (read : value fuel cs = .ok p) : Starts cs := by
  cases fuel with
  | zero => cases read
  | succ fuel =>
    cases cs with
    | nil => cases read
    | cons c tail =>
      refine ⟨c, tail, rfl, ?_, ?_, ?_⟩
      · cases blank : isBlank c with
        | false => rfl
        | true =>
          simp only [isBlank, Bool.or_eq_true, beq_iff_eq] at blank
          rcases blank with ((rfl | rfl) | rfl) | rfl <;> cases read
      · rintro rfl; cases read
      · rintro rfl; cases read

theorem elements_starts {fuel : Nat} {cs : List Char} {p : List Value × List Char}
    (read : elements fuel cs = .ok p) : Starts cs := by
  cases fuel with
  | zero => cases read
  | succ fuel =>
    rw [elements] at read
    cases first : value fuel cs with
    | error e => rw [first] at read; cases read
    | ok p => exact value_starts first

theorem skipBlanks_starts {cs : List Char} (starts : Starts cs) : skipBlanks cs = cs := by
  obtain ⟨c, tail, rfl, solid, _⟩ := starts
  simp [skipBlanks, solid]

theorem skipBlanks_blanks {blanks : List Char} (blank : Blank blanks)
    (cs : List Char) : skipBlanks (blanks ++ cs) = skipBlanks cs :=
  List.dropWhile_append_of_pos blank

theorem value_list {fuel : Nat} {blanks cs : List Char} (blank : Blank blanks)
    (starts : Starts cs) : value (fuel + 1) ('[' :: (blanks ++ cs)) =
      (elements fuel cs).map fun p => (.list p.1, p.2) := by
  rw [value, skipBlanks_blanks blank, skipBlanks_starts starts]
  obtain ⟨c, tail, rfl, _, open', _⟩ := starts
  split
  · rename_i same
    exact absurd (List.cons.inj same).1 open'
  · rfl

theorem value_object (fuel : Nat) {blanks : List Char} (blank : Blank blanks)
    (cs : List Char) : value (fuel + 1) ('{' :: (blanks ++ '"' :: cs)) =
      (members fuel ('"' :: cs)).map fun p => (.object (Entries.ofList p.1), p.2) := by
  rw [value, skipBlanks_blanks blank]
  rfl

section
variable {fuel : Nat} {cs more rest blanks behind : List Char} {v : Value}
  (blank : Blank blanks) (empty : Blank behind)

include empty in
theorem elements_last (read : value fuel cs = .ok (v, behind ++ ']' :: rest)) :
    elements (fuel + 1) cs = .ok ([v], rest) := by
  have close : skipBlanks (']' :: rest) = ']' :: rest := rfl
  rw [elements, read]
  simp only [skipBlanks_blanks empty, close]

include blank empty in
theorem elements_more (read : value fuel cs = .ok (v, behind ++ ',' :: (blanks ++ more)))
    (starts : Starts more) :
    elements (fuel + 1) cs = (elements fuel more).map fun p => (v :: p.1, p.2) := by
  have comma : skipBlanks (',' :: (blanks ++ more)) = ',' :: (blanks ++ more) := rfl
  rw [elements, read]
  simp only [skipBlanks_blanks empty, comma, skipBlanks_blanks blank, skipBlanks_starts starts]

variable {name : Text} (key : ∀ opening, string opening cs = .ok (name, ':' :: (blanks ++ more)))

include blank key

include empty in
theorem members_last (read : value fuel more = .ok (v, behind ++ '}' :: rest)) :
    members (fuel + 1) ('"' :: cs) = .ok ([(.str name, v)], rest) := by
  have colon : skipBlanks (':' :: (blanks ++ more)) = ':' :: (blanks ++ more) := rfl
  have close : skipBlanks ('}' :: rest) = '}' :: rest := rfl
  rw [members, key]
  simp only [colon, skipBlanks_blanks blank, skipBlanks_starts (value_starts read), read,
    skipBlanks_blanks empty, close]

theorem members_more {spaces others : List Char} (space : Blank spaces)
    (read : value fuel more = .ok (v, ',' :: (spaces ++ '"' :: others))) :
    members (fuel + 1) ('"' :: cs) =
      (members fuel ('"' :: others)).map fun p => ((.str name, v) :: p.1, p.2) := by
  have colon : skipBlanks (':' :: (blanks ++ more)) = ':' :: (blanks ++ more) := rfl
  have comma : skipBlanks (',' :: (spaces ++ '"' :: others)) = ',' :: (spaces ++ '"' :: others) :=
    rfl
  have quote : skipBlanks ('"' :: others) = '"' :: others := rfl
  rw [members, key]
  simp only [colon, skipBlanks_blanks blank, skipBlanks_starts (value_starts read), read, comma,
    skipBlanks_blanks space, quote]

end

/-- The text is read as the value, given fuel for each of its characters twice. -/
def Spells (text : List Char) (v : Value) : Prop :=
  ∀ fuel rest, Stops rest → 2 * text.length ≤ fuel → value fuel (text ++ rest) = .ok (v, rest)

def SpellsEntry (text : List Char) (e : Value × Value) : Prop :=
  ∃ name body blanks under, e.1 = .str name ∧
    text = '"' :: (body ++ ':' :: (blanks ++ under)) ∧
    (∀ opening rest, string opening (body ++ rest) = .ok (name, rest)) ∧
    Blank blanks ∧ Spells under e.2

theorem stops_blanks {blanks : List Char} (blank : Blank blanks)
    {rest : List Char} (stops : Stops rest) : Stops (blanks ++ rest) := by
  cases blanks with
  | nil => exact stops
  | cons b blanks =>
    intro c first
    cases first
    have solid := blank b List.mem_cons_self
    simp only [isBlank, Bool.or_eq_true, beq_iff_eq] at solid
    rcases solid with ((rfl | rfl) | rfl) | rfl <;> decide

section
variable {blanks behind : List Char} (blank : Blank blanks)
  (empty : Blank behind)

include blank empty

theorem elements_spelled {text : Value → List Char} {vs : List Value} (nonempty : vs ≠ [])
    (each : ∀ v ∈ vs, Spells (text v) v) (fuel : Nat)
    (enough : 2 * ((',' :: blanks).intercalate (vs.map text)).length + 1 ≤ fuel)
    (rest : List Char) :
    elements fuel ((',' :: blanks).intercalate (vs.map text) ++ (behind ++ ']' :: rest)) =
      .ok (vs, rest) := by
  induction vs generalizing fuel with
  | nil => exact absurd rfl nonempty
  | cons v vs ih =>
    obtain ⟨fuel, rfl⟩ : ∃ n, fuel = n + 1 := ⟨fuel - 1, by omega⟩
    have first := each v List.mem_cons_self
    cases vs with
    | nil =>
      simp only [List.map_cons, List.map_nil, List.intercalate_singleton] at enough ⊢
      exact elements_last empty (first fuel _ (stops_blanks empty (by simp [Stops])) (by omega))
    | cons w ws =>
      have others := ih (by simp) fun u hu => each u (List.mem_cons_of_mem _ hu)
      simp only [List.map_cons, List.intercalate_cons_cons, List.append_assoc, List.cons_append,
        List.length_append, List.length_cons] at enough others ⊢
      have later := others fuel (by omega)
      refine (elements_more blank blank_nil (first fuel _ (by simp [Stops]) (by omega))
        (elements_starts later)).trans ?_
      rw [later]
      rfl

theorem members_spelled {text : Value × Value → List Char} {es : Entries} (nonempty : es ≠ [])
    (each : ∀ e ∈ es, SpellsEntry (text e) e) (fuel : Nat)
    (enough : 2 * ((',' :: blanks).intercalate (es.map text)).length + 1 ≤ fuel)
    (rest : List Char) :
    ∃ cs, (',' :: blanks).intercalate (es.map text) ++ (behind ++ '}' :: rest) = '"' :: cs ∧
      members fuel ('"' :: cs) = .ok (es, rest) := by
  induction es generalizing fuel with
  | nil => exact absurd rfl nonempty
  | cons e es ih =>
    obtain ⟨k, v⟩ := e
    obtain ⟨fuel, rfl⟩ : ∃ n, fuel = n + 1 := ⟨fuel - 1, by omega⟩
    obtain ⟨name, body, spaces, under, same, shape, key, space, first⟩ :=
      each (k, v) List.mem_cons_self
    cases same
    cases es with
    | nil =>
      simp only [List.map_cons, List.map_nil, List.intercalate_singleton, shape,
        List.length_append, List.length_cons] at enough
      refine ⟨body ++ ':' :: (spaces ++ (under ++ (behind ++ '}' :: rest))), by simp [shape], ?_⟩
      exact members_last space empty (fun opening => key opening _)
        (first fuel _ (stops_blanks empty (by simp [Stops])) (by omega))
    | cons f fs =>
      have others := ih (by simp) fun g hg => each g (List.mem_cons_of_mem _ hg)
      simp only [List.map_cons, List.intercalate_cons_cons, shape, List.append_assoc,
        List.cons_append, List.length_append, List.length_cons] at enough others ⊢
      obtain ⟨cs, text, read⟩ := others fuel (by omega)
      refine ⟨body ++ ':' :: (spaces ++ (under ++ ',' :: (blanks ++ '"' :: cs))),
        by rw [← text], ?_⟩
      rw [members_more space (fun opening => key opening _) blank
        (first fuel _ (by simp [Stops]) (by omega)), read]
      rfl

variable {before : List Char} (free : Blank before)

include free

theorem spells_list {text : Value → List Char} {vs : List Value} (nonempty : vs ≠ [])
    (each : ∀ v ∈ vs, Spells (text v) v) :
    Spells ('[' :: (before ++ ((',' :: blanks).intercalate (vs.map text) ++ (behind ++ [']']))))
      (.list vs) := by
  intro fuel rest _ enough
  simp only [List.length_cons, List.length_append] at enough
  obtain ⟨fuel, rfl⟩ : ∃ n, fuel = n + 1 := ⟨fuel - 1, by omega⟩
  have read := elements_spelled blank empty nonempty each fuel (by omega) rest
  simp only [List.cons_append, List.append_assoc, List.nil_append]
  rw [value_list free (elements_starts read), read]
  rfl

theorem spells_object {text : Value × Value → List Char} {es : Entries} (nonempty : es ≠ [])
    (named : es.Named) (each : ∀ e ∈ es, SpellsEntry (text e) e) :
    Spells ('{' :: (before ++ ((',' :: blanks).intercalate (es.map text) ++ (behind ++ ['}']))))
      (.object es) := by
  intro fuel rest _ enough
  simp only [List.length_cons, List.length_append] at enough
  obtain ⟨fuel, rfl⟩ : ∃ n, fuel = n + 1 := ⟨fuel - 1, by omega⟩
  obtain ⟨cs, shape, read⟩ :=
    members_spelled blank empty nonempty each fuel (by omega) rest
  simp only [List.cons_append, List.append_assoc, List.nil_append, shape]
  rw [value_object fuel free, read]
  simp [Except.map, Entries.ofList_named named]

end

theorem spells_none {gap : List Char} (blank : Blank gap) :
    Spells ('[' :: (gap ++ [']'])) (.list []) := by
  intro fuel rest _ enough
  simp only [List.length_cons] at enough
  obtain ⟨fuel, rfl⟩ : ∃ n, fuel = n + 1 := ⟨fuel - 1, by omega⟩
  rw [List.cons_append, List.append_assoc, value, skipBlanks_blanks blank]
  rfl

theorem spells_empty : Spells ['{', '}'] (.object []) := by
  intro fuel rest _ enough
  obtain ⟨fuel, rfl⟩ : ∃ n, fuel = n + 1 := ⟨fuel - 1, by simp at enough; omega⟩
  rfl

section
variable {style : Style}

theorem write_scalar {v : Value} (kind : Document.isScalar v = true) :
    write style v = scalarText style v := by
  cases v with
  | null | bool | int | float | str => rfl
  | _ => cases kind

theorem spells_scalar {v : Value} (reads : ReadsBack style v) :
    Spells (scalarText style v) v := by
  intro fuel rest stops enough
  obtain ⟨c, tail, text, _⟩ := value_starts (reads 0 [] stops_nil)
  rw [List.append_nil] at text
  rw [text, List.length_cons] at enough
  obtain ⟨fuel, rfl⟩ : ∃ n, fuel = n + 1 := ⟨fuel - 1, by omega⟩
  exact reads fuel rest stops

theorem writeItems_eq (vs : List Value) :
    writeItems style vs = style.comma.intercalate (vs.map (write style)) := by
  induction vs with
  | nil => rfl
  | cons v vs ih =>
    cases vs with
    | nil => simp [writeItems]
    | cons w ws => rw [writeItems, ih]; simp [List.intercalate_cons_cons]

def entryText (style : Style) (e : Value × Value) : List Char :=
  style.string (keyName style e.1) ++ style.colon ++ write style e.2

theorem writeEntries_eq (es : Entries) :
    writeEntries style es = style.comma.intercalate (es.map (entryText style)) := by
  induction es with
  | nil => rfl
  | cons e es ih =>
    obtain ⟨k, v⟩ := e
    cases es with
    | nil => simp [writeEntries, entryText]
    | cons f fs => rw [writeEntries, ih]; simp [List.intercalate_cons_cons, entryText]

/-- Every document is read back, whatever stands behind it, once its scalars and its keys are. -/
theorem spells_write (lawful : style.Lawful) {v : Value} (json : v.IsJson (ReadsBack style))
    (apart : v.holds Value.isSplit = false) : Spells (write style v) v := by
  obtain ⟨blanks, comma, blank⟩ := lawful.comma
  induction json with
  | scalar kind reads => exact write_scalar kind ▸ spells_scalar reads
  | @list vs _ ih =>
    have items := fun w member => ih w member (Value.holds_list.mp apart w member)
    rw [write, writeItems_eq, comma]
    cases vs with
    | nil => exact spells_none blank_nil
    | cons w ws => exact spells_list blank blank_nil blank_nil (by simp) items
  | @object es named _ ih =>
    have parts := Value.holds_object.mp apart
    rw [write, writeEntries_eq, comma]
    cases es with
    | nil => exact spells_empty
    | cons f fs =>
      refine spells_object blank blank_nil blank_nil (by simp) named fun e member => ?_
      obtain ⟨name, key⟩ := Value.str_of_isStr (named.texts e member)
      have joined : name.Joined := Value.joined_iff.mp (key ▸ (parts e member).1)
      obtain ⟨body, quoted, read⟩ := lawful.string name joined
      obtain ⟨spaces, colon, space⟩ := lawful.colon
      refine ⟨name, body, spaces, _, key, ?_, read, space, ih e member (parts e member).2⟩
      simp [entryText, key, keyName, quoted, colon]

theorem read_value {before text behind : List Char} {v : Value} (spells : Spells text v)
    (free : Blank before) (empty : Blank behind) :
    read (before ++ (text ++ behind)) = .ok v := by
  have stops : Stops behind := by simpa using stops_blanks empty stops_nil
  have whole := spells (2 * (before ++ (text ++ behind)).length + 2) behind stops (by simp; omega)
  have starts := value_starts whole
  have none : skipBlanks behind = [] := by simpa [skipBlanks] using skipBlanks_blanks empty []
  have solid := (skipBlanks_blanks free (text ++ behind)).trans (skipBlanks_starts starts)
  obtain ⟨c, tail, same, _, _, mark⟩ := starts
  have first : (before ++ (text ++ behind)).head? ≠ some '\uFEFF' := by
    cases before with
    | nil => simpa [same] using mark
    | cons b before =>
      rintro ⟨⟩
      exact absurd (free _ List.mem_cons_self) (by decide)
  rw [read, if_neg first, document, solid, whole]
  simp only [none]
  rfl

theorem read_write (lawful : style.Lawful) {v : Value} (json : v.IsJson (ReadsBack style))
    (apart : v.holds Value.isSplit = false) : read (write style v) = .ok v := by
  simpa using read_value (spells_write lawful json apart) blank_nil blank_nil

end

end Json
end Columnar
