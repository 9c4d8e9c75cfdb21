import Columnar.Proofs.Json.Ascii
import Columnar.Proofs.Json.Literals
import Columnar.Proofs.Redecode

namespace Columnar

namespace Json

def asciiStyle : Style := { compact with string := quoteAscii }

theorem asciiStyle_lawful : asciiStyle.Lawful :=
  ⟨quoteWith_read asciiChar_readable, ⟨[], rfl, blank_nil⟩, ⟨[], rfl, blank_nil⟩⟩

end Json

namespace TypeUnion
open Json Text

theorem toJson_eq (u : TypeUnion) : u.toJson = u.encode.map (Json.toText asciiStyle) := rfl

theorem ofJson_ok {t : String} {u : TypeUnion} :
    ofJson t = .ok u ↔ ∃ v, Json.read t.toList = .ok v ∧ decode v = some u := by
  unfold ofJson Json.read
  split
  · simp
  · unfold ofDocument
    cases Json.document t.toList with
    | error e => cases e <;> simp [Except.mapError]
    | ok v => cases found : decode v <;> simp [Except.mapError, found]

theorem validate_ok {t : String} {u : TypeUnion} :
    decodeJson validate t = .ok u ↔ (∃ v, Json.read t.toList = .ok v ∧ decode v = some u) ∧
      ∀ name ∈ u.names, name.isWhole = true := by
  unfold decodeJson
  cases Json.read t.toList with
  | error e => simp
  | ok v =>
    by_cases half : v.holdsHalf = true
    · simp only [if_pos half]
      refine iff_of_false nofun ?_
      rintro ⟨⟨_, ⟨⟩, found⟩, names⟩
      rw [(decode_whole found).mpr names] at half
      cases half
    · have whole := fun {w} (found : decode v = some w) =>
        (decode_whole found).mp (Bool.eq_false_iff.mpr half)
      cases found : decode v with
      | none => simp [half, validate, found]
      | some w =>
        have names := whole found
        simp only [if_neg half, validate, found, Except.ok.injEq, exists_eq_left',
          Option.some.injEq]
        exact ⟨fun same => ⟨same, same ▸ names⟩, And.left⟩

theorem encode_printable {u : TypeUnion} {v : Value} (written : u.encode = some v) :
    Printable (write asciiStyle v) := by
  rcases encode_some written with ⟨name, _, rfl⟩ | rfl
  · exact quoteAscii_printable name
  · have comma : ∀ c ∈ asciiStyle.comma, 0x20 ≤ c.toNat ∧ c.toNat < 0x7F := by
      simp [asciiStyle, compact]
    have items : Printable (writeItems asciiStyle (u.names.map .str)) := by
      refine writeItems_all comma fun v hv => ?_
      obtain ⟨name, _, rfl⟩ := List.mem_map.mp hv
      exact quoteAscii_printable name
    have opening : 0x20 ≤ '['.toNat ∧ '['.toNat < 0x7F := by decide
    have closing : 0x20 ≤ ']'.toNat ∧ ']'.toNat < 0x7F := by decide
    rw [write]
    exact List.forall_mem_cons.mpr ⟨opening, List.forall_mem_append.mpr
      ⟨items, List.forall_mem_singleton.mpr closing⟩⟩

/-- No name has halves side by side that make a pair. -/
def Joined (u : TypeUnion) : Prop := ∀ name ∈ u.names, name.Joined

theorem ofJson_toJson {u : TypeUnion} (joined : u.Joined) {t : String}
    (written : u.toJson = some t) : ofJson t = .ok u := by
  obtain ⟨v, encoded, rfl⟩ := Option.map_eq_some_iff.mp (toJson_eq u ▸ written)
  have json : v.IsJson (ReadsBack asciiStyle) :=
    encode_json encoded fun name member => str_readsBack asciiStyle_lawful (joined name member)
  have apart : v.holds Value.isSplit = false := by
    rcases encode_some encoded with ⟨name, rfl, rfl⟩ | rfl
    · exact Value.joined_iff.mpr (joined name List.mem_cons_self)
    · refine Value.holds_list.mpr fun w member => ?_
      obtain ⟨name, inside, rfl⟩ := List.mem_map.mp member
      exact Value.joined_iff.mpr (joined name inside)
  refine ofJson_ok.mpr ⟨v, ?_, decode_encode encoded⟩
  rw [toText, String.toList_ofList]
  exact read_write asciiStyle_lawful json apart

theorem toJson_printable {u : TypeUnion} {t : String} (written : u.toJson = some t) :
    Printable t.toList := by
  obtain ⟨v, encoded, rfl⟩ := Option.map_eq_some_iff.mp (toJson_eq u ▸ written)
  rw [toText, String.toList_ofList]
  exact encode_printable encoded

theorem toJson_none {u : TypeUnion} : u.toJson = none ↔ u.names = [] := by
  rw [toJson, Option.map_eq_none_iff, encode_none, isEmpty, List.isEmpty_iff]

theorem toJson_some {u : TypeUnion} (named : u.names ≠ []) : ∃ t, u.toJson = some t :=
  Option.ne_none_iff_exists'.mp fun none => named (toJson_none.mp none)

theorem toJson_injOn : Set.InjOn toJson { u | u.Joined } := by
  intro u joined w others same
  cases written : u.toJson with
  | none =>
    have left := toJson_none.mp written
    have right := toJson_none.mp (same ▸ written)
    exact congrArg TypeUnion.mk (left.trans right.symm)
  | some t =>
    have left := ofJson_toJson joined written
    have right := ofJson_toJson others (same ▸ written)
    rw [left] at right
    exact Except.ok.inj right

theorem literals_spell {cs : List Char} {ls : List (List Nat)} (form : Literals cs ls) :
    ∃ v, Spells cs v ∧ decode v = some ⟨ls.map joined⟩ := by
  cases form with
  | single literal => exact ⟨_, literal_spells literal, rfl⟩
  | none blank => exact ⟨_, spells_none blank, rfl⟩
  | array items => exact ⟨_, array_spells items, by rw [decode, allStrings_map]; rfl⟩

theorem read_literals {t : List Char} {u : TypeUnion} :
    (∃ v, Json.read t = .ok v ∧ decode v = some u) ↔
      ∃ ls, LiteralsText t ls ∧ ls.map joined = u.names := by
  constructor
  · rintro ⟨v, read, found⟩
    have form : v.IsUnionForm := by
      by_contra other
      have none := (Value.decode_no_form (read_legible read) other).2
      rw [found] at none
      cases none
    obtain ⟨_, rest, first, ends⟩ := read_ok.mp read
    obtain ⟨behind, empty, rfl⟩ := skipBlanks_cut ends
    obtain ⟨before, free, cut⟩ := skipBlanks_cut (rfl : skipBlanks t = _)
    rcases form with rfl | ⟨s, rfl⟩ | ⟨names, rfl⟩
    · cases found
    · cases found
      obtain ⟨inner, ns, literal, same, rfl⟩ := value_literal first
      exact ⟨[ns], ⟨before, inner, behind, free, .single literal, empty, by simpa [same] using cut⟩,
        rfl⟩
    · rw [decode, allStrings_map] at found
      cases found
      obtain ⟨inner, ls, grammar, same, joined⟩ := value_array first
      exact ⟨ls, ⟨before, inner, behind, free, grammar, empty, by simpa [same] using cut⟩, joined⟩
  · rintro ⟨ls, ⟨before, inner, behind, free, grammar, empty, rfl⟩, same⟩
    obtain ⟨v, spells, found⟩ := literals_spell grammar
    exact ⟨v, read_value spells free empty, by rw [found, same]⟩

theorem names_denoted {ls : List (List Nat)} (bounds : ∀ ns ∈ ls, ∀ n ∈ ns, n < 0x110000)
    {names : List Text} :
    ls.map joined = names ↔ List.Forall₂ (fun ns name => Denotes ns name.points) ls names := by
  constructor
  · rintro rfl
    rw [List.forall₂_map_right_iff, List.forall₂_same]
    intro ns member
    rw [joined, points_ofPoints]
    exact joinPairs_denotes (bounds ns member)
  · intro each
    rw [← List.forall₂_eq_eq_eq, List.forall₂_map_left_iff]
    refine each.imp fun ns name denotes => ?_
    rw [joined, denotes_joined denotes, ofPoints_points]

/-- A text is read as a union just if it is one string or an array of strings and denotes the names;
where a union is wanted it is read in the same way, save that halves of surrogate pairs on their own
are refused. -/
theorem ofJson_grammar (t : String) (u : TypeUnion) :
    (ofJson t = .ok u ↔ ∃ ls, LiteralsText t.toList ls ∧
      List.Forall₂ (fun ns name => Denotes ns name.points) ls u.names) ∧
    (decodeJson validate t = .ok u ↔
      ofJson t = .ok u ∧ ∀ name ∈ u.names, name.isWhole = true) := by
  refine ⟨?_, by rw [validate_ok, ofJson_ok]⟩
  rw [ofJson_ok, read_literals]
  exact exists_congr fun ls => and_congr_right fun ⟨_, _, _, _, literals, _⟩ =>
    names_denoted literals.bounds

example : ofJson "\t[ \"a\\n\" ,\"\\ud83d\\uDE00\\/\"\r\n] " = .ok ⟨["a\n", "😀/"]⟩ := by
  decide +kernel

theorem ofJson_joined {t : String} {u : TypeUnion} (read : ofJson t = .ok u) : u.Joined := by
  obtain ⟨ls, _, names⟩ := read_literals.mp (ofJson_ok.mp read)
  intro name member
  obtain ⟨ns, _, rfl⟩ := List.mem_map.mp (names ▸ member)
  exact joined_apart ns

/-- Every union of one name or more has one text, in printable ASCII, which is read back as the
union; the text is its own normal form, and that of every other text of the union. -/
theorem toJson_reads_back :
    (∀ u : TypeUnion, u.names ≠ [] →
      ∃ t, u.toJson = some t ∧ Printable t.toList ∧ (u.Joined → ofJson t = .ok u)) ∧
    (∀ u : TypeUnion, u.toJson = none ↔ u.names = []) ∧
    Set.InjOn toJson { u | u.Joined } ∧
    ∀ (t : String) (u : TypeUnion), ofJson t = .ok u → u.names ≠ [] →
      ∃ w, u.toJson = some w ∧ (ofJson w).map toJson = .ok (some w) := by
  refine ⟨fun u named => ?_, fun u => toJson_none, toJson_injOn, fun t u read named => ?_⟩
  · obtain ⟨t, written⟩ := toJson_some named
    exact ⟨t, written, toJson_printable written, fun joined => ofJson_toJson joined written⟩
  · obtain ⟨w, written⟩ := toJson_some named
    refine ⟨w, written, ?_⟩
    rw [ofJson_toJson (ofJson_joined read) written]
    exact congrArg Except.ok written

theorem toJson_reads_back_escaped :
    let u : TypeUnion := ⟨["\"é", "😀\x7f"]⟩
    let t := "[\"\\\"\\u00e9\",\"\\ud83d\\ude00\\u007f\"]"
    u.names ≠ [] ∧ u.Joined ∧ u.toJson = some t ∧ Printable t.toList ∧ ofJson t = .ok u ∧
      (ofJson t).map toJson = .ok (some t) := by
  intro u t
  have named : u.names ≠ [] := by simp [u]
  have joined : u.Joined := by simp [u, Joined, joined_whole]
  have written : u.toJson = some t := by decide +kernel
  obtain ⟨forth, _, _, back⟩ := toJson_reads_back
  obtain ⟨w, same, printable, read⟩ := forth u named
  cases written.symm.trans same
  obtain ⟨w, same, canonical⟩ := back t u (read joined) named
  cases written.symm.trans same
  exact ⟨named, joined, written, printable, read joined, canonical⟩

end TypeUnion
end Columnar
