import Columnar.Proofs.Encodings
import Columnar.Proofs.Json.LongIntegers
import Columnar.Proofs.UnionText

namespace Columnar.TypeUnion
open Json Text

def Answers (r : Except Error TypeUnion) : Prop := (∃ u, r = .ok u) ∨ r = .error .invalid

theorem answers_iff {r : Except Error TypeUnion} : Answers r ↔
    (∀ k, r ≠ .error (.longInteger k)) ∧ ∀ e, r ≠ .error (.undecodable e) := by
  match r with
  | .ok u => simp [Answers]
  | .error .invalid => simp [Answers]
  | .error (.longInteger k) => simp [Answers]
  | .error (.undecodable e) => simp [Answers]

theorem ofDocument_long {cs : List Char} {k : Nat} :
    ofDocument cs = .error (.longInteger k) ↔ LongIntegerText k cs := by
  rw [← document_long, ofDocument]
  cases Json.document cs with
  | ok v => cases found : decode v <;> simp [found]
  | error e => cases e <;> simp

theorem ofDocument_decoded {cs : List Char} {e : DecodeError} :
    ofDocument cs ≠ .error (.undecodable e) := by
  rw [ofDocument]
  cases Json.document cs with
  | ok v => cases found : decode v <;> simp [found]
  | error e => cases e <;> simp

/-- A mark is no part of a text with a long integer, as of no document. -/
theorem longInteger_unmarked {cs : List Char} {k : Nat} (long : LongIntegerText k cs) :
    cs.head? ≠ some '\uFEFF' := by
  intro mark
  obtain ⟨tail, rfl⟩ : ∃ tail, cs = '\uFEFF' :: tail := by
    cases cs with
    | nil => cases mark
    | cons c tail => cases mark; exact ⟨tail, rfl⟩
  cases document_long.mpr long

theorem ofJson_long {t : String} {k : Nat} :
    ofJson t = .error (.longInteger k) ↔ LongIntegerText k t.toList := by
  unfold ofJson
  split
  · rename_i mark
    exact ⟨nofun, fun long => absurd mark (longInteger_unmarked long)⟩
  · exact ofDocument_long

theorem ofJson_decoded {t : String} {e : DecodeError} : ofJson t ≠ .error (.undecodable e) := by
  unfold ofJson
  split
  · nofun
  · exact ofDocument_decoded

theorem ofJsonBytes_long {data : List UInt8} {k : Nat} :
    ofJsonBytes data = .error (.longInteger k) ↔ ∃ cs, Encodes data cs ∧ LongIntegerText k cs := by
  simp only [← decodeBytes_ok]
  rw [ofJsonBytes]
  cases decodeBytes data with
  | error e => simp
  | ok cs => simp [ofDocument_long]

theorem ofJsonBytes_undecodable {data : List UInt8} :
    (∃ e, ofJsonBytes data = .error (.undecodable e)) ↔ ¬ ∃ cs, Encodes data cs := by
  simp only [← decodeBytes_ok]
  rw [ofJsonBytes]
  cases decodeBytes data with
  | error e => simp
  | ok cs => simp [ofDocument_decoded]

theorem text_answers (t : String) : Answers (ofJson t) ↔ ∀ k, ¬ LongIntegerText k t.toList := by
  rw [answers_iff]
  constructor
  · rintro ⟨short, _⟩ k long
    exact short k (ofJson_long.mpr long)
  · intro short
    exact ⟨fun k long => short k (ofJson_long.mp long), fun e => ofJson_decoded⟩

theorem bytes_answer (data : List UInt8) :
    Answers (ofJsonBytes data) ↔ ∃ cs, Encodes data cs ∧ ∀ k, ¬ LongIntegerText k cs := by
  rw [answers_iff]
  constructor
  · rintro ⟨short, decoded⟩
    obtain ⟨cs, text⟩ : ∃ cs, Encodes data cs := by
      by_contra none
      obtain ⟨e, refused⟩ := ofJsonBytes_undecodable.mpr none
      exact decoded e refused
    exact ⟨cs, text, fun k long => short k (ofJsonBytes_long.mpr ⟨cs, text, long⟩)⟩
  · rintro ⟨cs, text, short⟩
    refine ⟨fun k stopped => ?_, fun e refused => ?_⟩
    · obtain ⟨ds, same, long⟩ := ofJsonBytes_long.mp stopped
      rw [encodes_unique same text] at long
      exact short k long
    · exact ofJsonBytes_undecodable.mp ⟨e, refused⟩ ⟨cs, text⟩

/-- Every text is answered but for those with an integer too long to be read, all before it being as
it should be; and so are bytes that are those of a text. All others are refused for just that. -/
theorem answered_iff_no_long_integer (t : String) (data : List UInt8) :
    (Answers (ofJson t) ↔ ∀ k, ¬ LongIntegerText k t.toList) ∧
    (∀ k, ofJson t = .error (.longInteger k) ↔ LongIntegerText k t.toList) ∧
    (∀ e, ofJson t ≠ .error (.undecodable e)) ∧
    (Answers (ofJsonBytes data) ↔ ∃ cs, Encodes data cs ∧ ∀ k, ¬ LongIntegerText k cs) ∧
    (∀ k, ofJsonBytes data = .error (.longInteger k) ↔
      ∃ cs, Encodes data cs ∧ LongIntegerText k cs) ∧
    ((∃ e, ofJsonBytes data = .error (.undecodable e)) ↔ ¬ ∃ cs, Encodes data cs) :=
  ⟨text_answers t, fun _ => ofJson_long, fun _ => ofJson_decoded, bytes_answer data,
    fun _ => ofJsonBytes_long, ofJsonBytes_undecodable⟩

theorem byte_and_number_unanswered : ¬ Answers (ofJsonBytes [0xFF]) ∧
    ¬ Answers (ofJson (String.ofList (List.replicate (maxDigits + 1) '1'))) := by
  constructor
  · intro answers
    have refused : ofJsonBytes [0xFF] =
        .error (.undecodable ⟨"utf-8", 0xFF, 0, 1, .invalidStart⟩) := rfl
    exact (answers_iff.mp answers).2 _ refused
  · intro answers
    have digits : ∀ c ∈ List.replicate (maxDigits + 1) '1', c.isDigit = true := by
      intro c member
      rw [List.eq_of_mem_replicate member]
      rfl
    have whole : Whole (List.replicate (maxDigits + 1) '1') :=
      ⟨⟨by simp, digits⟩, .inr (by simp [List.replicate_succ])⟩
    have ends : Ends [] := fun part tail _ same => (List.append_eq_nil_iff.mp same.symm).1
    have long : LongIntegerText (maxDigits + 1) (List.replicate (maxDigits + 1) '1') :=
      ⟨[], _, blank_nil, .here (.inl rfl) whole List.length_replicate (Nat.lt_succ_self _)
        (stops_undigit stops_nil) ends,
        by simp⟩
    refine (answers_iff.mp answers).1 (maxDigits + 1) (ofJson_long.mpr ?_)
    rw [String.toList_ofList]
    exact long

end Columnar.TypeUnion
