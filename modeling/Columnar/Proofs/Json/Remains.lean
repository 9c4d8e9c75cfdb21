import Columnar.Json.Reader
import Mathlib.Data.List.TakeWhile

/-! What the reader of JSON leaves of its text. Every step leaves a suffix of what it was given, so
whatever it looks at stands in the text; and the one thing beside malformed text at which it stops
is a run of digits in the text that is too long for an integer. -/
namespace Columnar.Json
open Text

def LongRun (cs : List Char) (n : Nat) : Prop :=
  maxDigits < n ∧ ∃ ds, ds <:+: cs ∧ ds.length = n ∧ ∀ c ∈ ds, c.isDigit = true

theorem LongRun.mono {cs ds : List Char} {n : Nat} (run : LongRun cs n) (inside : cs <:+: ds) :
    LongRun ds n := by
  obtain ⟨long, run, place, rest⟩ := run
  exact ⟨long, run, place.trans inside, rest⟩

/-- A reading leaves a suffix of the text, or stops at a long run in it or at malformed text. -/
def Within {α : Type} (cs : List Char) : Reading α → Prop
  | .ok (_, rest) => rest <:+ cs
  | .error (.longInteger n) => LongRun cs n
  | .error (.malformed _ _) => True

section
variable {α β : Type} {cs ds : List Char} {r : Reading α}

theorem Within.mono (within : Within cs r) (suffix : cs <:+ ds) : Within ds r := by
  match r with
  | .ok _ => exact within.trans suffix
  | .error (.longInteger _) => exact LongRun.mono within suffix.isInfix
  | .error (.malformed _ _) => trivial

theorem Within.map (within : Within cs r) (f : α → β) :
    Within cs (r.map fun p => (f p.1, p.2)) := by
  match r with
  | .ok _ => exact within
  | .error (.longInteger _) => exact within
  | .error (.malformed _ _) => trivial

theorem within_error {e : Stop} (within : Within cs (.error e : Reading α)) :
    Within cs (.error e : Reading β) := by
  match e with
  | .longInteger _ => exact within
  | .malformed _ _ => trivial

end

theorem codePoints_within (opening : Nat) (cs : List Char) : Within cs (codePoints opening cs) := by
  fun_induction codePoints opening cs with
  | case1 | case3 => trivial
  | case2 => exact List.suffix_cons _ _
  | case4 a b c d e rest n _ ih => exact (ih.map _).mono ⟨['\\', 'u', a, b, c, d], rfl⟩
  | case5 | case6 | case8 | case9 => trivial
  | case7 c rest _ _ e _ ih => exact (ih.map _).mono ⟨['\\', c], rfl⟩
  | case10 c rest _ _ _ _ _ ih => exact (ih.map _).mono (List.suffix_cons _ _)

theorem string_within (opening : Nat) (cs : List Char) : Within cs (string opening cs) :=
  (codePoints_within opening cs).map fun ns => Text.ofPoints (joinPairs ns)

/-! Numerals: what is scanned is cut off the front, the whole part first. -/

theorem digits_cut {cs ds rest : List Char} (read : Numeral.digits? cs = some (ds, rest)) :
    cs = ds ++ rest ∧ ∀ c ∈ ds, c.isDigit = true := by
  simp only [Numeral.digits?] at read
  split at read
  · cases read
  · cases read
    exact ⟨List.takeWhile_append_dropWhile.symm, fun c member => List.mem_takeWhile_imp member⟩

theorem whole_cut {cs ds rest : List Char} (read : Numeral.whole? cs = some (ds, rest)) :
    cs = ds ++ rest ∧ ∀ c ∈ ds, c.isDigit = true := by
  unfold Numeral.whole? at read
  split at read
  · cases read
    exact ⟨rfl, List.forall_mem_singleton.mpr rfl⟩
  · exact digits_cut read

theorem fraction_suffix (cs : List Char) : (Numeral.fraction? cs).2 <:+ cs := by
  unfold Numeral.fraction?
  split
  · split
    · rename_i cs _ ds rest digits
      exact ⟨'.' :: ds, by rw [(digits_cut digits).1]; rfl⟩
    · exact List.suffix_rfl
  · exact List.suffix_rfl

theorem signedDigits_suffix {cs rest : List Char} {e : Int}
    (read : Numeral.signedDigits? cs = some (e, rest)) : rest <:+ cs := by
  unfold Numeral.signedDigits? at read
  split at read
  all_goals
    obtain ⟨p, digits, same⟩ := Option.map_eq_some_iff.mp read
    cases same
    have cut : p.2 <:+ _ := ⟨p.1, (digits_cut digits).1.symm⟩
  · exact cut.trans (List.suffix_cons _ _)
  · exact cut.trans (List.suffix_cons _ _)
  · exact cut

theorem exponent_suffix (cs : List Char) : (Numeral.exponent? cs).2 <:+ cs := by
  unfold Numeral.exponent?
  split
  · exact List.suffix_rfl
  · split
    · split
      · rename_i digits
        exact (signedDigits_suffix digits).trans (List.suffix_cons _ _)
      · exact List.suffix_rfl
    · exact List.suffix_rfl

theorem magnitude_cut {negative : Bool} {cs rest : List Char} {n : Numeral}
    (read : Numeral.magnitude? negative cs = some (n, rest)) :
    rest <:+ cs ∧ n.whole <:+: cs ∧ ∀ c ∈ n.whole, c.isDigit = true := by
  obtain ⟨⟨ds, behind⟩, whole, same⟩ := Option.map_eq_some_iff.mp read
  obtain ⟨rfl, digits⟩ := whole_cut whole
  cases same
  refine ⟨?_, ⟨[], behind, rfl⟩, digits⟩
  have exponent := exponent_suffix (Numeral.fraction? behind).2
  exact (exponent.trans (fraction_suffix behind)).trans (List.suffix_append _ _)

theorem scan_cut {cs rest : List Char} {n : Numeral} (read : Numeral.scan cs = some (n, rest)) :
    rest <:+ cs ∧ n.whole <:+: cs ∧ ∀ c ∈ n.whole, c.isDigit = true := by
  unfold Numeral.scan at read
  split at read
  · rename_i cs
    obtain ⟨left, whole, digits⟩ := magnitude_cut read
    have behind : cs <:+ '-' :: cs := List.suffix_cons _ _
    exact ⟨left.trans behind, whole.trans behind.isInfix, digits⟩
  · exact magnitude_cut read

theorem number_within (cs : List Char) : Within cs (number cs) := by
  unfold number
  split
  · trivial
  · rename_i n rest read
    obtain ⟨left, whole, digits⟩ := scan_cut read
    split
    · split
      · rename_i long
        exact ⟨long, n.whole, whole, rfl, digits⟩
      · exact left
    · exact left

theorem skipBlanks_suffix (cs : List Char) : skipBlanks cs <:+ cs := List.dropWhile_suffix _

section
variable {fuel : Nat} (items : ∀ cs, Within cs (elements fuel cs))
  (entries : ∀ cs, Within cs (members fuel cs)) (values : ∀ cs, Within cs (value fuel cs))

include items entries in
theorem value_within (cs : List Char) : Within cs (value (fuel + 1) cs) := by
  unfold value
  split
  · exact ((string_within _ _).map _).mono (List.suffix_cons _ _)
  · rename_i rest
    have behind := (skipBlanks_suffix rest).trans (List.suffix_cons '{' rest)
    split
    · rename_i close
      exact (List.suffix_cons _ _).trans (close ▸ behind)
    · exact ((entries _).map fun es => Value.object (Entries.ofList es)).mono behind
  · rename_i rest
    have behind := (skipBlanks_suffix rest).trans (List.suffix_cons '[' rest)
    split
    · rename_i close
      exact (List.suffix_cons _ _).trans (close ▸ behind)
    · exact ((items _).map Value.list).mono behind
  · exact ⟨"null".toList, rfl⟩
  · exact ⟨"true".toList, rfl⟩
  · exact ⟨"false".toList, rfl⟩
  · exact ⟨"NaN".toList, rfl⟩
  · exact ⟨"Infinity".toList, rfl⟩
  · exact ⟨"-Infinity".toList, rfl⟩
  · exact number_within cs

include items values in
theorem elements_within (cs : List Char) : Within cs (elements (fuel + 1) cs) := by
  have first := values cs
  rw [elements]
  split
  · rename_i e read
    rw [read] at first
    exact within_error first
  · rename_i v rest read
    rw [read] at first
    have behind := (skipBlanks_suffix rest).trans first
    split
    · rename_i close
      exact (List.suffix_cons _ _).trans (close ▸ behind)
    · rename_i more comma
      have others := (skipBlanks_suffix more).trans (List.suffix_cons ',' more)
      exact ((items _).map fun vs => v :: vs).mono (others.trans (comma ▸ behind))
    · trivial

include entries values in
theorem members_within (cs : List Char) : Within cs (members (fuel + 1) cs) := by
  unfold members
  split
  · rename_i rest
    have name := (string_within ('"' :: rest).length rest).mono (List.suffix_cons '"' rest)
    split
    · rename_i e read
      rw [read] at name
      exact within_error name
    · rename_i key more read
      rw [read] at name
      split
      · rename_i text colon
        have place : text <:+ '"' :: rest :=
          (List.suffix_cons ':' text).trans (colon ▸ (skipBlanks_suffix more).trans name)
        have under := (values (skipBlanks text)).mono ((skipBlanks_suffix text).trans place)
        split
        · rename_i e read
          rw [read] at under
          exact within_error under
        · rename_i v left read
          rw [read] at under
          have behind := (skipBlanks_suffix left).trans under
          split
          · rename_i close
            exact (List.suffix_cons _ _).trans (close ▸ behind)
          · rename_i others comma
            have next := (skipBlanks_suffix others).trans (List.suffix_cons ',' others)
            exact ((entries _).map fun es => (Value.str key, v) :: es).mono
              (next.trans (comma ▸ behind))
          · trivial
      · trivial
  · trivial

end

theorem readers_within (fuel : Nat) : (∀ cs, Within cs (value fuel cs)) ∧
    (∀ cs, Within cs (elements fuel cs)) ∧ ∀ cs, Within cs (members fuel cs) := by
  induction fuel with
  | zero => exact ⟨fun _ => trivial, fun _ => trivial, fun _ => trivial⟩
  | succ fuel ih =>
    obtain ⟨values, items, entries⟩ := ih
    exact ⟨value_within items entries, elements_within items values,
      members_within entries values⟩

theorem document_longInteger {text : List Char} {n : Nat}
    (stopped : document text = .error (.longInteger n)) : LongRun text n := by
  have within := ((readers_within (2 * text.length + 2)).1 _).mono (skipBlanks_suffix text)
  rw [document] at stopped
  split at stopped
  · rename_i e read
    cases stopped
    rw [read] at within
    exact within
  · split at stopped <;> cases stopped

theorem read_longInteger {text : List Char} {n : Nat}
    (stopped : read text = .error (.longInteger n)) : LongRun text n := by
  unfold read at stopped
  split at stopped
  · cases stopped
  · cases read : document text with
    | ok v => rw [read] at stopped; cases stopped
    | error e =>
      rw [read] at stopped
      cases e with
      | malformed => cases stopped
      | longInteger => cases stopped; exact document_longInteger read

end Columnar.Json
