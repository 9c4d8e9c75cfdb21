import Columnar.Proofs.Json.Literals

namespace Columnar.Json
open Text

def Figures (ds : List Char) : Prop := ds ≠ [] ∧ ∀ c ∈ ds, c.isDigit = true

def Whole (ds : List Char) : Prop := Figures ds ∧ (ds = ['0'] ∨ ds.head? ≠ some '0')

inductive Fraction : List Char → Prop
  | none : Fraction []
  | some {ds : List Char} (figures : Figures ds) : Fraction ('.' :: ds)

def Sign (sign : List Char) : Prop := sign = [] ∨ sign = ['+'] ∨ sign = ['-']

inductive Exponent : List Char → Prop
  | none : Exponent []
  | some {letter : Char} {sign ds : List Char} (marked : letter = 'e' ∨ letter = 'E')
      (signed : Sign sign) (figures : Figures ds) : Exponent (letter :: (sign ++ ds))

/-- A number. With neither a fraction nor an exponent it is an integer, which has a longest
length. -/
def Number (cs : List Char) : Prop :=
  ∃ sign ds fraction exponent, (sign = [] ∨ sign = ['-']) ∧ Whole ds ∧ Fraction fraction ∧
    Exponent exponent ∧ (fraction ++ exponent = [] → ds.length ≤ maxDigits) ∧
    cs = sign ++ (ds ++ (fraction ++ exponent))

def Undigit (rest : List Char) : Prop := ∀ c, rest.head? = some c → c.isDigit = false

theorem undigit_cons {c : Char} {rest : List Char} (other : c.isDigit = false) :
    Undigit (c :: rest) := by
  rintro _ ⟨⟩
  exact other

theorem stops_undigit {rest : List Char} (stops : Stops rest) : Undigit rest := fun c first =>
  (stops c first).1

section
variable {cs ds rest : List Char}

theorem digits_some : Numeral.digits? cs = some (ds, rest) ↔
    Figures ds ∧ cs = ds ++ rest ∧ Undigit rest := by
  constructor
  · intro read
    obtain ⟨same, digits⟩ := digits_cut read
    simp only [Numeral.digits?] at read
    split at read
    · cases read
    · rename_i found
      obtain ⟨front, behind⟩ := Prod.mk.inj (Option.some.inj read)
      refine ⟨⟨fun none => found ?_, digits⟩, same, fun c first => ?_⟩
      · rw [front, none]
        rfl
      · have stopped := List.head?_dropWhile_not Char.isDigit cs
        rw [behind, first] at stopped
        exact stopped
  · rintro ⟨⟨some, digits⟩, rfl, ends⟩
    exact digits_read digits some ends

theorem digits_none : Numeral.digits? cs = none ↔ Undigit cs := by
  cases cs with
  | nil => simp [Numeral.digits?, Undigit]
  | cons c cs =>
    cases digit : c.isDigit <;> simp [Numeral.digits?, Undigit, digit]

theorem whole_sound (read : Numeral.whole? cs = some (ds, rest)) :
    Whole ds ∧ cs = ds ++ rest ∧ (ds = ['0'] ∨ Undigit rest) := by
  unfold Numeral.whole? at read
  split at read
  · cases read
    exact ⟨⟨⟨by simp, by simp⟩, .inl rfl⟩, rfl, .inl rfl⟩
  · rename_i other
    obtain ⟨figures, rfl, ends⟩ := digits_some.mp read
    refine ⟨⟨figures, .inr fun zero => ?_⟩, rfl, .inr ends⟩
    obtain ⟨tail, rfl⟩ : ∃ tail, ds = '0' :: tail := by
      cases ds with
      | nil => cases zero
      | cons d tail => cases zero; exact ⟨tail, rfl⟩
    exact other _ rfl

theorem whole_complete (whole : Whole ds) (ends : Undigit rest) :
    Numeral.whole? (ds ++ rest) = some (ds, rest) := by
  obtain ⟨⟨some, digits⟩, lead⟩ := whole
  refine whole_digits digits (lead.imp_right fun other => ?_) ends
  cases ds with
  | nil => exact absurd rfl some
  | cons d tail => exact ⟨d, tail, rfl, fun zero => other (congrArg Option.some zero)⟩

def Ends (rest : List Char) : Prop :=
  ∀ part tail, Fraction part ∨ Exponent part → rest = part ++ tail → part = []

theorem figures_head (figures : Figures ds) : ∃ d tail, ds = d :: tail ∧ d.isDigit = true := by
  obtain ⟨some, digits⟩ := figures
  obtain ⟨d, tail, rfl⟩ := List.exists_cons_of_ne_nil some
  exact ⟨d, tail, rfl, digits d List.mem_cons_self⟩

theorem fraction_sound (cs : List Char) : ∃ part, Fraction part ∧
    cs = part ++ (Numeral.fraction? cs).2 ∧ ((Numeral.fraction? cs).1 = none ↔ part = []) ∧
    (part = [] → ∀ other tail, Fraction other → cs = other ++ tail → other = []) := by
  unfold Numeral.fraction?
  split
  · rename_i cs
    split
    · rename_i ds rest read
      obtain ⟨figures, rfl, _⟩ := digits_some.mp read
      exact ⟨_, .some figures, rfl, by simp, fun none => absurd none (by simp)⟩
    · rename_i read
      refine ⟨[], .none, rfl, by simp, fun _ other tail fraction same => ?_⟩
      cases fraction with
      | none => rfl
      | some figures =>
        obtain ⟨d, ds, rfl, digit⟩ := figures_head figures
        have first := digits_none.mp read d (by rw [(List.cons.inj same).2]; rfl)
        exact absurd digit (by simp [first])
  · rename_i other
    refine ⟨[], .none, rfl, by simp, fun _ part tail fraction same => ?_⟩
    cases fraction with
    | none => rfl
    | some figures => exact absurd same (other _)

theorem fraction_absent (absent : ∀ part tail, Fraction part → cs = part ++ tail → part = []) :
    Numeral.fraction? cs = (none, cs) := by
  obtain ⟨part, fraction, same, found, _⟩ := fraction_sound cs
  cases absent part _ fraction same
  exact Prod.ext (found.mpr rfl) same.symm

theorem signed_digits {sign : List Char} (signed : Sign sign) : ∃ value : List Char → Int,
    ∀ d tail, d.isDigit = true → Numeral.signedDigits? (sign ++ d :: tail) =
      (Numeral.digits? (d :: tail)).map fun p => (value p.1, p.2) := by
  rcases signed with rfl | rfl | rfl
  · refine ⟨fun ds => Numeral.natOf ds, fun d tail digit => ?_⟩
    rw [List.nil_append, Numeral.signedDigits?]
    · rintro _ same
      cases (List.cons.inj same).1
      cases digit
    · rintro _ same
      cases (List.cons.inj same).1
      cases digit
  · exact ⟨fun ds => Numeral.natOf ds, fun _ _ _ => rfl⟩
  · exact ⟨fun ds => -(Numeral.natOf ds), fun _ _ _ => rfl⟩

theorem signed_sound {e : Int} (read : Numeral.signedDigits? cs = some (e, rest)) :
    ∃ sign ds, Sign sign ∧ Figures ds ∧ cs = sign ++ (ds ++ rest) := by
  unfold Numeral.signedDigits? at read
  split at read
  all_goals
    obtain ⟨⟨ds, _⟩, digits, same⟩ := Option.map_eq_some_iff.mp read
    obtain ⟨figures, rfl, _⟩ := digits_some.mp digits
    cases same
  · exact ⟨['-'], ds, .inr (.inr rfl), figures, rfl⟩
  · exact ⟨['+'], ds, .inr (.inl rfl), figures, rfl⟩
  · exact ⟨[], ds, .inl rfl, figures, rfl⟩

theorem exponent_sound (cs : List Char) : ∃ part, Exponent part ∧
    cs = part ++ (Numeral.exponent? cs).2 ∧ ((Numeral.exponent? cs).1 = none ↔ part = []) ∧
    (part = [] → ∀ other tail, Exponent other → cs = other ++ tail → other = []) := by
  cases cs with
  | nil =>
    refine ⟨[], .none, rfl, by simp [Numeral.exponent?], fun _ other tail _ same => ?_⟩
    exact (List.append_eq_nil_iff.mp same.symm).1
  | cons letter cs =>
    by_cases marked : letter = 'e' ∨ letter = 'E'
    · rw [Numeral.exponent?, if_pos marked]
      cases read : Numeral.signedDigits? cs with
      | some p =>
        obtain ⟨e, rest⟩ := p
        obtain ⟨sign, ds, signed, figures, rfl⟩ := signed_sound read
        exact ⟨_, .some marked signed figures, by simp, by simp, fun none => absurd none (by simp)⟩
      | none =>
        refine ⟨[], .none, rfl, by simp, fun _ other tail exponent same => ?_⟩
        cases exponent with
        | none => rfl
        | @some _ sign _ _ signed figures =>
          obtain ⟨d, ds, rfl, digit⟩ := figures_head figures
          obtain ⟨value, read_digits⟩ := signed_digits signed
          have found := read_digits d (ds ++ tail) digit
          have text : cs = sign ++ d :: (ds ++ tail) := by simpa using (List.cons.inj same).2
          rw [← text, read] at found
          have first := digits_none.mp (Option.map_eq_none_iff.mp found.symm) d rfl
          exact absurd digit (by simp [first])
    · rw [Numeral.exponent?, if_neg marked]
      refine ⟨[], .none, rfl, by simp, fun _ other tail exponent same => ?_⟩
      cases exponent with
      | none => rfl
      | some lettered _ _ =>
        obtain ⟨rfl, _⟩ := List.cons.inj same
        exact absurd lettered marked

theorem exponent_absent (absent : ∀ part tail, Exponent part → cs = part ++ tail → part = []) :
    Numeral.exponent? cs = (none, cs) := by
  obtain ⟨part, exponent, same, found, _⟩ := exponent_sound cs
  cases absent part _ exponent same
  exact Prod.ext (found.mpr rfl) same.symm

theorem magnitude_sound {negative : Bool} {n : Numeral}
    (read : Numeral.magnitude? negative cs = some (n, rest)) :
    ∃ fraction exponent, Whole n.whole ∧ Fraction fraction ∧ Exponent exponent ∧
      cs = n.whole ++ (fraction ++ (exponent ++ rest)) ∧
      (n.isInteger = true ↔ fraction ++ exponent = []) ∧
      (n.isInteger = true → Ends rest ∧ (n.whole = ['0'] ∨ Undigit rest)) := by
  obtain ⟨⟨ds, behind⟩, front, same⟩ := Option.map_eq_some_iff.mp read
  obtain ⟨whole, rfl, ends⟩ := whole_sound front
  obtain ⟨fraction, first, cut, point, free⟩ := fraction_sound behind
  obtain ⟨exponent, second, left, letter, none⟩ := exponent_sound (Numeral.fraction? behind).2
  dsimp only at same
  obtain ⟨rfl, rest⟩ := Prod.mk.inj same
  have integer : Numeral.isInteger ⟨negative, ds, (Numeral.fraction? behind).1,
      (Numeral.exponent? (Numeral.fraction? behind).2).1⟩ = true ↔ fraction ++ exponent = [] := by
    simp only [Numeral.isInteger, Bool.and_eq_true, Option.isNone_iff_eq_none, point, letter,
      List.append_eq_nil_iff]
  refine ⟨fraction, exponent, whole, first, second, ?_, integer, fun short => ?_⟩
  · rw [← rest, ← left, ← cut]
  · obtain ⟨rfl, rfl⟩ := List.append_eq_nil_iff.mp (integer.mp short)
    rw [← cut.trans (left.trans rest)]
    refine ⟨fun part tail form same => ?_, ends⟩
    rcases form with fraction | exponent
    · exact free rfl part tail fraction same
    · exact none rfl part tail exponent (cut.symm.trans same)

theorem scan_sound {n : Numeral} (read : Numeral.scan cs = some (n, rest)) :
    ∃ sign fraction exponent, (sign = [] ∨ sign = ['-']) ∧ Whole n.whole ∧ Fraction fraction ∧
      Exponent exponent ∧ cs = sign ++ (n.whole ++ (fraction ++ (exponent ++ rest))) ∧
      (n.isInteger = true ↔ fraction ++ exponent = []) ∧
      (n.isInteger = true → Ends rest ∧ (n.whole = ['0'] ∨ Undigit rest)) := by
  unfold Numeral.scan at read
  split at read
  · obtain ⟨fraction, exponent, whole, first, second, rfl, integer, ends⟩ := magnitude_sound read
    exact ⟨['-'], fraction, exponent, .inr rfl, whole, first, second, rfl, integer, ends⟩
  · obtain ⟨fraction, exponent, whole, first, second, rfl, integer, ends⟩ := magnitude_sound read
    exact ⟨[], fraction, exponent, .inl rfl, whole, first, second, rfl, integer, ends⟩

theorem scan_whole {sign : List Char} (signed : sign = [] ∨ sign = ['-']) (whole : Whole ds)
    (ends : Undigit rest) : Numeral.scan (sign ++ (ds ++ rest)) =
      some (⟨!sign.isEmpty, ds, (Numeral.fraction? rest).1,
        (Numeral.exponent? (Numeral.fraction? rest).2).1⟩,
        (Numeral.exponent? (Numeral.fraction? rest).2).2) := by
  have front := whole_complete whole ends
  rcases signed with rfl | rfl
  · obtain ⟨d, tail, rfl, digit⟩ := figures_head whole.1
    rw [List.nil_append, List.cons_append, Numeral.scan, Numeral.magnitude?, ← List.cons_append,
      front]
    · rfl
    · rintro _ same
      cases (List.cons.inj same).1
      cases digit
  · rw [List.cons_append, List.nil_append, Numeral.scan, Numeral.magnitude?, front]
    rfl

theorem fraction_complete {part : List Char} (fraction : Fraction part) :
    ∃ f, (f = none ↔ part = []) ∧ ∀ rest, Undigit rest → rest.head? ≠ some '.' →
      Numeral.fraction? (part ++ rest) = (f, rest) := by
  cases fraction with
  | none =>
    refine ⟨none, by simp, fun rest _ point => fraction_absent ?_⟩
    rintro part tail (_ | _) rfl
    · rfl
    · exact absurd rfl point
  | @some ds figures =>
    refine ⟨some ds, by simp, fun rest ends _ => ?_⟩
    rw [List.cons_append, Numeral.fraction?, digits_some.mpr ⟨figures, rfl, ends⟩]

theorem exponent_complete {part : List Char} (exponent : Exponent part) :
    ∃ e, (e = none ↔ part = []) ∧ ∀ rest, Stops rest →
      Numeral.exponent? (part ++ rest) = (e, rest) := by
  cases exponent with
  | none => exact ⟨none, by simp, fun rest => exponent_none⟩
  | some marked signed figures =>
    obtain ⟨value, read⟩ := signed_digits signed
    obtain ⟨d, tail, rfl, digit⟩ := figures_head figures
    refine ⟨some (value (d :: tail)), by simp, fun rest stops => ?_⟩
    have digits := digits_some.mpr ⟨figures, rfl, stops_undigit stops⟩
    have found := read d (tail ++ rest) digit
    rw [← List.cons_append, digits] at found
    rw [List.cons_append, List.append_assoc, Numeral.exponent?, if_pos marked, found]
    rfl

theorem exponent_lead {part : List Char} (exponent : Exponent part) (stops : Stops rest) :
    Undigit (part ++ rest) ∧ (part ++ rest).head? ≠ some '.' := by
  cases exponent with
  | none => exact ⟨stops_undigit stops, fun point => (stops _ point).2.1 rfl⟩
  | some marked _ _ =>
    rcases marked with rfl | rfl
    · exact ⟨undigit_cons rfl, by simp⟩
    · exact ⟨undigit_cons rfl, by simp⟩

/-- A number is taken off as the same one in front of whatever it cannot run on into. -/
theorem number_complete {text : List Char} (form : Number text) :
    ∃ v, ∀ rest, Stops rest → number (text ++ rest) = .ok (v, rest) := by
  obtain ⟨sign, ds, fraction, exponent, signed, whole, first, second, short, rfl⟩ := form
  obtain ⟨f, none, front⟩ := fraction_complete first
  obtain ⟨e, last, behind⟩ := exponent_complete second
  let n : Numeral := ⟨!sign.isEmpty, ds, f, e⟩
  have scanned : ∀ rest, Stops rest →
      Numeral.scan (sign ++ (ds ++ (fraction ++ (exponent ++ rest)))) = some (n, rest) := by
    intro rest stops
    obtain ⟨undigit, point⟩ := exponent_lead second stops
    have ends : Undigit (fraction ++ (exponent ++ rest)) := by
      cases first with
      | none => exact undigit
      | some => exact undigit_cons rfl
    rw [scan_whole signed whole ends, front _ undigit point, behind _ stops]
  have integer : n.isInteger = true → ds.length ≤ maxDigits := by
    intro both
    simp only [n, Numeral.isInteger, Bool.and_eq_true, Option.isNone_iff_eq_none, none, last] at both
    exact short (List.append_eq_nil_iff.mpr both)
  refine ⟨if n.isInteger then .int n.toInt else .float n.toBinary64, fun rest stops => ?_⟩
  simp only [List.append_assoc]
  rw [number, scanned rest stops]
  dsimp only
  split_ifs with both long
  · exact absurd (integer both) (Nat.not_le.mpr long)
  · rfl
  · rfl

theorem number_sound {v : Value} (read : number cs = .ok (v, rest)) :
    ∃ text, Number text ∧ cs = text ++ rest := by
  unfold number at read
  split at read
  · cases read
  · rename_i n behind scanned
    obtain ⟨sign, fraction, exponent, signed, whole, first, second, rfl, integer, _⟩ :=
      scan_sound scanned
    have short : fraction ++ exponent = [] → n.whole.length ≤ maxDigits := by
      intro none
      rw [if_pos (integer.mpr none)] at read
      by_contra long
      rw [if_pos (Nat.not_le.mp long)] at read
      cases read
    have left : behind = rest := by
      split_ifs at read <;> cases read <;> rfl
    exact ⟨_, ⟨sign, n.whole, fraction, exponent, signed, whole, first, second, short, rfl⟩,
      by simp [left]⟩

theorem number_long {k : Nat} : number cs = .error (.longInteger k) ↔
    ∃ sign ds rest, (sign = [] ∨ sign = ['-']) ∧ Whole ds ∧ ds.length = k ∧ maxDigits < k ∧
      Undigit rest ∧ Ends rest ∧ cs = sign ++ (ds ++ rest) := by
  constructor
  · intro stopped
    unfold number at stopped
    split at stopped
    · cases stopped
    · rename_i n rest scanned
      obtain ⟨sign, fraction, exponent, signed, whole, _, _, rfl, integer, behind⟩ :=
        scan_sound scanned
      split_ifs at stopped with whole_number long
      cases stopped
      obtain ⟨rfl, rfl⟩ := List.append_eq_nil_iff.mp (integer.mp whole_number)
      -- Digits may stand behind a zero, but a zero is not too long.
      obtain ⟨ends, zero | undigit⟩ := behind whole_number
      · rw [zero] at long
        exact absurd long (by decide)
      · exact ⟨sign, n.whole, rest, signed, whole, rfl, long, undigit, ends, rfl⟩
  · rintro ⟨sign, ds, rest, signed, whole, rfl, long, undigit, ends, rfl⟩
    rw [number, scan_whole signed whole undigit,
      fraction_absent fun part tail fraction => ends part tail (.inl fraction),
      exponent_absent fun part tail exponent => ends part tail (.inr exponent)]
    exact (if_pos rfl).trans (if_pos long)

end

end Columnar.Json
