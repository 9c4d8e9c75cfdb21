import Columnar.Proofs.Yaml.Blame
import Columnar.Yaml.Lexer
import Mathlib

/-! What the marks and texts of a YAML document can spell that cannot be read, before anything is
made of a scalar: the number of a version with too many digits, and a character by a number that no
character has. Each is followed back to its place in the text. -/
namespace Columnar

namespace Text.Figures

/-- What the reader of integers asks about the characters of a number. -/
structure Figure (c : Char) : Prop where
  plain : plainChar c = c
  solid : isBlank c = false
  digit : isDigitIn 10 c = true
  unsigned : c ≠ '-' ∧ c ≠ '+'

theorem figure_of_isDigit {c : Char} (digit : c.isDigit = true) : Figure c := by
  have all : ∀ n < 10, plainChar (Char.ofNat (48 + n)) = Char.ofNat (48 + n) ∧
      isBlank (Char.ofNat (48 + n)) = false ∧ isDigitIn 10 (Char.ofNat (48 + n)) = true ∧
      Char.ofNat (48 + n) ≠ '-' ∧ Char.ofNat (48 + n) ≠ '+' := by decide
  have range : 48 ≤ c.toNat ∧ c.toNat ≤ 57 := by
    simpa [Char.isDigit, UInt32.le_iff_toNat_le] using digit
  have code : c = Char.ofNat (48 + (c.toNat - 48)) := by
    rw [Nat.add_sub_cancel' range.1, Char.ofNat_toNat]
  obtain ⟨plain, solid, digit, unsigned⟩ := all (c.toNat - 48) (by omega)
  rw [← code] at plain solid digit unsigned
  exact ⟨plain, solid, digit, unsigned⟩

theorem dropBlanks_figures {ds : List Char} (figures : ∀ c ∈ ds, Figure c) :
    ds.dropWhile isBlank = ds := by
  cases ds with
  | nil => rfl
  | cons c ds => simp [(figures c List.mem_cons_self).solid]

/-- Digits alone are read whole, so they can only be too many. -/
theorem integer_digits {ds : List Char} {u : Unreadable} (digits : ∀ c ∈ ds, c.isDigit = true)
    (some : ds ≠ []) (failed : integer 10 (ds.map .char) = .error u) :
    Json.maxDigits < ds.length ∧ u = .longInteger ds.length := by
  have figures : ∀ c ∈ ds, Figure c := fun c member => figure_of_isDigit (digits c member)
  have plain : ds.map plainChar = ds.map id :=
    List.map_congr_left fun c member => (figures c member).plain
  have trimmed : trim ds = ds := by
    have back : ∀ c ∈ ds.reverse, Figure c := fun c member => figures c (List.mem_reverse.mp member)
    rw [trim, dropBlanks_figures figures, dropBlanks_figures back, List.reverse_reverse]
  have unsigned : signed (ds.map .char) = (false, ds) := by
    have points : (ds.map Point.char).map plainPoint = ds.map plainChar := by
      rw [List.map_map]
      rfl
    rw [signed, points, plain, List.map_id, trimmed]
    cases ds with
    | nil => rfl
    | cons c ds =>
      have sign := (figures c List.mem_cons_self).unsigned
      split
      · rename_i same
        exact absurd (List.cons.inj same).1 sign.1
      · rename_i same
        exact absurd (List.cons.inj same).1 sign.2
      · rfl
  have unmarked : withoutMark 10 ds = ds := by
    unfold withoutMark
    split <;> simp [baseMark?]
  have whole : ds.takeWhile (isDigitIn 10) = ds := by
    rw [List.takeWhile_eq_self_iff]
    exact fun c member => (figures c member).digit
  have nonempty : ds.isEmpty = false := by simpa using some
  simp only [integer, unsigned, unmarked, whole, nonempty, true_and] at failed
  split at failed
  · rename_i long
    cases failed
    exact ⟨long, rfl⟩
  · simp at failed

end Text.Figures

namespace Text

theorem hexValue_bound {c : Char} {d : Nat} (value : hexValue? c = some d) : d < 16 := by
  simp only [hexValue?] at value
  split_ifs at value <;> cases value <;> omega

theorem hexFold_bound {cs : List Char} {k m n : Nat} (start : m < 16 ^ k)
    (value : cs.foldlM (fun n c => (hexValue? c).map (16 * n + ·)) m = some n) :
    n < 16 ^ (k + cs.length) := by
  induction cs generalizing k m with
  | nil =>
    cases value
    exact start
  | cons c cs ih =>
    obtain ⟨i, first, rest⟩ := Option.bind_eq_some_iff.mp value
    obtain ⟨d, digit, rfl⟩ := Option.map_eq_some_iff.mp first
    have small := hexValue_bound digit
    have bound := ih (k := k + 1) (by rw [Nat.pow_succ]; omega) rest
    rwa [List.length_cons, Nat.add_comm cs.length 1, ← Nat.add_assoc]

theorem hexNat_bound {cs : List Char} {n : Nat} (value : hexNat? cs = some n) :
    n < 16 ^ cs.length := by
  simpa using hexFold_bound (k := 0) (by decide) value

end Text

namespace Yaml

/-! Places -/

namespace Cursor
variable {text : List Char} (c : Cursor text)

@[simp] theorem next_rest : c.next.rest = c.rest.tail := by
  unfold next
  split
  · rename_i none
    cases same : c.rest with
    | nil => rfl
    | cons ch rest => rw [same] at none; cases none
  · dsimp only
    split <;> rfl

@[simp] theorem skip_rest (n : Nat) : (skip n c).rest = c.rest.drop n := by
  induction n generalizing c with
  | zero => rfl
  | succ n ih => rw [skip, ih, next_rest, List.drop_tail]

@[simp] theorem skipWhile_rest (test : Char → Bool) :
    (c.skipWhile test).rest = c.rest.dropWhile test := by
  have cut : c.rest.takeWhile test ++ c.rest.dropWhile test = c.rest :=
    List.takeWhile_append_dropWhile
  rw [skipWhile, skip_rest]
  conv_lhs => arg 2; rw [← cut]
  exact List.drop_left

theorem peek_rest {c : Cursor text} {ch : Char} (here : c.peek? = some ch) :
    c.rest = ch :: c.next.rest := by
  rw [next_rest]
  exact (List.cons_head?_tail here).symm

def Behind (front : List Char) : Prop := text = front ++ c.rest

theorem exists_behind : ∃ front, c.Behind front := c.inText.imp fun _ same => same.symm

section
variable {c} {front : List Char} (behind : c.Behind front)

include behind

theorem Behind.next {ch : Char} (here : c.peek? = some ch) : c.next.Behind (front ++ [ch]) := by
  have cut : c.rest = ch :: c.next.rest := peek_rest here
  exact behind.trans (by rw [cut, List.append_assoc, List.singleton_append])

theorem Behind.skipWhile (test : Char → Bool) :
    (c.skipWhile test).Behind (front ++ c.rest.takeWhile test) := by
  refine Eq.trans behind ?_
  rw [skipWhile_rest, List.append_assoc, List.takeWhile_append_dropWhile]

end

end Cursor

/-- What a text is found to have wrong in its marks: its form, or a version number with too many
digits, or an escape by the number of no character. -/
inductive Misspelt (text : List Char) : Fault → Prop
  | malformed : Misspelt text .malformed
  | version {front between digits behind : List Char}
      (within : ∀ c ∈ between, c = ' ' ∨ c = '.' ∨ c.isDigit = true)
      (number : ∀ c ∈ digits, c.isDigit = true) (long : Json.maxDigits < digits.length)
      (place : text = front ++ "%YAML".toList ++ between ++ digits ++ behind) :
      Misspelt text (.unreadable (.longInteger digits.length))
  | escape {front hex behind : List Char} {n : Nat} (digits : hex.length = 8)
      (number : Text.hexNat? hex = some n) (beyond : 0x110000 ≤ n)
      (place : text = front ++ "\\U".toList ++ hex ++ behind) :
      Misspelt text (.unreadable (if 0x80000000 ≤ n then .longCodePoint else .codePoint))

/-- The same of a fault that may be one only at the end of the text. -/
def Halts (text : List Char) (h : Halt) : Prop := Misspelt text h.fault

section
variable {text : List Char} {α : Type}

theorem blames_wrong : Blames (Halts text) (wrong : Except Halt α) := by
  rintro _ ⟨⟩
  exact .malformed

theorem wrong_or (p : Prop) [Decidable p] (a : α) :
    Blames (Halts text) (if p then wrong else .ok a) :=
  blames_ite blames_wrong (blames_ok a)

theorem blames_halt (c : Cursor text) : Blames (Halts text) (c.halt : Except Halt α) := by
  rintro _ ⟨⟩
  exact .malformed

/-! Directives and tags -/

theorem name_blames (c : Cursor text) : Blames (Halts text) (name c) :=
  blames_ite (blames_halt _) (blames_ite (blames_ok _) blames_wrong)

theorem numberedBytes_blames (cs : List Char) : Blames (Halts text) (numberedBytes cs) := by
  fun_induction numberedBytes cs with
  | case1 => exact blames_wrong
  | case2 _ _ _ _ _ ih => exact ih.map _
  | case3 =>
    rintro _ ⟨⟩
    exact .malformed
  | case4 => exact blames_ok _

theorem tagChars_blames (fuel : Nat) (c : Cursor text) : Blames (Halts text) (tagChars fuel c) := by
  induction fuel generalizing c with
  | zero => exact blames_ok _
  | succ fuel ih =>
    refine (numberedBytes_blames _).bind fun (bytes, length) _ => blames_ite (blames_ok _) ?_
    split
    · exact blames_halt _
    · exact (ih _).bind fun _ _ => blames_ok _

theorem tagText_blames (c : Cursor text) : Blames (Halts text) (tagText c) :=
  (tagChars_blames _ _).bind fun _ _ => blames_ite (blames_halt _) (blames_ok _)

theorem handle_blames (c : Cursor text) : Blames (Halts text) (handle c) :=
  blames_ite (blames_halt _) (blames_ite (blames_ok _) (blames_ite (blames_ok _) (blames_halt _)))

theorem endTag_blames (t : Token) (c : Cursor text) : Blames (Halts text) (endTag t c) :=
  blames_ite (blames_ok _) blames_wrong

theorem tag_blames (c : Cursor text) : Blames (Halts text) (tag c) := by
  unfold tag
  split
  · refine (tagText_blames _).bind fun (rest, c) _ => ?_
    exact blames_ite (endTag_blames _ _) (blames_halt _)
  · refine blames_ite (endTag_blames _ _) (blames_ite ?_ ?_)
    · refine (handle_blames _).bind fun (handle, c) _ => ?_
      exact (tagText_blames _).bind fun (rest, c) _ => endTag_blames _ _
    · refine Blames.mapError (Blames.bind (tagText_blames _) fun p _ => ?_) fun h halts => halts
      exact endTag_blames _ p.2

def IsGap (cs : List Char) : Prop := ∀ c ∈ cs, c = ' ' ∨ c = '.' ∨ c.isDigit = true

theorem versionPart_blames {c : Cursor text} {front between : List Char} (gap : IsGap between)
    (behind : c.Behind (front ++ "%YAML".toList ++ between)) :
    Blames (Halts text) (versionPart c) := by
  have digits : ∀ ch ∈ c.rest.takeWhile Char.isDigit, ch.isDigit = true :=
    fun _ member => List.mem_takeWhile_imp member
  dsimp only [versionPart]
  split
  · exact blames_halt _
  · rename_i some
    split
    · exact blames_ok _
    · rename_i u read
      obtain ⟨long, rfl⟩ := Text.Figures.integer_digits digits (by simpa using some) read
      rintro _ ⟨⟩
      exact .version gap digits long (behind.skipWhile Char.isDigit)

theorem versionPart_ok {c c' : Cursor text} {n : Nat} (read : versionPart c = .ok (n, c')) :
    c' = c.skipWhile Char.isDigit := by
  dsimp only [versionPart] at read
  split at read
  · cases read
  · split at read
    · cases read
      rfl
    · cases read

theorem version_blames {c : Cursor text} {front : List Char}
    (behind : c.Behind (front ++ "%YAML".toList)) : Blames (Halts text) (version c) := by
  have blanks : IsGap (c.rest.takeWhile (· == ' ')) := fun ch member =>
    .inl (by simpa using List.mem_takeWhile_imp member)
  have first := behind.skipWhile (· == ' ')
  refine (versionPart_blames blanks first).bind fun (major, c₁) read => ?_
  obtain rfl := versionPart_ok read
  dsimp only
  split
  · exact blames_halt _
  · rename_i point
    have second := (first.skipWhile Char.isDigit).next (not_not.mp point)
    have gap : IsGap (c.rest.takeWhile (· == ' ') ++
        (c.skipWhile (· == ' ')).rest.takeWhile Char.isDigit ++ ['.']) := by
      refine List.forall_mem_append.mpr ⟨List.forall_mem_append.mpr ⟨blanks, ?_⟩, by simp⟩
      exact fun ch member => .inr (.inr (List.mem_takeWhile_imp member))
    have third : (((c.skipWhile (· == ' ')).skipWhile Char.isDigit).next).Behind
        (front ++ "%YAML".toList ++ (c.rest.takeWhile (· == ' ') ++
          (c.skipWhile (· == ' ')).rest.takeWhile Char.isDigit ++ ['.'])) := by
      simpa only [List.append_assoc] using second
    exact (versionPart_blames gap third).bind fun _ _ => blames_ite (blames_ok _) blames_wrong

theorem handleMeaning_blames (c : Cursor text) : Blames (Halts text) (handleMeaning c) := by
  refine (handle_blames _).bind fun (name, c) _ => blames_ite (blames_halt _) ?_
  exact (tagText_blames _).bind fun (meaning, c) _ => blames_ite (blames_ok _) blames_wrong

theorem directive_blames {c : Cursor text} {front : List Char} (behind : c.Behind (front ++ ['%'])) :
    Blames (Halts text) (directive c) := by
  dsimp only [directive]
  refine blames_ite (blames_halt _) (blames_ite blames_wrong ?_)
  split
  · rename_i name
    have place := behind.skipWhile isNameChar
    rw [name, List.append_assoc] at place
    exact (version_blames place).bind fun _ _ => wrong_or _ _
  · refine blames_ite ?_ ?_
    · exact (handleMeaning_blames _).bind fun _ _ => wrong_or _ _
    · exact (blames_ok _).bind fun _ _ => wrong_or _ _

/-! Texts -/

theorem pointOf_error {n : Nat} {u : Unreadable} (failed : pointOf n = .error u) :
    0x110000 ≤ n ∧ u = if 0x80000000 ≤ n then .longCodePoint else .codePoint := by
  unfold pointOf at failed
  split_ifs at failed with long beyond
  · cases failed
    exact ⟨by omega, (if_pos long).symm⟩
  · cases failed
    exact ⟨beyond, (if_neg long).symm⟩

theorem number_ok {digits n : Nat} {c : Cursor text} (read : number digits c = .ok n) :
    Text.hexNat? (c.rest.take digits) = some n ∧ (c.rest.take digits).length = digits := by
  dsimp only [number] at read
  split at read
  · rename_i m value
    split_ifs at read with whole
    · cases read
      exact ⟨value, whole⟩
  · cases read

theorem number_blames (digits : Nat) (c : Cursor text) : Blames (Halts text) (number digits c) := by
  dsimp only [number]
  split
  · refine blames_ite (blames_ok _) ?_
    rintro _ ⟨⟩
    exact .malformed
  · exact blames_wrong

theorem numberedEscape_blames {letter : Char} {digits : Nat} (listed : escapeDigits? letter = some digits)
    {c : Cursor text} {front : List Char} (behind : c.Behind (front ++ ['\\', letter])) :
    Blames (Halts text) (numberedEscape digits c) := by
  unfold numberedEscape
  split
  · rename_i h failed
    rintro _ ⟨⟩
    exact number_blames digits c h failed
  · rename_i n read
    obtain ⟨value, whole⟩ := number_ok read
    split
    · exact blames_ok _
    · rename_i u failed
      obtain ⟨beyond, rfl⟩ := pointOf_error failed
      have bound := Text.hexNat_bound value
      rw [whole] at bound
      -- Only a capital U announces digits enough for the number of no character.
      unfold escapeDigits? at listed
      split at listed
      · cases listed
        omega
      · cases listed
        omega
      · cases listed
        rintro _ ⟨⟩
        have spelled : text = front ++ "\\U".toList ++ c.rest.take 8 ++ c.rest.drop 8 :=
          behind.trans (by simp)
        exact .escape whole value beyond spelled
      · cases listed

theorem quotedBreaks_blames (fuel : Nat) (c : Cursor text) (breaks : List Char) :
    Blames (Halts text) (quotedBreaks fuel c breaks) := by
  induction fuel generalizing c breaks with
  | zero => exact blames_wrong
  | succ fuel ih =>
    unfold quotedBreaks
    refine blames_ite blames_wrong ?_
    dsimp only
    split
    · exact ih _ _
    · exact blames_ok _

theorem escape_blames {c : Cursor text} {front : List Char} (behind : c.Behind (front ++ ['\\'])) :
    Blames (Halts text) (escape c) := by
  unfold escape
  split
  · exact blames_halt _
  · rename_i letter here
    split
    · exact blames_ok _
    · rename_i digits _ listed
      have lettered : c.next.Behind (front ++ ['\\', letter]) := by simpa using behind.next here
      exact (numberedEscape_blames listed lettered).map _
    · exact (quotedBreaks_blames _ _ _).map _
    · exact blames_wrong

theorem quotedGap_blames (c : Cursor text) : Blames (Halts text) (quotedGap c) := by
  dsimp only [quotedGap]
  split
  · exact blames_ite (blames_halt _) (blames_ok _)
  · exact (quotedBreaks_blames _ _ _).map _

theorem quotedFrom_blames (double : Bool) (fuel : Nat) (c : Cursor text) (ps : List Point) :
    Blames (Halts text) (quotedFrom double fuel c ps) := by
  induction fuel generalizing c ps with
  | zero => exact blames_wrong
  | succ fuel ih =>
    unfold quotedFrom
    split
    · exact blames_halt _
    · rename_i ch rest here
      refine blames_ite (blames_ite (ih _ _) (blames_ok _)) (blames_ite (blames_ok _) ?_)
      split
      · rename_i slash
        obtain ⟨front, place⟩ := c.exists_behind
        have behind : c.next.Behind (front ++ ['\\']) :=
          place.next (by rw [Cursor.peek?, here, slash.1]; rfl)
        split
        · exact ih _ _
        · rename_i h failed
          rintro _ ⟨⟩
          exact escape_blames behind h failed
      · refine blames_ite ?_ (ih _ _)
        split
        · exact ih _ _
        · rename_i h failed
          rintro _ ⟨⟩
          exact quotedGap_blames c h failed

theorem quoted_blames (double : Bool) (c : Cursor text) : Blames (Halts text) (quoted double c) :=
  (quotedFrom_blames double _ _ _).map _

theorem block_blames (folded : Bool) (outer : Int) (c : Cursor text) :
    Blames (Halts text) (block folded outer c) := by
  unfold block
  split
  · exact blames_wrong
  · exact blames_ok _

end

/-! Tokens. The bookkeeping of keys and blocks knows malformed text only. -/

namespace Lexer
variable {text : List Char} (l : Lexer text)

theorem unwind_cursor (column : Int) : (l.unwind column).cursor = l.cursor := by
  unfold unwind
  split <;> rfl

theorem dropKey_cursor {l l' : Lexer text} (done : l.dropKey = .ok l') : l'.cursor = l.cursor := by
  unfold dropKey at done
  split at done
  · split at done <;> cases done
    rfl
  · cases done
    rfl

theorem dropStale_cursor {l l' : Lexer text} (done : l.dropStale = .ok l') :
    l'.cursor = l.cursor := by
  dsimp only [dropStale] at done
  split at done <;> cases done
  rfl

theorem dropKey_blames : Blames (Halts text) l.dropKey := by
  unfold dropKey
  split
  · exact wrong_or _ _
  · exact blames_ok _

theorem saveKey_blames : Blames (Halts text) l.saveKey :=
  blames_ite ((dropKey_blames l).bind fun _ _ => blames_ok _) (blames_ok _)

theorem dropStale_blames : Blames (Halts text) l.dropStale := wrong_or _ _

theorem dropKey_then (f : Lexer text → Lexer text) :
    Blames (Halts text) (l.dropKey >>= fun l => .ok (f l)) :=
  (dropKey_blames l).bind fun _ _ => blames_ok _

theorem directiveLine_blames {l : Lexer text} (here : l.cursor.peek? = some '%') :
    Blames (Halts text) l.directiveLine := by
  refine (dropKey_blames _).bind fun l' dropped => ?_
  obtain ⟨front, behind⟩ := l.cursor.exists_behind
  have same : l'.cursor = l.cursor := (dropKey_cursor dropped).trans (l.unwind_cursor (-1))
  have sign : l'.cursor.next.Behind (front ++ ['%']) := same ▸ behind.next here
  exact (directive_blames sign).bind fun _ _ => blames_ok _

theorem flowStart_blames (t : Token) : Blames (Halts text) (l.flowStart t) :=
  (saveKey_blames l).bind fun _ _ => blames_ok _

theorem flowEnd_blames (t : Token) : Blames (Halts text) (l.flowEnd t) :=
  (dropKey_blames l).bind fun _ _ => blames_ite (blames_halt _) (blames_ok _)

theorem blockEntry_blames : Blames (Halts text) l.blockEntry :=
  blames_ite (blames_halt _) (dropKey_then _ _)

theorem explicitKey_blames : Blames (Halts text) l.explicitKey :=
  blames_ite (blames_halt _) (dropKey_then _ _)

theorem keyEnd_blames : Blames (Halts text) l.keyEnd := by
  unfold keyEnd
  split
  · exact blames_ok _
  · exact blames_ite (blames_halt _) (dropKey_then _ _)

theorem word_blames {scan : Cursor text → Except Halt (Token × Cursor text)}
    (scans : ∀ c, Blames (Halts text) (scan c)) : Blames (Halts text) (l.word scan) :=
  (saveKey_blames l).bind fun _ _ => (scans _).bind fun _ _ => blames_ok _

theorem named_blames (token : String → Token) : Blames (Halts text) (l.named token) :=
  word_blames l fun _ => (name_blames _).map _

theorem plainWord_blames : Blames (Halts text) l.plainWord :=
  (saveKey_blames l).bind fun _ _ => blames_ok _

theorem blockText_blames (folded : Bool) : Blames (Halts text) (l.blockText folded) :=
  (dropKey_blames _).bind fun _ _ => (block_blames _ _ _).bind fun _ _ => blames_ok _

theorem tokenAt_blames {l : Lexer text} {ch : Char} (here : l.cursor.peek? = some ch)
    (after : Option Char) : Blames (Halts text) (l.tokenAt ch after) := by
  unfold tokenAt
  refine blames_if (fun sign => directiveLine_blames (sign.1 ▸ here)) ?_
  refine blames_ite (dropKey_then _ _) ?_
  refine blames_ite (dropKey_then _ _) ?_
  refine blames_ite (flowStart_blames l _) ?_
  refine blames_ite (flowStart_blames l _) ?_
  refine blames_ite (flowEnd_blames l _) ?_
  refine blames_ite (flowEnd_blames l _) ?_
  refine blames_ite (dropKey_then _ _) ?_
  refine blames_ite (blockEntry_blames l) ?_
  refine blames_ite (explicitKey_blames l) ?_
  refine blames_ite (keyEnd_blames l) ?_
  refine blames_ite (named_blames l _) ?_
  refine blames_ite (named_blames l _) ?_
  refine blames_ite (word_blames l fun _ => tag_blames _) ?_
  refine blames_ite (blockText_blames l _) ?_
  refine blames_ite (blockText_blames l _) ?_
  refine blames_ite (word_blames l fun c => (quoted_blames false c).map _) ?_
  refine blames_ite (word_blames l fun c => (quoted_blames true c).map _) ?_
  exact blames_ite (plainWord_blames l) (blames_halt _)

def Met (text : List Char) (stop : Option Fault) (f : Fault) : Prop :=
  stop = some f ∨ Misspelt text f

theorem met_of_halts {stop : Option Fault} {h : Halt} (halts : Halts text h) :
    Met text stop (if h.atEnd then stop.getD h.fault else h.fault) := by
  split
  · cases stop with
    | none => exact .inr halts
    | some f => exact .inl rfl
  · exact .inr halts

theorem step_blames (stop : Option Fault) : Blames (Met text stop) (l.step stop) := by
  have told : ∀ h, Halts text h → Met text stop (if h.atEnd then stop.getD h.fault else h.fault) :=
    fun _ => met_of_halts
  unfold step
  dsimp only
  split
  · rintro _ ⟨⟩
    exact .inl rfl
  · refine ((dropStale_blames _).mapError told).bind fun _ _ => ?_
    exact ((dropKey_blames _).mapError told).bind fun _ _ => blames_ok _
  · rename_i ch rest _ here
    refine ((dropStale_blames _).mapError told).bind fun l' dropped => ?_
    refine ((tokenAt_blames ?_ _).mapError told).bind fun _ _ => ?_
    · have same := dropStale_cursor (mapError_ok dropped)
      rw [unwind_cursor, same, Cursor.peek?, here, List.head?_cons]
    · split
      · rintro _ ⟨⟩
        exact .inl rfl
      · exact ((dropStale_blames _).mapError told).bind fun _ _ => blames_ok _

theorem run_stops (stop : Option Fault) {fuel : Nat} {f : Fault}
    (met : (l.run stop fuel).stop = some f) : Met text stop f := by
  induction fuel generalizing l with
  | zero =>
    cases met
    exact .inr .malformed
  | succ fuel ih =>
    unfold run at met
    split at met
    · rename_i failed
      cases met
      exact step_blames l stop _ failed
    · cases met
    · exact ih _ met

end Lexer

theorem tokens_stops {f : Feed} {g : Fault} (met : f.tokens.stop = some g) :
    Lexer.Met f.text f.stop g :=
  Lexer.run_stops _ f.stop met

end Yaml
end Columnar
