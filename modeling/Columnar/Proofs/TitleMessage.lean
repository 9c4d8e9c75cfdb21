import Columnar.Proofs.Titles

namespace Columnar.Titles

def feed : Point := .char '\n'

/-- The lines of a text; there is one more than there are line feeds. -/
def textLines (t : Text) : List Text := (t.points.splitOn feed).map .ofPoints

theorem textLines_plain {t : Text} (plain : feed ∉ t.points) : textLines t = [t] := by
  rw [textLines, List.splitOn_eq_singleton plain, List.map_singleton, Text.ofPoints_points]

theorem textLines_feed (t u : Text) : textLines (t ++ "\n" ++ u) = textLines t ++ textLines u := by
  have points : (t ++ "\n" ++ u).points = t.points ++ feed :: u.points := by simp [feed]
  rw [textLines, points, List.splitOn_append_cons_self, List.map_append]
  rfl

theorem intercalate_feed (t u : Text) (ts : List Text) :
    Text.intercalate "\n" (t :: u :: ts) = t ++ "\n" ++ Text.intercalate "\n" (u :: ts) :=
  Text.points_injective (by simp [List.intercalate_cons_cons])

theorem textLines_joined {ts : List Text} (nonempty : ts ≠ []) :
    textLines (.intercalate "\n" ts) = ts.flatMap textLines := by
  induction ts with
  | nil => exact absurd rfl nonempty
  | cons t ts ih =>
    cases ts with
    | nil => simp [Text.intercalate]
    | cons u ts =>
      rw [intercalate_feed, textLines_feed, ih (List.cons_ne_nil u ts)]
      rfl

theorem splitOn_plain {α : Type} [DecidableEq α] (x : α) (cs : List α) : ∀ part ∈ cs.splitOn x, x ∉ part := by
  induction cs with
  | nil => simp
  | cons c cs ih =>
    rw [List.splitOn_cons_eq_if_modifyHead]
    split
    · exact List.forall_mem_cons.mpr ⟨List.not_mem_nil, ih⟩
    · rename_i other
      cases rest : cs.splitOn x with
      | nil => exact absurd rest (List.splitOn_ne_nil x cs)
      | cons part more =>
        rw [rest] at ih
        obtain ⟨plain, others⟩ := List.forall_mem_cons.mp ih
        have head : x ∉ c :: part := by
          rw [List.mem_cons, not_or]
          exact ⟨fun same => other (beq_iff_eq.mpr same.symm), plain⟩
        exact List.forall_mem_cons.mpr ⟨head, others⟩

theorem mem_textLines {t l : Text} (member : l ∈ textLines t) : feed ∉ l.points := by
  obtain ⟨part, inside, rfl⟩ := List.mem_map.mp member
  rw [Text.points_ofPoints]
  exact splitOn_plain feed t.points part inside

theorem flatMap_textLines {ls : List Text} :
    ls.flatMap textLines = ls ↔ ∀ l ∈ ls, feed ∉ l.points := by
  constructor
  · intro same l member
    rw [← same] at member
    obtain ⟨m, _, line⟩ := List.mem_flatMap.mp member
    exact mem_textLines line
  · intro plain
    induction ls with
    | nil => rfl
    | cons l ls ih =>
      obtain ⟨head, others⟩ := List.forall_mem_cons.mp plain
      rw [List.flatMap_cons, textLines_plain head, ih others, List.singleton_append]

theorem feed_mem_line (p : Problem) : feed ∈ p.line.points ↔ feed ∈ p.title.points := by
  have digits (i : Nat) : '\n' ∉ Nat.toDigits 10 i := fun feed =>
    absurd (Nat.isDigit_of_mem_toDigits (by decide) (by decide) feed) (by decide)
  cases p with
  | notIdentifier i title =>
    have told : (Problem.notIdentifier i title).line =
        "col. " ++ String.ofList (Nat.toDigits 10 i) ++ " name '" ++ title ++
          "' is not a valid column name" := rfl
    simp [told, feed, Problem.title, digits i]
  | repeated i title =>
    have told : (Problem.repeated i title).line =
        "col. " ++ String.ofList (Nat.toDigits 10 i) ++ " name '" ++ title ++ "' is not unique" := rfl
    simp [told, feed, Problem.title, digits i]

theorem problemsFrom_title {i : Nat} {seen titles : List Text} {t : Text} (member : t ∈ titles)
    (odd : ¬ IsMachineName t) : ∃ p ∈ problemsFrom i seen titles, p.title = t := by
  induction titles generalizing i seen with
  | nil => cases member
  | cons u us ih =>
    rw [problemsFrom]
    rcases List.mem_cons.mp member with rfl | later
    · refine ⟨.notIdentifier i t, List.mem_append_left _ (List.mem_append_left _ ?_), rfl⟩
      simp [isIdentifier_iff, odd]
    · obtain ⟨p, told, about⟩ := ih later
      exact ⟨p, List.mem_append_right _ told, about⟩

theorem name_plain {t : Text} (name : IsMachineName t) : feed ∉ t.points := by
  obtain ⟨c, cs, chars, first, others⟩ := name
  rw [chars, feed, List.mem_map_of_injective Point.char_injective, List.mem_cons, not_or]
  refine ⟨?_, fun inside => absurd (others '\n' inside) (by decide)⟩
  rintro rfl
  exact absurd first (by decide)

theorem lines_plain {titles : List Text} :
    (∀ l ∈ lines titles, feed ∉ l.points) ↔ ∀ t ∈ titles, feed ∉ t.points := by
  simp only [lines, List.forall_mem_map, feed_mem_line]
  constructor
  · intro plain t member feed
    have odd : ¬ IsMachineName t := fun name => name_plain name feed
    obtain ⟨p, told, rfl⟩ : ∃ p ∈ problems titles, p.title = t := problemsFrom_title member odd
    exact plain p told feed
  · exact fun plain p told => plain _ (title_problemsFrom told)

theorem message_joined (ls : List Text) : (TableError.ofTitles ls).message =
    "invalid tabular schema: column names have problems:" ++ "\n" ++ .intercalate "\n" ls := by
  rw [TableError.message, TableError.ofTitles, ← Text.append_assoc]
  rfl

theorem message_ofTitles {ls : List Text} (nonempty : ls ≠ []) :
    textLines (TableError.ofTitles ls).message =
      .whole "invalid tabular schema: column names have problems:" :: ls.flatMap textLines := by
  rw [message_joined, textLines_feed, textLines_plain (by decide), textLines_joined nonempty,
    List.singleton_append]

theorem check_problems {titles : List Text} {e : TableError} (refused : check titles = some e) :
    lines titles ≠ [] ∧ e = .ofTitles (lines titles) := by
  unfold check at refused
  cases told : lines titles with
  | nil => rw [told] at refused; cases refused
  | cons l ls => rw [told] at refused; exact ⟨List.cons_ne_nil l ls, (Option.some.inj refused).symm⟩

/-- Behind its first line the message has the lines of each problem in order. These are the problems
themselves just if no title holds a line feed. -/
theorem message_lines (cs : Columns) {e : TableError} (refused : check cs.titles = some e) :
    e.message = "invalid tabular schema: column names have problems:" ++ "\n" ++
        .intercalate "\n" e.problems ∧
      textLines e.message = .whole "invalid tabular schema: column names have problems:" ::
        e.problems.flatMap textLines ∧
      ((textLines e.message).drop 1 = e.problems ↔ ∀ c ∈ cs, feed ∉ c.title.points) := by
  obtain ⟨told, rfl⟩ := check_problems refused
  have split := message_ofTitles told
  refine ⟨message_joined _, split, ?_⟩
  rw [split, List.drop_one, List.tail_cons]
  exact flatMap_textLines.trans (lines_plain.trans List.forall_mem_map)

theorem message_lines_repeated :
    let cs : Columns := [⟨"a b", none, "", none⟩, ⟨"", none, "", none⟩, ⟨"a b", none, "", none⟩]
    let problems : List Text := ["col. 0 name 'a b' is not a valid column name",
      "col. 1 name '' is not a valid column name", "col. 2 name 'a b' is not a valid column name",
      "col. 2 name 'a b' is not unique"]
    check cs.titles = some (.ofTitles problems) ∧
      (textLines (TableError.ofTitles problems).message).drop 1 = problems := by
  intro cs problems
  have refused : check cs.titles = some (.ofTitles problems) := rfl
  obtain ⟨_, _, plain⟩ := message_lines cs refused
  exact ⟨refused, plain.mpr (by decide)⟩

/-- A line feed in a title puts its problem on two lines. -/
theorem title_feed_splits :
    let cs : Columns := [⟨"a\nb", none, "", none⟩]
    ∃ e, check cs.titles = some e ∧
      e.problems = (["col. 0 name 'a\nb' is not a valid column name"] : List Text) ∧
      (textLines e.message).drop 1 =
        (["col. 0 name 'a", "b' is not a valid column name"] : List Text) ∧
      (textLines e.message).drop 1 ≠ e.problems := by
  intro cs
  exact ⟨.ofTitles ["col. 0 name 'a\nb' is not a valid column name"], by decide, rfl, by decide,
    by decide⟩

end Columnar.Titles
