import Columnar.Column
import Columnar.Proofs.Text.Points
import Columnar.Titles
import Mathlib

namespace Columnar.Titles

/-- A letter, an underscore or a dollar sign, then these and digits, all of them ASCII. -/
def IsMachineName (title : Text) : Prop :=
  ∃ c cs, title.points = (c :: cs).map .char ∧ (c.isAlpha ∨ c = '_' ∨ c = '$') ∧
    ∀ d ∈ cs, d.isAlphanum ∨ d = '_' ∨ d = '$'

theorem isStart_iff {c : Char} : isStart c = true ↔ c.isAlpha ∨ c = '_' ∨ c = '$' := by
  simp only [isStart, Char.isAlpha, Char.isUpper, Char.isLower, Char.le_def, Bool.or_eq_true,
    Bool.and_eq_true, decide_eq_true_eq, beq_iff_eq, ge_iff_le]
  tauto

theorem isPart_iff {c : Char} : isPart c = true ↔ c.isAlphanum ∨ c = '_' ∨ c = '$' := by
  simp only [isPart, isStart_iff, Char.isAlphanum, Char.isDigit, Char.le_def, Bool.or_eq_true,
    Bool.and_eq_true, decide_eq_true_eq, ge_iff_le]
  tauto

theorem isIdentifier_iff {title : Text} : isIdentifier title = true ↔ IsMachineName title := by
  simp only [IsMachineName, Text.points_eq_chars]
  cases title with
  | whole s =>
    rw [← String.ofList_toList (s := s), isIdentifier, String.toList_ofList]
    cases s.toList with
    | nil => simp [isIdentifierChars]
    | cons c cs => simp [isIdentifierChars, isStart_iff, isPart_iff, String.ofList_inj]
  | broken s h t => simp [isIdentifier]

theorem problemsAt_eq_nil {i : Nat} {seen : List Text} {title : Text} :
    problemsAt i seen title = [] ↔ IsMachineName title ∧ title ∉ seen := by
  rw [problemsAt, List.append_eq_nil_iff, ← isIdentifier_iff]
  simp

theorem problemsFrom_eq_nil {i : Nat} {seen titles : List Text} :
    problemsFrom i seen titles = [] ↔
      (∀ t ∈ titles, IsMachineName t) ∧ titles.Nodup ∧ ∀ t ∈ titles, t ∉ seen := by
  induction titles generalizing i seen with
  | nil => simp [problemsFrom]
  | cons t ts ih =>
    rw [problemsFrom, List.append_eq_nil_iff, problemsAt_eq_nil, ih, List.nodup_cons]
    simp only [List.forall_mem_cons, List.mem_append, List.mem_singleton, not_or]
    constructor
    · rintro ⟨⟨name, new⟩, names, distinct, others⟩
      exact ⟨⟨name, names⟩, ⟨fun ht => (others t ht).2 rfl, distinct⟩, new, fun u hu => (others u hu).1⟩
    · rintro ⟨⟨name, names⟩, ⟨unseen, distinct⟩, new, others⟩
      exact ⟨⟨name, new⟩, names, distinct, fun u hu => ⟨others u hu, fun same => unseen (same ▸ hu)⟩⟩

theorem lines_eq_nil {titles : List Text} :
    lines titles = [] ↔ (∀ t ∈ titles, IsMachineName t) ∧ titles.Nodup := by
  rw [lines, List.map_eq_nil_iff, problems, problemsFrom_eq_nil]
  simp

theorem check_eq_some {titles : List Text} {e : TableError} : check titles = some e ↔
    ((∃ t ∈ titles, ¬ IsMachineName t) ∨ ¬ titles.Nodup) ∧ e = .ofTitles (lines titles) := by
  have refused : (∃ t ∈ titles, ¬ IsMachineName t) ∨ ¬ titles.Nodup ↔ lines titles ≠ [] := by
    rw [Ne, lines_eq_nil, not_and_or]
    push Not
    rfl
  rw [refused, check]
  cases lines titles with
  | nil => simp
  | cons l ls => simp [eq_comm]

theorem check_refuses {titles : List Text} : (∃ e, check titles = some e ∧ e.kind = .titles) ↔
    ¬ ((∀ t ∈ titles, IsMachineName t) ∧ titles.Nodup) := by
  rw [← lines_eq_nil, check]
  cases lines titles with
  | nil => simp
  | cons l ls => simp [TableError.ofTitles]

def Problem.title : Problem → Text
  | .notIdentifier _ title => title
  | .repeated _ title => title

theorem title_problemsFrom {i : Nat} {seen titles : List Text} {p : Problem}
    (told : p ∈ problemsFrom i seen titles) : p.title ∈ titles := by
  induction titles generalizing i seen with
  | nil => cases told
  | cons t ts ih =>
    rcases List.mem_append.mp told with here | later
    · have same : p.title = t := by
        simp only [problemsAt, List.mem_append, List.mem_ite_nil_left, List.mem_ite_nil_right,
          List.mem_singleton] at here
        rcases here with ⟨_, rfl⟩ | ⟨_, rfl⟩ <;> rfl
      exact same ▸ List.mem_cons_self
    · exact List.mem_cons_of_mem _ (ih later)

instance : DecidablePred IsMachineName := fun _ => decidable_of_iff _ isIdentifier_iff

def linesAt (titles : List Text) (i : Nat) (title : Text) : List Text :=
  (if IsMachineName title then [] else
      [s!"col. {i} name '" ++ title ++ "' is not a valid column name"]) ++
    if ∃ j < i, titles[j]? = some title then [s!"col. {i} name '" ++ title ++ "' is not unique"] else []

theorem problemsFrom_append (i : Nat) (seen ts us : List Text) : problemsFrom i seen (ts ++ us) =
    problemsFrom i seen ts ++ problemsFrom (i + ts.length) (seen ++ ts) us := by
  induction ts generalizing i seen with
  | nil => simp [problemsFrom]
  | cons t ts ih =>
    have place : i + 1 + ts.length = i + (t :: ts).length := by rw [List.length_cons]; omega
    rw [List.cons_append, problemsFrom, ih, problemsFrom, List.append_assoc, place, List.append_assoc,
      List.singleton_append]

theorem problems_concat (ts : List Text) (t : Text) :
    problems (ts ++ [t]) = problems ts ++ problemsAt ts.length ts t := by
  rw [problems, problemsFrom_append, problemsFrom, problemsFrom, List.append_nil, List.nil_append,
    Nat.zero_add, problems]

theorem problemsFrom_lines (i : Nat) (seen ts : List Text) :
    (problemsFrom i seen ts).map Problem.line = (ts.mapIdx fun k t =>
      (problemsAt (i + k) (seen ++ ts.take k) t).map Problem.line).flatten := by
  induction ts generalizing i seen with
  | nil => rfl
  | cons t ts ih =>
    rw [problemsFrom, List.map_append, ih, List.mapIdx_cons, List.flatten_cons]
    simp only [List.take_zero, List.append_nil, Nat.add_zero, List.take_succ_cons, List.append_assoc,
      List.singleton_append, Nat.add_assoc, Nat.add_comm 1]

theorem mem_take {titles : List Text} {i : Nat} {t : Text} :
    t ∈ titles.take i ↔ ∃ j < i, titles[j]? = some t := by
  simp only [List.mem_iff_getElem?, List.getElem?_take]
  exact exists_congr fun j => by split <;> simp_all

theorem lines_at (titles : List Text) (i : Nat) (title : Text) :
    (problemsAt i (titles.take i) title).map Problem.line = linesAt titles i title := by
  simp only [problemsAt, linesAt, isIdentifier_iff, mem_take, List.map_append]
  congr 1 <;> split <;> rfl

theorem lines_eq (titles : List Text) :
    lines titles = (titles.mapIdx (linesAt titles)).flatten := by
  rw [lines, problems, problemsFrom_lines]
  simp only [Nat.zero_add, List.nil_append, lines_at]

theorem lines_append (ts us : List Text) : lines ts <+: lines (ts ++ us) := by
  rw [lines, lines, problems, problems, problemsFrom_append, List.map_append]
  exact List.prefix_append _ _

/-- Every title counts among the distinct ones or is told to be a repetition. -/
theorem length_lines (titles : List Text) : (lines titles).length + titles.toFinset.card =
    titles.countP (fun t => ¬ IsMachineName t) + titles.length := by
  induction titles using List.reverseRecOn with
  | nil => rfl
  | append_singleton ts t ih =>
    have told : (lines (ts ++ [t])).length =
        (lines ts).length + (problemsAt ts.length ts t).length := by
      simp [lines, problems_concat]
    have distinct : (ts ++ [t]).toFinset.card = ts.toFinset.card + if t ∈ ts then 0 else 1 := by
      rw [List.toFinset_append, List.toFinset_cons, List.toFinset_nil, Finset.union_insert,
        Finset.union_empty]
      split <;> simp_all
    rw [told, distinct, List.countP_append, List.length_append]
    simp only [problemsAt, isIdentifier_iff, List.length_append, List.countP_singleton]
    by_cases name : IsMachineName t <;> by_cases repeated : t ∈ ts <;>
      simp [name, repeated] at ih ⊢ <;> omega

/-- What is told of the titles of columns is what is told of each in order; it counts the titles
that are no names and those that repeat another, stays as it is when columns follow, and makes up
the error, which there is just where one of the titles is no name or two are the same. -/
theorem title_lines_by_position (cs : Columns) :
    lines cs.titles = (cs.titles.mapIdx (linesAt cs.titles)).flatten ∧
      (lines cs.titles).length + cs.titles.toFinset.card =
        cs.titles.countP (fun t => ¬ IsMachineName t) + cs.length ∧
      (∀ ds : Columns, lines cs.titles <+: lines (Columns.titles (cs ++ ds))) ∧
      ∀ e, check cs.titles = some e ↔
        ((∃ t ∈ cs.titles, ¬ IsMachineName t) ∨ ¬ cs.titles.Nodup) ∧
          e = .ofTitles (lines cs.titles) := by
  have size : cs.titles.length = cs.length := List.length_map _
  refine ⟨lines_eq _, size ▸ length_lines _, fun ds => ?_, fun e => check_eq_some⟩
  have append : Columns.titles (cs ++ ds) = cs.titles ++ ds.titles := List.map_append
  rw [append]
  exact lines_append _ _

example : lines ["a b", "a", "a b", "a b"] =
    (["col. 0 name 'a b' is not a valid column name", "col. 2 name 'a b' is not a valid column name",
      "col. 2 name 'a b' is not unique", "col. 3 name 'a b' is not a valid column name",
      "col. 3 name 'a b' is not unique"] : List Text) := by decide

end Columnar.Titles
