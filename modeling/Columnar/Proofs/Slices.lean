import Columnar.Slice
import Mathlib

namespace Columnar

/-- A bound counted from the front; a negative one counts from the end. -/
def fromFront (length : Nat) (bound : Int) : Int := if bound < 0 then bound + length else bound

def brought (length : Nat) (low high omitted : Int) (bound : Option Int) : Int :=
  bound.elim omitted fun i => max low (min high (fromFront length i))

theorem clip_eq {low high : Int} (ordered : low ≤ high) (length : Nat) (bound : Int) :
    clip length low high bound = max low (min high (fromFront length bound)) := by
  rw [clip, ← fromFront]
  split
  · omega
  · split <;> omega

theorem brought_clip {low high : Int} (ordered : low ≤ high) (length : Nat) (omitted : Int)
    (bound : Option Int) :
    (bound.map (clip length low high)).getD omitted = brought length low high omitted bound := by
  cases bound with
  | none => rfl
  | some i => exact clip_eq ordered length i

theorem brought_between {low high omitted : Int} {length : Nat}
    (inside : low ≤ omitted ∧ omitted ≤ high) (bound : Option Int) :
    low ≤ brought length low high omitted bound ∧ brought length low high omitted bound ≤ high := by
  cases bound with
  | none => exact inside
  | some i =>
    rw [brought, Option.elim_some]
    omega

namespace Slice

/-- The bounds of a slice in a sequence: forwards they are brought between the first place and the
one behind the last, backwards between the one before the first and the last. An omitted bound is
the end of the sequence on its side. -/
structure Bounds (s : Slice) (length : Nat) (a b : Int) : Prop where
  forwards : 0 < s.step →
    a = brought length 0 length 0 s.start ∧ b = brought length 0 length length s.stop
  backwards : s.step < 0 →
    a = brought length (-1) (length - 1) (length - 1) s.start ∧
      b = brought length (-1) (length - 1) (-1) s.stop

def Before (s : Slice) (b i : Int) : Prop := if 0 < s.step then i < b else b < i

/-- A walk from one bound on takes every place that is before the other, and no more. -/
structure Walk (s : Slice) (a b : Int) (places : List Nat) : Prop where
  taken : ∀ k i : Nat, places[k]? = some i → (i : Int) = a + k * s.step
  ordered : places.Pairwise fun i j => if 0 < s.step then i < j else j < i
  maximal : ∀ k : Nat, k < places.length ↔ s.Before b (a + k * s.step)

theorem bounds_ends (s : Slice) (length : Nat) :
    s.Bounds length (s.first length) (s.last length) := by
  constructor
  · intro forwards
    rw [first, last, if_pos forwards, if_pos forwards]
    exact ⟨brought_clip (by omega) .., brought_clip (by omega) ..⟩
  · intro backwards
    rw [first, last, if_neg (by omega), if_neg (by omega)]
    exact ⟨brought_clip (by omega) .., brought_clip (by omega) ..⟩

theorem before_inside {s : Slice} (step : s.step ≠ 0) {length : Nat} {a b : Int}
    (bounds : s.Bounds length a b) {k : Nat} (before : s.Before b (a + k * s.step)) :
    0 ≤ a + k * s.step ∧ a + k * s.step < length := by
  obtain forwards | backwards := step.lt_or_gt.symm
  · obtain ⟨start, stop⟩ := bounds.forwards forwards
    have first : 0 ≤ a := start ▸ (brought_between (by omega) s.start).1
    have last : b ≤ length := stop ▸ (brought_between (by omega) s.stop).2
    have gone : 0 ≤ k * s.step := by positivity
    rw [Before, if_pos forwards] at before
    omega
  · obtain ⟨start, stop⟩ := bounds.backwards backwards
    have first : a ≤ length - 1 := start ▸ (brought_between (by omega) s.start).2
    have last : -1 ≤ b := stop ▸ (brought_between (by omega) s.stop).1
    have gone : k * s.step ≤ 0 := Int.mul_nonpos_of_nonneg_of_nonpos (by omega) (by omega)
    rw [Before, if_neg (by omega)] at before
    omega

theorem lt_steps_iff {size : Int} (positive : 0 < size) (span : Int) (k : Nat) :
    k < (if span ≤ 0 then 0 else ((span - 1) / size + 1).toNat) ↔ k * size < span := by
  have gone : 0 ≤ k * size := by positivity
  split
  · omega
  · have fits : (k : Int) ≤ (span - 1) / size ↔ k * size ≤ span - 1 :=
      Int.le_ediv_iff_mul_le positive
    have some : 0 ≤ (span - 1) / size := Int.ediv_nonneg (by omega) positive.le
    omega

theorem count_iff {s : Slice} (step : s.step ≠ 0) (length k : Nat) :
    k < s.count length ↔ s.Before (s.last length) (s.first length + k * s.step) := by
  have size : 0 < (s.step.natAbs : Int) := by omega
  rw [count, lt_steps_iff size, Before]
  obtain forwards | backwards := step.lt_or_gt.symm
  · rw [if_pos forwards, if_pos forwards, Int.natAbs_of_nonneg forwards.le]
    omega
  · rw [if_neg (by omega), if_neg (by omega), Int.ofNat_natAbs_of_nonpos backwards.le, mul_neg]
    omega

theorem places_getElem? {s : Slice} {length k i : Nat} : (s.places length)[k]? = some i ↔
    k < s.count length ∧ (s.first length + k * s.step).toNat = i := by
  rw [places, List.getElem?_map, Option.map_eq_some_iff]
  simp only [List.getElem?_eq_some_iff, List.length_range, List.getElem_range]
  grind

theorem places_inside {s : Slice} (step : s.step ≠ 0) {length k i : Nat}
    (taken : (s.places length)[k]? = some i) :
    (i : Int) = s.first length + k * s.step ∧ i < length := by
  obtain ⟨counted, rfl⟩ := places_getElem?.mp taken
  have inside := before_inside step (s.bounds_ends length) ((count_iff step length k).mp counted)
  omega

theorem walk_places {s : Slice} (step : s.step ≠ 0) (length : Nat) :
    s.Walk (s.first length) (s.last length) (s.places length) where
  taken k i taken := (places_inside step taken).1
  ordered := by
    -- Every place is so many steps from the first one, and all steps go the same way.
    rw [List.pairwise_iff_getElem]
    intro j k hj hk later
    have first := (places_inside step (List.getElem?_eq_getElem hj)).1
    have second := (places_inside step (List.getElem?_eq_getElem hk)).1
    have further : (j : Int) < k := by omega
    split
    · have gone := Int.mul_lt_mul_of_pos_right further ‹_›
      omega
    · have gone := Int.mul_lt_mul_of_neg_right further (by omega : s.step < 0)
      omega
  maximal k := by
    rw [places, List.length_map, List.length_range]
    exact count_iff step length k

variable {α : Type}

theorem filterMap_inside {xs : List α} {places : List Nat}
    (inside : ∀ i ∈ places, i < xs.length) :
    List.Forall₂ (fun i x => xs[i]? = some x) places (places.filterMap fun i => xs[i]?) := by
  induction places with
  | nil => exact .nil
  | cons i places ih =>
    obtain ⟨here, later⟩ := List.forall_mem_cons.mp inside
    rw [List.filterMap_cons_some (List.getElem?_eq_getElem here)]
    exact .cons (List.getElem?_eq_getElem here) (ih later)

theorem pick_places {s : Slice} (step : s.step ≠ 0) (xs : List α) :
    ∃ picked, s.pick? xs = some picked ∧
      List.Forall₂ (fun i x => xs[i]? = some x) (s.places xs.length) picked := by
  refine ⟨_, if_neg step, filterMap_inside fun i taken => ?_⟩
  obtain ⟨k, at_k⟩ := List.mem_iff_getElem?.mp taken
  exact (places_inside step at_k).2

theorem pick_getElem? {s : Slice} (step : s.step ≠ 0) (xs : List α) :
    ∃ picked, s.pick? xs = some picked ∧ ∀ (k : Nat) (x : α), picked[k]? = some x ↔
      s.Before (s.last xs.length) (s.first xs.length + k * s.step) ∧
        xs[(s.first xs.length + k * s.step).toNat]? = some x := by
  obtain ⟨picked, chosen, each⟩ := pick_places step xs
  obtain ⟨long, each⟩ := List.forall₂_iff_get.mp each
  have counted : s.count xs.length = picked.length := by
    rw [← long, places, List.length_map, List.length_range]
  have at_place {k : Nat} (here : k < picked.length) :
      xs[(s.first xs.length + k * s.step).toNat]? = some picked[k] := by
    have place := (places_getElem?.mp (List.getElem?_eq_getElem (long ▸ here))).2
    exact place ▸ each k (long ▸ here) here
  refine ⟨picked, chosen, fun k x => ?_⟩
  rw [← count_iff step, counted, List.getElem?_eq_some_iff]
  constructor
  · rintro ⟨here, rfl⟩
    exact ⟨here, at_place here⟩
  · rintro ⟨here, found⟩
    exact ⟨here, Option.some.inj ((at_place here).symm.trans found)⟩

theorem pick_window {s : Slice} (one : s.step = 1) (xs : List α) :
    s.pick? xs =
      some ((xs.take (s.last xs.length).toNat).drop (s.first xs.length).toNat) := by
  obtain ⟨picked, chosen, each⟩ := pick_getElem? (s := s) (by omega) xs
  have first : 0 ≤ s.first xs.length := by
    rw [((s.bounds_ends xs.length).forwards (by omega)).1]
    exact (brought_between (by omega) s.start).1
  rw [chosen]
  refine congrArg some (List.ext_getElem? fun k => Option.ext fun x => ?_)
  have place : (s.first xs.length + k * s.step).toNat = (s.first xs.length).toNat + k := by
    rw [one]
    omega
  rw [each, place, Before, if_pos (by omega), one, List.getElem?_drop, List.getElem?_take]
  have before : s.first xs.length + k * 1 < s.last xs.length ↔
      (s.first xs.length).toNat + k < (s.last xs.length).toNat := by omega
  rw [before]
  split <;> simp [*]

theorem pick_reverse (xs : List α) : pick? ⟨none, none, -1⟩ xs = some xs.reverse := by
  obtain ⟨picked, chosen, each⟩ := pick_getElem? (s := ⟨none, none, -1⟩) (by decide) xs
  rw [chosen]
  refine congrArg some (List.ext_getElem? fun k => Option.ext fun x => ?_)
  have first : first ⟨none, none, -1⟩ xs.length = xs.length - 1 := rfl
  have last : last ⟨none, none, -1⟩ xs.length = -1 := rfl
  have before : Before ⟨none, none, -1⟩ (-1) (xs.length - 1 + k * -1) ↔ k < xs.length := by
    rw [Before, if_neg (by decide)]
    omega
  rw [each, first, last, before]
  by_cases inside : k < xs.length
  · have place : ((xs.length : Int) - 1 + k * -1).toNat = xs.length - 1 - k := by omega
    rw [and_iff_right inside, place, List.getElem?_reverse inside]
  · simp [inside]

theorem windows_whole (m : Int) (xs : List α) : ∃ front back,
    pick? ⟨none, some m, 1⟩ xs = some front ∧ pick? ⟨some m, none, 1⟩ xs = some back ∧
      front ++ back = xs := by
  refine ⟨_, _, pick_window rfl xs, pick_window rfl xs, ?_⟩
  have start : first ⟨none, some m, 1⟩ xs.length = 0 := rfl
  have stop : last ⟨some m, none, 1⟩ xs.length = xs.length := rfl
  have same : first ⟨some m, none, 1⟩ xs.length = last ⟨none, some m, 1⟩ xs.length := rfl
  rw [start, stop, same, Int.toNat_natCast, List.take_length]
  exact List.take_append_drop _ xs

end Slice

def Passes {α : Type} (test : α → Bool) (xs : List α) (a b : Int) (i : Nat) : Prop :=
  a ≤ i ∧ i < b ∧ ∃ x, xs[i]? = some x ∧ test x = true

section Find

variable {α : Type} {test : α → Bool} {xs : List α}

theorem findIdx?_isLeast {i : Nat} : xs.findIdx? test = some i ↔
    IsLeast {k | ∃ x, xs[k]? = some x ∧ test x = true} i := by
  rw [List.findIdx?_eq_some_iff_getElem]
  constructor
  · rintro ⟨here, pass, first⟩
    refine ⟨⟨_, List.getElem?_eq_getElem here, pass⟩, ?_⟩
    rintro k ⟨x, found, pass⟩
    obtain ⟨_, rfl⟩ := List.getElem?_eq_some_iff.mp found
    by_contra earlier
    exact first k (by omega) pass
  · rintro ⟨⟨x, found, pass⟩, least⟩
    obtain ⟨here, rfl⟩ := List.getElem?_eq_some_iff.mp found
    refine ⟨here, pass, fun k earlier pass => ?_⟩
    have later := least ⟨_, List.getElem?_eq_getElem (by omega), pass⟩
    omega

/-- For the places of the sequence it makes no difference whether bounds are brought into it. -/
theorem between_iff {start stop : Option Int} {length : Nat} {a b : Int}
    (bounds : Slice.Bounds ⟨start, stop, 1⟩ length a b) {i : Nat} (inside : i < length) :
    a ≤ i ∧ i < b ↔ (fromFront length (start.getD 0)).toNat ≤ i ∧
      i < (stop.map fun j => (fromFront length j).toNat).getD length := by
  obtain ⟨rfl, rfl⟩ := bounds.forwards one_pos
  have first : brought length 0 length 0 start ≤ i ↔
      (fromFront length (start.getD 0)).toNat ≤ i := by
    cases start with
    | none => simp [brought, fromFront]
    | some j =>
      rw [brought, Option.elim_some, Option.getD_some]
      omega
  have last : i < brought length 0 length length stop ↔
      i < (stop.map fun j => (fromFront length j).toNat).getD length := by
    cases stop with
    | none => exact Int.ofNat_lt
    | some j =>
      rw [brought, Option.elim_some, Option.map_some, Option.getD_some]
      omega
  rw [first, last]

theorem findIdx?_window {low high i : Nat} :
    (((xs.take high).drop low).findIdx? test).map (low + ·) = some i ↔
      IsLeast {i | (low ≤ i ∧ i < high) ∧ ∃ x, xs[i]? = some x ∧ test x = true} i := by
  have window (k : Nat) : (∃ x, ((xs.take high).drop low)[k]? = some x ∧ test x = true) ↔
      low + k < high ∧ ∃ x, xs[low + k]? = some x ∧ test x = true := by
    rw [List.getElem?_drop, List.getElem?_take]
    split <;> simp [*]
  simp only [Option.map_eq_some_iff, findIdx?_isLeast, window]
  constructor
  · rintro ⟨k, ⟨⟨before, found⟩, least⟩, rfl⟩
    refine ⟨⟨⟨Nat.le_add_right low k, before⟩, found⟩, ?_⟩
    rintro j ⟨⟨behind, before⟩, found⟩
    obtain ⟨k, rfl⟩ := Nat.exists_eq_add_of_le behind
    exact Nat.add_le_add_left (least ⟨before, found⟩) low
  · rintro ⟨⟨⟨behind, before⟩, found⟩, least⟩
    obtain ⟨k, rfl⟩ := Nat.exists_eq_add_of_le behind
    refine ⟨k, ⟨⟨before, found⟩, ?_⟩, rfl⟩
    rintro j ⟨before, found⟩
    exact Nat.le_of_add_le_add_left (least ⟨⟨Nat.le_add_right low j, before⟩, found⟩)

theorem passes_iff {start stop : Option Int} {a b : Int}
    (bounds : Slice.Bounds ⟨start, stop, 1⟩ xs.length a b) {i : Nat} : Passes test xs a b i ↔
      ((fromFront xs.length (start.getD 0)).toNat ≤ i ∧
        i < (stop.map fun j => (fromFront xs.length j).toNat).getD xs.length) ∧
      ∃ x, xs[i]? = some x ∧ test x = true := by
  rw [Passes, ← and_assoc]
  constructor
  · rintro ⟨between, x, found, pass⟩
    obtain ⟨inside, rfl⟩ := List.getElem?_eq_some_iff.mp found
    exact ⟨(between_iff bounds inside).mp between, _, found, pass⟩
  · rintro ⟨between, x, found, pass⟩
    obtain ⟨inside, rfl⟩ := List.getElem?_eq_some_iff.mp found
    exact ⟨(between_iff bounds inside).mpr between, _, found, pass⟩

variable {start stop : Option Int} {a b : Int}

theorem findPlace_eq_some (bounds : Slice.Bounds ⟨start, stop, 1⟩ xs.length a b) {i : Nat} :
    findPlace? test xs (start.getD 0) stop = some i ↔ IsLeast {i | Passes test xs a b i} i := by
  have window : {i | Passes test xs a b i} = _ := Set.ext fun i => passes_iff bounds
  exact window ▸ findIdx?_window

theorem findPlace_eq_none (bounds : Slice.Bounds ⟨start, stop, 1⟩ xs.length a b) :
    findPlace? test xs (start.getD 0) stop = none ↔ ∀ i, ¬ Passes test xs a b i := by
  constructor
  · intro nowhere i passes
    have least : IsLeast {i | Passes test xs a b i} _ :=
      ⟨Nat.sInf_mem ⟨i, passes⟩, fun _ => Nat.sInf_le⟩
    cases nowhere.symm.trans ((findPlace_eq_some bounds).mpr least)
  · intro nowhere
    refine Option.eq_none_iff_forall_ne_some.mpr fun i found => ?_
    exact nowhere i ((findPlace_eq_some bounds).mp found).1

end Find

end Columnar
