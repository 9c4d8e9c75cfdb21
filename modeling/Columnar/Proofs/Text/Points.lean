import Columnar.Text
import Mathlib.Data.List.Nodup

namespace Columnar

namespace Point

@[simp] theorem ofCode_code (p : Point) : ofCode p.code = p := by
  cases p with
  | char c =>
    have valid : c.toNat < 0xD800 ∨ 0xDFFF < c.toNat ∧ c.toNat < 0x110000 := c.valid
    rw [code, ofCode, dif_neg (by omega), Char.ofNat_toNat]
  | half h =>
    obtain ⟨n, small⟩ := h
    rw [code, ofCode, dif_pos (by simp only [Half.code]; omega)]
    simp [Half.code]

@[simp] theorem ofCode_char (c : Char) : ofCode c.toNat = .char c := ofCode_code (.char c)

theorem char_injective : Function.Injective Point.char := fun _ _ => Point.char.inj

end Point

namespace Text

@[simp] theorem points_whole (s : String) : (whole s).points = s.toList.map .char := rfl

theorem points_ofPointsBehind (front : List Char) (ps : List Point) :
    (ofPointsBehind front ps).points = front.reverse.map .char ++ ps := by
  induction ps generalizing front with
  | nil => simp [ofPointsBehind]
  | cons p ps ih => cases p <;> simp [ofPointsBehind, points, ih]

@[simp] theorem points_ofPoints (ps : List Point) : (ofPoints ps).points = ps :=
  points_ofPointsBehind [] ps

theorem ofPointsBehind_chars (front cs : List Char) (ps : List Point) :
    ofPointsBehind front (cs.map .char ++ ps) = ofPointsBehind (cs.reverse ++ front) ps := by
  induction cs generalizing front with
  | nil => rfl
  | cons c cs ih => simp [ofPointsBehind, ih]

@[simp] theorem ofPoints_points (t : Text) : ofPoints t.points = t := by
  induction t with
  | whole s =>
    have read := ofPointsBehind_chars [] s.toList []
    rw [List.append_nil] at read
    simp [ofPoints, read, ofPointsBehind]
  | broken s h t ih =>
    have rest : ofPointsBehind [] t.points = t := ih
    rw [ofPoints, points, ofPointsBehind_chars]
    simp [ofPointsBehind, rest]

theorem points_injective : Function.Injective points := fun t u same => by
  rw [← ofPoints_points t, same, ofPoints_points]

@[simp] theorem ofPoints_chars (cs : List Char) : ofPoints (cs.map .char) = whole (String.ofList cs) :=
  points_injective (by simp)

theorem points_eq_chars {t : Text} {cs : List Char} :
    t.points = cs.map .char ↔ t = whole (String.ofList cs) := by
  rw [← ofPoints_chars]
  constructor
  · intro same
    rw [← same, ofPoints_points]
  · rintro rfl
    exact points_ofPoints _

/-! Texts one behind the other -/

@[simp] theorem points_append (t u : Text) : (t ++ u).points = t.points ++ u.points := by
  change (t.append u).points = _
  induction t with
  | whole s => cases u <;> simp [append, behind, points]
  | broken s h t ih => simp [append, points, ih]

theorem append_assoc (t u v : Text) : t ++ u ++ v = t ++ (u ++ v) := points_injective (by simp)

@[simp] theorem points_intercalate (separator : String) (ts : List Text) :
    (intercalate separator ts).points =
      List.intercalate (separator.toList.map .char) (ts.map points) := by
  rw [intercalate, points_ofPoints]

theorem intercalate_cons (t : Text) (ts : List Text) :
    intercalate "" (t :: ts) = t ++ intercalate "" ts := by
  apply points_injective
  cases ts <;> simp [List.intercalate_cons_cons]

end Text
end Columnar
