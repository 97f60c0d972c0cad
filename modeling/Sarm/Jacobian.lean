import Mathlib.AlgebraicGeometry.EllipticCurve.Affine.Point
import Mathlib.Tactic.FieldSimp
import Mathlib.Tactic.LinearCombination

/-!
Jacobian coordinates on `y² = x³ - 3x + b`: doubling and addition, in the group of the curve.
-/
namespace Sarm.Jacobian
open WeierstrassCurve WeierstrassCurve.Affine

variable {F : Type} [Field F]

/-- The curve with this constant. -/
def curve (b : F) : WeierstrassCurve F := ⟨0,0,0,-3,b⟩

/-- The point at infinity has the third coordinate zero, whatever the others are. -/
def Represents {b : F} (X Y Z : F) : (curve b).toAffine.Point → Prop
  | .zero => Z = 0
  | .some x y _ => Z ≠ 0 ∧ X = x * Z^2 ∧ Y = y * Z^3

theorem equation_iff {b x y : F} : (curve b).toAffine.Equation x y ↔ y^2 = x^3 - 3 * x + b := by
  rw [Affine.equation_iff]
  simp only [curve]
  constructor
  · intro h
    linear_combination h
  · intro h
    linear_combination h

theorem negY_eq {b : F} (x y : F) : (curve b).toAffine.negY x y = -y := by
  simp [Affine.negY,curve]

section
variable {b X Y Z : F} {P : (curve b).toAffine.Point}

theorem Represents.infinite (represents : Represents X Y Z P) : Z = 0 ↔ P = 0 := by
  cases P with
  | zero => exact ⟨fun _ => rfl,fun _ => represents⟩
  | some x y on => exact ⟨fun zero => absurd zero represents.1,fun zero => absurd zero (Affine.Point.some_ne_zero on)⟩

end

theorem addX_eq {b : F} (x x' l : F) : (curve b).toAffine.addX x x' l = l^2 - x - x' := by
  simp [Affine.addX,curve]

theorem addY_eq {b : F} (x x' y l : F) : (curve b).toAffine.addY x x' y l = -(l * (l^2 - x - x' - x) + y) := by
  rw [Affine.addY,negY_eq,Affine.negAddY,addX_eq]

variable [DecidableEq F]

/-- The slope of the tangent. -/
theorem slope_tangent {b x y : F} (two : (2 : F) ≠ 0) (finite : y ≠ 0) :
    (curve b).toAffine.slope x x y y * (2 * y) = 3 * x^2 - 3 := by
  have apart : y ≠ (curve b).toAffine.negY x y := by
    rw [negY_eq]
    intro same
    have double : 2 * y = 0 := by linear_combination same
    exact (mul_ne_zero two finite) double
  rw [Affine.slope_of_Y_ne rfl apart,negY_eq]
  simp only [curve]
  rw [sub_neg_eq_add,← two_mul,div_mul_cancel₀ _ (mul_ne_zero two finite)]
  ring

/-- The slope of a chord. -/
theorem slope_chord {b x x' y y' : F} (apart : x ≠ x') : (curve b).toAffine.slope x x' y y' * (x' - x) = y' - y := by
  rw [Affine.slope_of_X_ne apart]
  have nonzero : x - x' ≠ 0 := sub_ne_zero.mpr apart
  field_simp
  ring

/-- `2P`, in the code's order: `delta = Z²`, `gamma = Y²`, `beta = X·gamma`, `alpha = 3(X-delta)(X+delta)`. -/
theorem Represents.double {b X Y Z : F} (two : (2 : F) ≠ 0) {P : (curve b).toAffine.Point}
    (represents : Represents X Y Z P) :
    let delta := Z^2
    let gamma := Y^2
    let beta := X * gamma
    let alpha := 3 * ((X - delta) * (X + delta))
    let X' := alpha^2 - 8 * beta
    Represents X' (alpha * (4 * beta - X') - 8 * gamma^2) ((Y + Z)^2 - gamma - delta) (P + P) := by
  intro delta gamma beta alpha X'
  cases P with
  | zero =>
    rw [← Affine.Point.zero_def,add_zero]
    have infinite : Z = 0 := represents
    simp [Represents,gamma,delta,infinite]
  | some x y on =>
    obtain ⟨finite,rfl,rfl⟩ := represents
    by_cases torsion : y = 0
    · rw [Affine.Point.add_self_of_Y_eq (by rw [negY_eq,torsion,neg_zero])]
      simp [Represents,gamma,delta,torsion]
    · have apart : y ≠ (curve b).toAffine.negY x y := by
        rw [negY_eq]
        intro same
        have double : 2 * y = 0 := by linear_combination same
        exact (mul_ne_zero two torsion) double
      have slope := slope_tangent (b := b) (x := x) two torsion
      rw [Affine.Point.add_self_of_Y_ne apart]
      simp only [Represents,addX_eq,addY_eq]
      generalize (curve b).toAffine.slope x x y y = l at slope
      have third : (y * Z^3 + Z)^2 - gamma - delta = 2 * y * Z^4 := by ring
      have first : X' = (l^2 - x - x) * (2 * y * Z^4)^2 := by
        linear_combination (-Z^8) * (l * (2 * y) + (3 * x^2 - 3)) * slope
      rw [third]
      refine ⟨mul_ne_zero (mul_ne_zero two torsion) (pow_ne_zero 4 finite),first,?_⟩
      rw [first]
      linear_combination (-Z^4 * (4 * (x * Z^2 * (y * Z^3)^2) - (l^2 - x - x) * (2 * y * Z^4)^2)) * slope

/-- `P + Q` for points with different first coordinates, neither at infinity. -/
theorem Represents.add {b X Y Z X' Y' Z' : F} {P Q : (curve b).toAffine.Point} (represents : Represents X Y Z P)
    (represents' : Represents X' Y' Z' Q) (finite : Z ≠ 0) (finite' : Z' ≠ 0) :
    let U := X * Z'^2
    let U' := X' * Z^2
    let S := Y * Z'^3
    let S' := Y' * Z^3
    let H := U' - U
    let r := S' - S
    let V := U * H^2
    let X'' := r^2 - H^3 - 2 * V
    U ≠ U' → Represents X'' (r * (V - X'') - S * H^3) (H * Z * Z') (P + Q) := by
  intro U U' S S' H r V X'' distinct
  cases P with
  | zero => exact absurd represents finite
  | some x y on =>
  cases Q with
  | zero => exact absurd represents' finite'
  | some x' y' on' =>
  obtain ⟨_,rfl,rfl⟩ := represents
  obtain ⟨_,rfl,rfl⟩ := represents'
  have apart : x ≠ x' := by
    rintro rfl
    exact distinct (show x * Z^2 * Z'^2 = x * Z'^2 * Z^2 by ring)
  have slope := @slope_chord _ _ _ b x x' y y' apart
  rw [Affine.Point.add_of_X_ne apart]
  simp only [Represents,addX_eq,addY_eq]
  generalize (curve b).toAffine.slope x x' y y' = l at slope
  have third : H * Z * Z' = (x' - x) * (Z * Z')^3 := by ring
  have first : X'' = (l^2 - x - x') * ((x' - x) * (Z * Z')^3)^2 := by
    linear_combination (-(Z * Z')^6 * (l * (x' - x) + (y' - y))) * slope
  rw [third]
  refine ⟨mul_ne_zero (sub_ne_zero.mpr apart.symm) (pow_ne_zero 3 (mul_ne_zero finite finite')),first,?_⟩
  rw [first]
  linear_combination
    (-(Z * Z')^3 * (x * (Z * Z')^2 * ((x' - x) * (Z * Z')^2)^2 - (l^2 - x - x') * ((x' - x) * (Z * Z')^3)^2)) *
    slope

section
variable {b X Y Z X' Y' Z' : F} {P Q : (curve b).toAffine.Point}

/-- The coordinates compared are those of the points. -/
theorem Represents.same_iff (represents : Represents X Y Z P) (represents' : Represents X' Y' Z' Q) (finite : Z ≠ 0)
    (finite' : Z' ≠ 0) :
    (X * Z'^2 = X' * Z^2 ∧ Y * Z'^3 = Y' * Z^3 → P = Q) ∧ (X * Z'^2 = X' * Z^2 ∧ Y * Z'^3 ≠ Y' * Z^3 → P + Q = 0) := by
  cases P with
  | zero => exact absurd represents finite
  | some x y on =>
  cases Q with
  | zero => exact absurd represents' finite'
  | some x' y' on' =>
  obtain ⟨_,rfl,rfl⟩ := represents
  obtain ⟨_,rfl,rfl⟩ := represents'
  have scale : Z * Z' ≠ 0 := mul_ne_zero finite finite'
  have first : x * Z^2 * Z'^2 = x' * Z'^2 * Z^2 → x = x' := fun same =>
    mul_right_cancel₀ (pow_ne_zero 2 scale) (by linear_combination same)
  have second : y * Z^3 * Z'^3 = y' * Z'^3 * Z^3 ↔ y = y' :=
    ⟨fun same => mul_right_cancel₀ (pow_ne_zero 3 scale) (by linear_combination same),fun same => by rw [same]; ring⟩
  constructor
  · rintro ⟨same,same'⟩
    obtain rfl := first same
    obtain rfl := second.mp same'
    rfl
  · rintro ⟨same,different⟩
    obtain rfl := first same
    have opposite := Affine.Y_eq_of_X_eq on.1 on'.1 rfl
    exact Affine.Point.add_of_Y_eq rfl (opposite.resolve_left (mt second.mpr different))

/-- Coordinates represent one point. -/
theorem Represents.unique (represents : Represents X Y Z P) (represents' : Represents X Y Z Q) : P = Q := by
  by_cases infinite : Z = 0
  · rw [represents.infinite.mp infinite,represents'.infinite.mp infinite]
  · exact (represents.same_iff represents' infinite infinite).1 ⟨rfl,rfl⟩

end

end Sarm.Jacobian
