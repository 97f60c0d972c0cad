import Mathlib.AlgebraicGeometry.EllipticCurve.Affine.Point
import Mathlib.Tactic.FieldSimp
import Mathlib.Tactic.LinearCombination

/-!
First coordinates alone on `y² = x³ + Ax² + x`: doubling, and addition of points whose difference is known.
-/
namespace Sarm.Montgomery
open WeierstrassCurve WeierstrassCurve.Affine

variable {F : Type} [Field F]

/-- The curve with this coefficient. -/
def curve (A : F) : WeierstrassCurve F := ⟨0,A,0,1,0⟩

/-- What the coefficient is taken from. -/
structure Regular (A : F) : Prop where
  two : (2 : F) ≠ 0
  square : A^2 ≠ 4

theorem Regular.four {A : F} (regular : Regular A) : (4 : F) ≠ 0 := by
  rw [show (4 : F) = 2^2 by norm_num]
  exact pow_ne_zero 2 regular.two

/-- The first coordinate as a quotient; the point at infinity has the denominator zero. -/
def Represents {A : F} (X Z : F) : (curve A).toAffine.Point → Prop
  | .zero => X ≠ 0 ∧ Z = 0
  | .some x _ _ => Z ≠ 0 ∧ X = x * Z

/-- The first coordinate, and zero for the point at infinity. -/
def coordinate {A : F} : (curve A).toAffine.Point → F
  | .zero => 0
  | .some x _ _ => x

section
variable {A x y : F}

theorem equation_iff : (curve A).toAffine.Equation x y ↔ y^2 = x^3 + A * x^2 + x := by
  rw [Affine.equation_iff]
  simp only [curve]
  constructor
  · intro h
    linear_combination h
  · intro h
    linear_combination h

theorem negY_eq : (curve A).toAffine.negY x y = -y := by
  simp [Affine.negY,curve]

theorem addX_eq (x' l : F) : (curve A).toAffine.addX x x' l = l^2 - A - x - x' := by
  simp [Affine.addX,curve]

theorem discriminant_ne_zero (regular : Regular A) : (curve A).Δ ≠ 0 := by
  have same : (curve A).Δ = 2^4 * (A^2 - 4) := by
    simp only [WeierstrassCurve.Δ,WeierstrassCurve.b₂,WeierstrassCurve.b₄,WeierstrassCurve.b₆,WeierstrassCurve.b₈,curve]
    ring
  rw [same]
  exact mul_ne_zero (pow_ne_zero 4 regular.two) (sub_ne_zero.mpr regular.square)

/-- Every solution is a point. -/
theorem nonsingular (regular : Regular A) (on : y^2 = x^3 + A * x^2 + x) : (curve A).toAffine.Nonsingular x y :=
  (equation_iff_nonsingular_of_Δ_ne_zero (discriminant_ne_zero regular)).mp (equation_iff.mpr on)

/-- Twice a point with `x² = 1` has the coordinate zero, and so is not at infinity. -/
theorem square_ne_one (regular : Regular A) (on : 0 = x^3 + A * x^2 + x) : x^2 ≠ 1 := by
  intro one
  refine regular.square ?_
  linear_combination (4 - (A - 2 * x) * (x + A)) * one - (A - 2 * x) * on

/-- The first coordinates of a sum and of a difference. -/
theorem coordinates_product {x' y' l l' : F} (on : y^2 = x^3 + A * x^2 + x) (on' : y'^2 = x'^3 + A * x'^2 + x')
    (apart : x ≠ x') (slope : l * (x - x') = y - y') (slope' : l' * (x' - x) = y' + y) :
    (x * x' - 1)^2 = (l^2 - A - x - x') * ((l'^2 - A - x' - x) * (x' - x)^2) := by
  have sum : (l^2 - A - x - x') * (x - x')^2 = (y - y')^2 - (A + x + x') * (x - x')^2 := by
    linear_combination (l * (x - x') + (y - y')) * slope
  have difference : (l'^2 - A - x' - x) * (x' - x)^2 = (y + y')^2 - (A + x + x') * (x - x')^2 := by
    linear_combination (l' * (x' - x) + (y' + y)) * slope'
  have square : (x - x')^2 ≠ 0 := pow_ne_zero 2 (sub_ne_zero.mpr apart)
  refine mul_right_cancel₀ square ?_
  rw [mul_right_comm,sum,difference]
  have both : (x * x' - 1)^2 * (x - x')^2 = ((x^3 + A * x^2 + x) - (x'^3 + A * x'^2 + x'))^2 -
      2 * ((A + x + x') * (x - x')^2) * ((x^3 + A * x^2 + x) + (x'^3 + A * x'^2 + x')) + ((A + x + x') * (x - x')^2)^2 := by
    ring
  rw [both,← on,← on']
  ring

/-- Division by zero gives zero here. -/
theorem Represents.quotient {X Z : F} {P : (curve A).toAffine.Point} (represents : Represents X Z P) :
    X / Z = coordinate P := by
  cases P with
  | zero =>
    rw [represents.2,div_zero]
    rfl
  | some x y on =>
    obtain ⟨finite,rfl⟩ := represents
    exact mul_div_cancel_right₀ x finite

theorem coordinate_neg (P : (curve A).toAffine.Point) : coordinate (-P) = coordinate P := by
  cases P with
  | zero => rfl
  | some x y on => rfl

end

variable [DecidableEq F] {A : F}

/-- The slope of the tangent. -/
theorem slope_tangent {x y : F} (two : (2 : F) ≠ 0) (finite : y ≠ 0) :
    (curve A).toAffine.slope x x y y * (2 * y) = 3 * x^2 + 2 * A * x + 1 := by
  have apart : y ≠ (curve A).toAffine.negY x y := by
    rw [negY_eq]
    intro same
    have double : 2 * y = 0 := by linear_combination same
    exact (mul_ne_zero two finite) double
  rw [Affine.slope_of_Y_ne rfl apart,negY_eq]
  simp only [curve]
  rw [sub_neg_eq_add,← two_mul,div_mul_cancel₀ _ (mul_ne_zero two finite)]
  ring

/-- The slope of a chord. -/
theorem slope_chord {x x' y y' : F} (apart : x ≠ x') : (curve A).toAffine.slope x x' y y' * (x - x') = y - y' := by
  rw [Affine.slope_of_X_ne apart,div_mul_cancel₀ _ (sub_ne_zero.mpr apart)]

/-- `2P`, with a quarter of `A - 2`. -/
theorem Represents.double {a X Z : F} (regular : Regular A) (quarter : 4 * a = A - 2) {P : (curve A).toAffine.Point}
    (represents : Represents X Z P) :
    let AA := (X + Z)^2
    let BB := (X - Z)^2
    let E := AA - BB
    Represents (AA * BB) (E * (AA + a * E)) (P + P) := by
  intro AA BB E
  cases P with
  | zero =>
    obtain ⟨nonzero,infinite⟩ := represents
    rw [← Affine.Point.zero_def,add_zero]
    refine ⟨?_,?_⟩
    · simpa [AA,BB,infinite] using nonzero
    · simp [E,AA,BB,infinite]
  | some x y on =>
    obtain ⟨finite,rfl⟩ := represents
    have equation := equation_iff.mp on.1
    have first : AA * BB = Z^4 * (x^2 - 1)^2 := by ring
    have second : E * (AA + a * E) = 4 * Z^4 * y^2 := by
      linear_combination 4 * x^2 * Z^4 * quarter - 4 * Z^4 * equation
    rw [first,second]
    by_cases torsion : y = 0
    · rw [Affine.Point.add_self_of_Y_eq (by rw [negY_eq,torsion,neg_zero])]
      rw [torsion,zero_pow two_ne_zero] at equation
      have apart := sub_ne_zero.mpr (square_ne_one regular equation)
      refine ⟨mul_ne_zero (pow_ne_zero 4 finite) (pow_ne_zero 2 apart),?_⟩
      rw [torsion,zero_pow two_ne_zero,mul_zero]
    · have apart : y ≠ (curve A).toAffine.negY x y := by
        rw [negY_eq]
        intro same
        have double : 2 * y = 0 := by linear_combination same
        exact (mul_ne_zero regular.two torsion) double
      have slope := slope_tangent (A := A) (x := x) regular.two torsion
      rw [Affine.Point.add_self_of_Y_ne apart]
      simp only [Represents,addX_eq]
      generalize (curve A).toAffine.slope x x y y = l at slope
      refine ⟨mul_ne_zero (mul_ne_zero regular.four (pow_ne_zero 4 finite)) (pow_ne_zero 2 torsion),?_⟩
      linear_combination (4 * Z^4 * (A + 2 * x)) * equation - Z^4 * (l * (2 * y) + (3 * x^2 + 2 * A * x + 1)) * slope

/-- `Q + R`, where `R - Q` is known and is not the point with `x = 0`. -/
theorem Represents.add {X Z X' Z' u v : F} (regular : Regular A) {Q R : (curve A).toAffine.Point}
    (known : (curve A).toAffine.Nonsingular u v) (nonzero : u ≠ 0) (difference : R - Q = .some u v known)
    (represents : Represents X Z Q) (represents' : Represents X' Z' R) :
    let DA := (X' - Z') * (X + Z)
    let CB := (X' + Z') * (X - Z)
    Represents ((DA + CB)^2) (u * (DA - CB)^2) (Q + R) := by
  intro DA CB
  have sum : DA + CB = 2 * (X * X' - Z * Z') := by ring
  have less : DA - CB = 2 * (X' * Z - X * Z') := by ring
  rw [sum,less]
  cases Q with
  | zero =>
    obtain ⟨start,rfl⟩ := represents
    rw [← Affine.Point.zero_def,sub_zero] at difference
    subst difference
    obtain ⟨finite,rfl⟩ := represents'
    rw [← Affine.Point.zero_def,zero_add]
    refine ⟨?_,by ring⟩
    simp [regular.two,nonzero,start,finite]
  | some x y on =>
  cases R with
  | zero =>
    obtain ⟨finite,rfl⟩ := represents
    obtain ⟨start,rfl⟩ := represents'
    rw [← Affine.Point.zero_def,zero_sub,Affine.Point.neg_some] at difference
    obtain ⟨rfl,_⟩ := Affine.Point.some.inj difference
    rw [← Affine.Point.zero_def,add_zero]
    refine ⟨?_,by ring⟩
    simp [regular.two,nonzero,start,finite]
  | some x' y' on' =>
  by_cases same : x = x'
  · subst same
    rcases Affine.Y_eq_of_X_eq on.1 on'.1 rfl with level | opposite
    · subst level
      rw [sub_self] at difference
      cases difference
    · have double : (Affine.Point.some x y on : (curve A).toAffine.Point) + .some x y on = -.some u v known := by
        have negated : (Affine.Point.some x y' on' : (curve A).toAffine.Point) = -.some x y on := by
          rw [Affine.Point.neg_some,Affine.Point.some.injEq]
          exact ⟨rfl,by rw [opposite,Affine.negY_negY]⟩
        rw [← difference,negated]
        abel
      rw [Affine.Point.add_of_Y_eq rfl opposite]
      obtain ⟨finite,rfl⟩ := represents
      obtain ⟨finite',rfl⟩ := represents'
      have apart : x^2 - 1 ≠ 0 := by
        intro one
        have point : Represents x 1 (Affine.Point.some x y on : (curve A).toAffine.Point) := ⟨one_ne_zero,(mul_one x).symm⟩
        have twice := point.double regular (mul_div_cancel₀ (A - 2) regular.four)
        rw [double,Affine.Point.neg_some] at twice
        obtain ⟨nonzero',zero⟩ := twice
        refine mul_ne_zero nonzero nonzero' ?_
        rw [← zero]
        linear_combination (x^2 - 1) * one
      refine ⟨?_,by ring⟩
      have square : 2 * (x * Z * (x * Z') - Z * Z') = 2 * (Z * Z') * (x^2 - 1) := by ring
      rw [square]
      exact pow_ne_zero 2 (mul_ne_zero (mul_ne_zero regular.two (mul_ne_zero finite finite')) apart)
  · obtain ⟨finite,rfl⟩ := represents
    obtain ⟨finite',rfl⟩ := represents'
    rw [sub_eq_add_neg,Affine.Point.neg_some,Affine.Point.add_of_X_ne (Ne.symm same),Affine.Point.some.injEq] at difference
    obtain ⟨rfl,-⟩ := difference
    rw [Affine.Point.add_of_X_ne same]
    have slope : (curve A).toAffine.slope x x' y y' * (x - x') = y - y' := slope_chord same
    have slope' : (curve A).toAffine.slope x' x y' (-y) * (x' - x) = y' + y :=
      (slope_chord (Ne.symm same)).trans (sub_neg_eq_add y' y)
    rw [negY_eq] at nonzero ⊢
    simp only [Represents,addX_eq] at nonzero ⊢
    generalize (curve A).toAffine.slope x x' y y' = l at slope
    generalize (curve A).toAffine.slope x' x y' (-y) = l' at slope' nonzero
    have product := coordinates_product (equation_iff.mp on.1) (equation_iff.mp on'.1) same slope slope'
    have scale : 2 * (x' * Z' * Z - x * Z * Z') = 2 * (Z * Z') * (x' - x) := by ring
    rw [scale]
    refine ⟨mul_ne_zero nonzero (pow_ne_zero 2 (mul_ne_zero (mul_ne_zero regular.two (mul_ne_zero finite finite'))
      (sub_ne_zero.mpr (Ne.symm same)))),?_⟩
    linear_combination 4 * (Z * Z')^2 * product

/-! ### The coordinate -/

/-- The point with `x = 0` is its own negative. -/
theorem double_origin {y : F} (on : (curve A).toAffine.Nonsingular 0 y) :
    (Affine.Point.some 0 y on : (curve A).toAffine.Point) + .some 0 y on = 0 := by
  have equation := equation_iff.mp on.1
  have level : y = 0 := by
    rw [← sq_eq_zero_iff,equation]
    ring
  subst level
  exact Affine.Point.add_self_of_Y_eq (by rw [negY_eq,neg_zero])

theorem coordinate_origin {x y : F} (on : (curve A).toAffine.Nonsingular x y) (zero : x = 0) (n : Nat) :
    coordinate (n • (Affine.Point.some x y on : (curve A).toAffine.Point)) = 0 := by
  subst zero
  have parts := Nat.div_add_mod n 2
  rw [← parts,add_nsmul,mul_comm,mul_nsmul,two_nsmul,← nsmul_add,double_origin,smul_zero,zero_add]
  rcases Nat.mod_two_eq_zero_or_one n with even | odd
  · rw [even,zero_nsmul]
    rfl
  · rw [odd,one_nsmul]
    rfl

/-- The coordinate of an even multiple depends on that of the point alone, be it at infinity or not. -/
theorem coordinate_again {x y : F} {P : (curve A).toAffine.Point} (on : (curve A).toAffine.Nonsingular x y)
    (same : x = coordinate P) {n : Nat} (even : Even n) :
    coordinate (n • (Affine.Point.some x y on : (curve A).toAffine.Point)) = coordinate (n • P) := by
  obtain ⟨h,rfl⟩ := even
  cases P with
  | zero =>
    obtain rfl : x = 0 := same
    rw [add_nsmul,← nsmul_add,double_origin,← Affine.Point.zero_def,smul_zero,smul_zero]
  | some x' y' on' =>
    obtain rfl : x = x' := same
    have level : (Affine.Point.some x y on : (curve A).toAffine.Point) = .some x y' on' ∨ _ := Affine.Point.X_eq_iff.mp rfl
    rcases level with same | opposite
    · rw [same]
    · rw [opposite,smul_neg,coordinate_neg]

end Sarm.Montgomery
