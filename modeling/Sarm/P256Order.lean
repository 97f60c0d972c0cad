import Mathlib.GroupTheory.Perm.Cycle.Type
import Mathlib.FieldTheory.Finite.Basic
import Sarm.P256Group

/-!
The group of P-256 has as many points as the base point has multiples: more would be twice as many,
and a point of order two would be a root of the cubic, which has none.
-/
namespace Sarm.P256
open Sarm.Words Sarm.Limbs Sarm.Jacobian WeierstrassCurve

/-! ### Residues of polynomials -/

/-- `c0 + c1·x + c2·x²`. -/
structure Quadratic where
  c0 : Nat
  c1 : Nat
  c2 : Nat

def Quadratic.at (q : Quadratic) (x : ZMod prime) : ZMod prime := q.c0 + q.c1 * x + q.c2 * x^2

/-- The product modulo `x³ - 3x + b`. -/
def Quadratic.times (q r : Quadratic) : Quadratic :=
  let d3 := q.c1 * r.c2 + q.c2 * r.c1
  let d4 := q.c2 * r.c2
  ⟨less (q.c0 * r.c0) (value p256_b * d3) % prime,
   less (q.c0 * r.c1 + q.c1 * r.c0 + 3 * d3) (value p256_b * d4) % prime,
   (q.c0 * r.c2 + q.c1 * r.c1 + q.c2 * r.c0 + 3 * d4) % prime⟩

def Quadratic.X : Quadratic := ⟨0,1,0⟩

/-- A squaring for each bit, and a multiplication by `x` if it is set. -/
def Quadratic.power (bits : List Bool) : Quadratic :=
  bits.foldl (fun q bit => if bit then (q.times q).times .X else q.times q) .X

def IsRoot (x : ZMod prime) : Prop := x^3 - (x + x + x) + value p256_b = 0

section
variable {x : ZMod prime} (root : IsRoot x)
include root

theorem times_at (q r : Quadratic) : (q.times r).at x = q.at x * r.at x := by
  have cubic : x^3 = 3 * x - value p256_b := by
    rw [IsRoot] at root
    linear_combination root
  simp only [Quadratic.times,Quadratic.at,ZMod.natCast_mod,cast_less,Nat.cast_add,Nat.cast_mul,Nat.cast_ofNat]
  linear_combination (-(q.c1 * r.c2 + q.c2 * r.c1 + q.c2 * r.c2 * x : ZMod prime)) * cubic

theorem power_at (bits : List Bool) :
    (Quadratic.power bits).at x = x^(bits.foldl (fun m bit => 2 * m + bit.toNat) 1) := by
  have first : Quadratic.X.at x = x := by simp [Quadratic.X,Quadratic.at]
  have steps : ∀ (bits : List Bool) (q : Quadratic) (m : Nat), q.at x = x^m →
      (bits.foldl (fun q bit => if bit then (q.times q).times .X else q.times q) q).at x =
        x^(bits.foldl (fun m bit => 2 * m + bit.toNat) m) := by
    intro bits
    induction bits with
    | nil => exact fun _ _ same => same
    | cons bit bits ih =>
      intro q m same
      refine ih _ _ ?_
      have squared : (q.times q).at x = x^(2 * m) := by
        rw [times_at root,same,← pow_add,two_mul]
      cases bit with
      | false => exact squared
      | true =>
        show ((q.times q).times .X).at x = x^(2 * m + 1)
        rw [times_at root,squared,first,pow_succ]
  exact steps bits _ _ (first.trans (pow_one x).symm)

end

/-! ### No point of order two -/

/-- The bits of the order of the field under the first. -/
def primeBits : List Bool := (List.range 255).reverse.map fun i => prime.testBit i

theorem primeBits_value : primeBits.foldl (fun m bit => 2 * m + bit.toNat) 1 = prime := by decide +kernel

/-- A root satisfies `x² = alpha·x + 2` as well, for what `x^prime` is. -/
def alpha : Nat := 0x66f22ed8bf9d51b9dc676cc652126815dd15d4e9e392d7a0d2bdc4f8141d28cc

/-- The only number that satisfies both. -/
def candidate : Nat := 0x1e61b8afa478f911d9e2e2b5d28a72d3c88fa851c202208054b0315e9698aec2

theorem power_prime : let q := Quadratic.power primeBits
    (q.c2 % prime ≠ 0 ∧ (alpha * q.c2 + q.c1) % prime = 1 % prime) ∧ (q.c0 + 2 * q.c2) % prime = 0 := by decide +kernel

theorem candidate_only : ((alpha^2 + (prime - 1)) % prime ≠ 0 ∧
    ((alpha^2 + (prime - 1)) * candidate + value p256_b + 2 * alpha) % prime = 0) ∧
      (candidate^3 + (prime - 3) * candidate + value p256_b) % prime ≠ 0 := by decide +kernel

theorem no_root (x : ZMod prime) : ¬IsRoot x := by
  intro root
  have power := power_at root primeBits
  rw [primeBits_value,ZMod.pow_card,Quadratic.at] at power
  obtain ⟨⟨some,linear⟩,constant⟩ := power_prime
  generalize Quadratic.power primeBits = q at power some linear constant
  have linear := (ZMod.natCast_eq_natCast_iff' _ _ _).mpr linear
  have constant := (cast_eq_zero _).mpr constant
  have some := mt (cast_eq_zero _).mp some
  obtain ⟨⟨some',only⟩,other⟩ := candidate_only
  have only := (cast_eq_zero _).mpr only
  have some' := mt (cast_eq_zero _).mp some'
  have other := mt (cast_eq_zero _).mp other
  have below : (1 : Nat) ≤ prime := by decide
  have below' : (3 : Nat) ≤ prime := by decide
  generalize alpha = a at *
  generalize candidate = g at *
  rw [IsRoot] at root
  generalize value p256_b = b at *
  push_cast [below,below'] at linear constant only some' other
  rw [ZMod.natCast_self] at only some' other
  have square : x^2 = a * x + 2 := by
    refine mul_left_cancel₀ some ?_
    linear_combination power - x * linear - constant
  have same : x = g := by
    refine mul_left_cancel₀ some' ?_
    linear_combination root - only - (x + a) * square
  refine other ?_
  rw [← same]
  linear_combination root

theorem doubled_ne_zero {P : CurvePoint} (finite : P ≠ 0) : P + P ≠ 0 := by
  intro torsion
  cases P with
  | zero => exact finite rfl
  | some x y on =>
    have opposite := eq_neg_of_add_eq_zero_left torsion
    rw [Affine.Point.neg_some,Affine.Point.some.injEq,negY_eq] at opposite
    have double : 2 * y = 0 := by linear_combination opposite.2
    have zero : y = 0 := (mul_eq_zero.mp double).resolve_left two_ne_zero'
    refine no_root x ?_
    have equation := equation_iff.mp on.1
    rw [zero] at equation
    rw [IsRoot]
    linear_combination -equation

/-! ### Counting -/

/-- A point is known by its first coordinate and which half its second one is in. -/
def key : CurvePoint → Option (ZMod prime × Bool)
  | .zero => none
  | .some x y _ => some (x,decide (y.val ≤ prime / 2))

theorem key_injective : Function.Injective key := by
  intro P Q same
  cases P with
  | zero =>
    cases Q with
    | zero => rfl
    | some => cases same
  | some x y on =>
    cases Q with
    | zero => cases same
    | some x' y' on' =>
      obtain ⟨rfl,halves⟩ := Prod.mk.inj (Option.some.inj same)
      rcases Affine.Y_eq_of_X_eq on.1 on'.1 rfl with rfl | opposite
      · rfl
      rw [negY_eq] at opposite
      by_cases zero : y' = 0
      · rw [zero,neg_zero] at opposite
        subst zero opposite
        rfl
      · exfalso
        rw [decide_eq_decide,opposite,ZMod.neg_val,if_neg zero] at halves
        have small := ZMod.val_lt y'
        have odd : prime = 2 * (prime / 2) + 1 := by decide
        generalize prime / 2 = h at *
        omega

instance : Finite CurvePoint := Finite.of_injective key key_injective

theorem card_le : Nat.card CurvePoint ≤ 2 * prime + 1 := by
  have bound := Nat.card_le_card_of_injective key key_injective
  have two : Nat.card Bool = 2 := by simp
  rw [Finite.card_option,Nat.card_prod,Nat.card_zmod,two,Nat.mul_comm] at bound
  exact bound

theorem card_eq : Nat.card CurvePoint = order := by
  obtain ⟨t,multiple⟩ : order ∣ Nat.card CurvePoint := base_order ▸ addOrderOf_dvd_natCard base
  have bound := card_le
  have positive : 0 < Nat.card CurvePoint := Nat.card_pos
  have few : 2 * prime + 1 < 3 * order := by decide
  have small : t < 3 := by
    by_contra large
    have := Nat.mul_le_mul_left order (Nat.le_of_not_lt large)
    omega
  obtain rfl | rfl | rfl : t = 0 ∨ t = 1 ∨ t = 2 := by omega
  · omega
  · rw [multiple,Nat.mul_one]
  · obtain ⟨P,two⟩ := exists_prime_addOrderOf_dvd_card' (G := CurvePoint) 2 ⟨order,by rw [multiple,Nat.mul_comm]⟩
    have torsion := addOrderOf_nsmul_eq_zero P
    rw [two,two_nsmul] at torsion
    refine absurd torsion (doubled_ne_zero ?_)
    rintro rfl
    rw [addOrderOf_zero] at two
    cases two

theorem order_nsmul (P : CurvePoint) : order • P = 0 := by
  rw [← card_eq]
  exact card_nsmul_eq_zero'

/-- No multiple of a finite point is infinite before that of the order. -/
theorem nsmul_eq_zero {P : CurvePoint} (finite : P ≠ 0) {n : Nat} : n • P = 0 ↔ order ∣ n := by
  rw [← addOrderOf_eq_prime (order_nsmul P) finite,addOrderOf_dvd_iff_nsmul_eq_zero]

end Sarm.P256
