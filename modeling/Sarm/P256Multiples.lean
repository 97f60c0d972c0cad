import Sarm.P256Group
import Sarm.P256Scalar

/-!
Multiples of points of P-256: the ladder for any point, the comb for the base point, and the way
back to affine coordinates.
-/
namespace Sarm.P256
open Sarm.Words Sarm.Limbs Sarm.Jacobian

/-! ### The code -/

def one : List Limb := [1,0,0,0]

def p256_p_minus_2 : List Limb := [0xfffffffffffffffd,0x00000000ffffffff,0x0000000000000000,0xffffffff00000001]

/-- Bit `i` of a number in limbs. -/
def bitAt (k : List Limb) (i : Nat) : Limb := (k.getD (i / 64) 0 >>> (i % 64)) &&& 1

/-- `.Lfe_inv_loop`, for the bits under `i`. -/
def invLoop (a : List Limb) : Nat → List Limb → List Limb
  | 0,result => result
  | i+1,result =>
    let result := feSqr result
    invLoop a i (if bitAt p256_p_minus_2 i = 0 then result else feMul result a)

def feInv (a : List Limb) : List Limb := invLoop a 256 one

structure AffinePoint where
  x : List Limb
  y : List Limb

/-- `p256_point_to_affine`. -/
def toAffine (p : JacobianPoint) : AffinePoint :=
  let zi := feInv p.Z
  let zi2 := feSqr zi
  let zi3 := feMul zi2 zi
  ⟨feMul p.X zi2,feMul p.Y zi3⟩

/-- `.Lpmul_loop`, for the bits under `i`. -/
def mulLoop (k : List Limb) (P : JacobianPoint) : Nat → JacobianPoint → JacobianPoint
  | 0,R => R
  | i+1,R =>
    let R := pointDbl R
    let cand := pointAdd R P
    mulLoop k P i (pointCmov R cand (bitAt k i != 0))

def p256_point_mul (k inX inY : List Limb) : AffinePoint :=
  toAffine (mulLoop k ⟨inX,inY,one⟩ 256 ⟨zeros,zeros,zeros⟩)

/-- `p256_point_add_affine`. -/
def pointAddAffine (P1 : JacobianPoint) (aff : AffinePoint) : JacobianPoint :=
  let Z1Z1 := feSqr P1.Z
  let U2 := feMul aff.x Z1Z1
  let Z1cubed := feMul P1.Z Z1Z1
  let S2 := feMul aff.y Z1cubed
  let H := feSub U2 P1.X
  let r := feSub S2 P1.Y
  let HH := feSqr H
  let HHH := feMul H HH
  let V := feMul P1.X HH
  let X3 := feSub (feSub (feSqr r) HHH) (feAdd V V)
  let Y3 := feSub (feMul r (feSub V X3)) (feMul P1.Y HHH)
  ⟨X3,Y3,feMul H P1.Z⟩

/-- Digit `i` of 4 bits. -/
def nibble (k : List Limb) (i : Nat) : Limb := (k.getD (i / 16) 0 >>> (4 * (i % 16))) &&& 0xF

def orMasked (a x : List Limb) (mask : Limb) : List Limb := List.zipWith (fun a x => a ||| (x &&& mask)) a x

/-- `.Lmb_sel`: all entries are read, and those of another digit are masked out. -/
def select (block : Nat → AffinePoint) (d : Limb) : AffinePoint :=
  (List.range' 1 15).foldl (fun A j =>
    let mask : Limb := if BitVec.ofNat 64 j = d then -1 else 0
    ⟨orMasked A.x (block j).x mask,orMasked A.y (block j).y mask⟩) ⟨zeros,zeros⟩

/-- A turn of `.Lmb_loop`; entry `[i][j]` of the table is `comb i j`. -/
def combStep (comb : Nat → Nat → AffinePoint) (k : List Limb) (R : JacobianPoint) (i : Nat) : JacobianPoint :=
  let d := nibble k i
  let A := select (comb i) d
  let cand := pointAddAffine R A
  let cand := pointCmov cand ⟨A.x,A.y,one⟩ (isZero R.Z)
  pointCmov R cand (d != 0)

/-- The accumulator before turn `i`. -/
def combRun (comb : Nat → Nat → AffinePoint) (k : List Limb) : Nat → JacobianPoint
  | 0 => ⟨zeros,zeros,zeros⟩
  | i+1 => combStep comb k (combRun comb k i) i

def p256_point_mul_base (comb : Nat → Nat → AffinePoint) (k : List Limb) : AffinePoint := toAffine (combRun comb k 64)

/-! ### Digits -/

theorem bitAt_value (k : List Limb) (i : Nat) : (bitAt k i).toNat = value k / 2^i % 2 := by
  have digit := value_digit (by decide) k (i / 64) (i % 64) 1 (by omega)
  rw [Nat.div_add_mod,pow_one] at digit
  rw [digit,bitAt,BitVec.toNat_and,BitVec.toNat_ushiftRight,Nat.shiftRight_eq_div_pow]
  exact Nat.and_one_is_mod _

theorem nibble_value (k : List Limb) (i : Nat) : (nibble k i).toNat = value k / 16^i % 16 := by
  have digit := value_digit (by decide) k (i / 16) (4 * (i % 16)) 4 (by omega)
  rw [show 64 * (i / 16) + 4 * (i % 16) = 4 * i by omega,pow_mul] at digit
  rw [show (16 : Nat) = 2^4 from rfl,digit,nibble,BitVec.toNat_and,BitVec.toNat_ushiftRight,Nat.shiftRight_eq_div_pow]
  exact Nat.and_two_pow_sub_one_eq_mod _ 4

/-- The number above a bit, from the bit on. -/
theorem above_bit (n i : Nat) : n / 2^i = 2 * (n / 2^(i+1)) + n / 2^i % 2 := by
  rw [pow_succ,← Nat.div_div_eq_div_mul]
  omega

/-! ### Inversion -/

theorem one_holds : Holds one 1 := ⟨⟨rfl,by decide⟩,by rw [show value one = 1 from rfl,Nat.cast_one]⟩

theorem invLoop_holds {a : List Limb} {x : ZMod prime} (holds : Holds a x) : ∀ (i : Nat) (result : List Limb),
    Holds result (x^(value p256_p_minus_2 / 2^i)) → Holds (invLoop a i result) (x^value p256_p_minus_2) := by
  intro i
  induction i with
  | zero =>
    intro result before
    rwa [pow_zero,Nat.div_one] at before
  | succ i ih =>
    intro result before
    rw [invLoop]
    refine ih _ ?_
    have digit := bitAt_value p256_p_minus_2 i
    have small := Nat.mod_lt (value p256_p_minus_2 / 2^i) (show 0 < 2 by decide)
    have squared := before.sqr
    rw [← pow_mul,mul_comm] at squared
    rw [above_bit]
    split
    · next zero =>
      rw [zero] at digit
      rw [← digit]
      exact squared
    · next set =>
      have unit : value p256_p_minus_2 / 2^i % 2 = 1 := by
        have : (bitAt p256_p_minus_2 i).toNat ≠ 0 := fun none => set (BitVec.eq_of_toNat_eq none)
        omega
      rw [unit,pow_succ]
      exact squared.mul holds

/-- Fermat's theorem; zero is its own inverse here. -/
theorem feInv_holds {a : List Limb} {x : ZMod prime} (holds : Holds a x) : Holds (feInv a) x⁻¹ := by
  have run := invLoop_holds holds 256 one (by
    rw [Nat.div_eq_of_lt (show value p256_p_minus_2 < 2^256 by decide),pow_zero]
    exact one_holds)
  refine run.of_eq ?_
  have exponent : value p256_p_minus_2 + 1 = prime - 1 := by decide
  by_cases zero : x = 0
  · rw [zero,inv_zero,zero_pow (by decide)]
  · refine eq_inv_of_mul_eq_one_left ?_
    rw [← pow_succ,exponent]
    exact ZMod.pow_card_sub_one_eq_one zero

/-! ### Affine coordinates -/

/-- The coordinates of a point, none of which is `(0,0)`. -/
def coordinates : CurvePoint → ZMod prime × ZMod prime
  | .zero => (0,0)
  | .some x y _ => (x,y)

/-- Affine coordinates of a point in canonical form, zeros for the point at infinity. -/
structure Located (a : AffinePoint) (P : CurvePoint) : Prop where
  x : Holds a.x (coordinates P).1
  y : Holds a.y (coordinates P).2

theorem Holds.unique {a b : List Limb} {x : ZMod prime} (first : Holds a x) (second : Holds b x) : a = b := by
  have same := (first.eq_iff second).mpr rfl
  rwa [feEq,beq_iff_eq] at same

theorem Located.unique {a b : AffinePoint} {P : CurvePoint} (first : Located a P) (second : Located b P) : a = b := by
  obtain ⟨x,y⟩ := a
  obtain ⟨x',y'⟩ := b
  rw [AffinePoint.mk.injEq]
  exact ⟨first.x.unique second.x,first.y.unique second.y⟩

theorem coordinates_zero {P : CurvePoint} : coordinates P = (0,0) ↔ P = 0 := by
  cases P with
  | zero => exact ⟨fun _ => rfl,fun _ => rfl⟩
  | some x y on =>
    refine ⟨fun same => ?_,fun zero => absurd zero (WeierstrassCurve.Affine.Point.some_ne_zero on)⟩
    obtain ⟨rfl,rfl⟩ := Prod.mk.inj same
    have equation := equation_iff.mp on.1
    have none : (value p256_b : ZMod prime) = 0 := by linear_combination -equation
    exact absurd ((cast_eq_zero _).mp none) (by decide)

theorem Located.zero_iff {a : AffinePoint} {P : CurvePoint} (located : Located a P) : a = ⟨zeros,zeros⟩ ↔ P = 0 := by
  rw [← coordinates_zero]
  constructor
  · rintro rfl
    exact Prod.ext (located.x.same.symm.trans zeros_holds.same) (located.y.same.symm.trans zeros_holds.same)
  · intro same
    obtain ⟨x,y⟩ := a
    have first := located.x
    have second := located.y
    rw [same] at first second
    rw [AffinePoint.mk.injEq]
    exact ⟨first.unique zeros_holds,second.unique zeros_holds⟩

theorem Located.stands {a : AffinePoint} {P : CurvePoint} (located : Located a P) (finite : P ≠ 0) :
    Stands ⟨a.x,a.y,one⟩ P := by
  refine Stands.of located.x located.y one_holds ?_
  cases P with
  | zero => exact absurd rfl finite
  | some x y on => exact ⟨one_ne_zero,by simp [coordinates],by simp [coordinates]⟩

theorem toAffine_located {p : JacobianPoint} {P : CurvePoint} (stands : Stands p P) : Located (toAffine p) P := by
  have x : Holds p.X (value p.X) := ⟨stands.first,rfl⟩
  have y : Holds p.Y (value p.Y) := ⟨stands.second,rfl⟩
  have z : Holds p.Z (value p.Z) := ⟨stands.third,rfl⟩
  have zi := feInv_holds z
  have represents := stands.represents
  refine ⟨(x.mul zi.sqr).of_eq ?_,(y.mul (zi.sqr.mul zi)).of_eq ?_⟩
  all_goals
    generalize (value p.X : ZMod prime) = X at represents
    generalize (value p.Y : ZMod prime) = Y at represents
    generalize (value p.Z : ZMod prime) = Z at represents
    cases P with
    | zero =>
      obtain rfl : Z = 0 := represents
      simp [coordinates]
    | some x y on =>
      obtain ⟨finite,rfl,rfl⟩ := represents
      simp only [coordinates]
      field_simp

/-! ### The ladder -/

theorem infinity_stands : Stands ⟨zeros,zeros,zeros⟩ (0 : CurvePoint) :=
  Stands.of zeros_holds zeros_holds zeros_holds (show (0 : ZMod prime) = 0 from rfl)

theorem mulLoop_stands (k : List Limb) {p : JacobianPoint} {P : CurvePoint} (stands : Stands p P) : ∀ (i : Nat)
    (R : JacobianPoint),
    Stands R ((value k / 2^i) • P) → Stands (mulLoop k p i R) (value k • P) := by
  intro i
  induction i with
  | zero =>
    intro R before
    rwa [pow_zero,Nat.div_one] at before
  | succ i ih =>
    intro R before
    rw [mulLoop]
    refine ih _ ?_
    have doubled := pointDbl_stands before
    rw [← add_nsmul,← two_mul] at doubled
    have digit := bitAt_value k i
    have small := Nat.mod_lt (value k / 2^i) (show 0 < 2 by decide)
    rw [above_bit,pointCmov_eq]
    split
    · next set =>
      have unit : value k / 2^i % 2 = 1 := by
        have : (bitAt k i).toNat ≠ 0 := fun none => bne_iff_ne.mp set (BitVec.eq_of_toNat_eq none)
        omega
      have added := pointAdd_stands doubled stands
      rw [unit,succ_nsmul]
      exact added
    · next clear =>
      have zero : bitAt k i = 0 := by simpa using clear
      rw [zero] at digit
      rw [← digit]
      exact doubled

theorem point_mul_located {k : List Limb} (length : k.length = 4) {a : AffinePoint} {P : CurvePoint}
    (located : Located a P)
    (finite : P ≠ 0) : Located (p256_point_mul k a.x a.y) (value k • P) := by
  have small := value_lt k
  rw [length] at small
  refine toAffine_located (mulLoop_stands k (located.stands finite) 256 _ ?_)
  rw [Nat.div_eq_of_lt small,zero_nsmul]
  exact infinity_stands

/-! ### The comb -/

theorem orMasked_none {a x : List Limb} (length : a.length = x.length) : orMasked a x 0 = a := by
  induction a generalizing x with
  | nil => rfl
  | cons a as ih =>
    obtain _ | ⟨x,xs⟩ := x
    · cases length
    rw [orMasked,List.zipWith_cons_cons,← orMasked,ih (Nat.succ.inj length)]
    simp

theorem orMasked_all {x : List Limb} (length : x.length = 4) : orMasked zeros x (-1) = x := by
  obtain ⟨x0,x1,x2,x3,rfl⟩ := List.length_eq_four.mp length
  have all (x : Limb) : 0 ||| (x &&& -1) = x := by
    have masked : x &&& (-1 : Limb) = x := BitVec.and_allOnes
    rw [masked]
    exact BitVec.zero_or
  simp only [orMasked,zeros,List.zipWith_cons_cons,List.zipWith_nil_left,all]

/-- The entries scanned so far leave that of the digit, or zeros. -/
theorem scan_select {block : Nat → AffinePoint} (d : Limb) :
    ∀ n < 2^64, (∀ j, 1 ≤ j → j ≤ n → (block j).x.length = 4 ∧ (block j).y.length = 4) →
    (List.range' 1 n).foldl (fun A j =>
      let mask : Limb := if BitVec.ofNat 64 j = d then -1 else 0
      ⟨orMasked A.x (block j).x mask,orMasked A.y (block j).y mask⟩) (⟨zeros,zeros⟩ : AffinePoint) =
    if 1 ≤ d.toNat ∧ d.toNat ≤ n then block d.toNat else ⟨zeros,zeros⟩ := by
  intro n
  induction n with
  | zero =>
    intro _ _
    rw [if_neg (by omega)]
    rfl
  | succ n ih =>
    intro small lengths
    rw [List.range'_1_concat,List.foldl_append,ih (by omega) fun j low high =>
      lengths j low (by omega),List.foldl_cons,List.foldl_nil]
    obtain ⟨first,second⟩ := lengths (1 + n) (by omega) (by omega)
    dsimp only
    by_cases here : BitVec.ofNat 64 (1 + n) = d
    · have digit : d.toNat = 1 + n := by
        rw [← here,BitVec.toNat_ofNat,Nat.mod_eq_of_lt (by omega)]
      rw [if_pos here,if_neg (by omega),if_pos (by omega),orMasked_all first,orMasked_all second,digit]
    · have other : d.toNat ≠ 1 + n := fun same => here (by
        rw [← same,BitVec.ofNat_toNat,BitVec.setWidth_eq])
      rw [if_neg here]
      by_cases found : 1 ≤ d.toNat ∧ d.toNat ≤ n
      · obtain ⟨width,width'⟩ := lengths d.toNat found.1 (by omega)
        rw [if_pos found,if_pos (by omega),orMasked_none (width.trans first.symm),
          orMasked_none (width'.trans second.symm)]
      · rw [if_neg found,if_neg (by omega),orMasked_none (by rw [first]; rfl),orMasked_none (by rw [second]; rfl)]

/-- Entry `[i][j]` is `j·16^i` times the base point. -/
def CombTable (comb : Nat → Nat → AffinePoint) : Prop :=
  ∀ i < 64, ∀ j, 1 ≤ j → j ≤ 15 → Located (comb i j) ((j * 16^i) • base)

section
variable {comb : Nat → Nat → AffinePoint} (k : List Limb)

theorem nibble_lt (i : Nat) : (nibble k i).toNat < 16 := by
  rw [nibble_value]
  exact Nat.mod_lt _ (by decide)

theorem select_located (table : CombTable comb) {i : Nat} (inside : i < 64) (some : nibble k i ≠ 0) :
    Located (select (comb i) (nibble k i)) (((nibble k i).toNat * 16^i) • base) := by
  have low : 1 ≤ (nibble k i).toNat := Nat.pos_of_ne_zero fun none => some (BitVec.eq_of_toNat_eq none)
  have high := nibble_lt k i
  have entries : ∀ j, 1 ≤ j → j ≤ 15 → (comb i j).x.length = 4 ∧ (comb i j).y.length = 4 := fun j first last =>
    ⟨(table i inside j first last).x.canonical.length,(table i inside j first last).y.canonical.length⟩
  rw [select,scan_select (nibble k i) 15 (by decide) entries,if_pos (by omega)]
  exact table i inside _ low (by omega)

end

/-- The incomplete addition is right for different finite points. -/
theorem pointAddAffine_stands {R : JacobianPoint} {A : AffinePoint} {P Q : CurvePoint} (stands : Stands R P)
    (located : Located A Q)
    (finite : P ≠ 0) (finite' : Q ≠ 0) (apart : P ≠ Q) : Stands (pointAddAffine R A) (P + Q) := by
  have x : Holds R.X (value R.X) := ⟨stands.first,rfl⟩
  have y : Holds R.Y (value R.Y) := ⟨stands.second,rfl⟩
  have z : Holds R.Z (value R.Z) := ⟨stands.third,rfl⟩
  have U2 := located.x.mul z.sqr
  have S2 := located.y.mul (z.mul z.sqr)
  have H := U2.sub x
  have r := S2.sub y
  have HHH := H.mul H.sqr
  have V := x.mul H.sqr
  have X3 := (r.sqr.sub HHH).sub (V.add V)
  have Y3 := (r.mul (V.sub X3)).sub (y.mul HHH)
  have Z3 := H.mul z
  have represents := stands.represents
  have represents' := (located.stands finite').represents
  have unit : (value one : ZMod prime) = 1 := one_holds.same
  dsimp only at represents'
  rw [located.x.same,located.y.same,unit] at represents'
  have nonzero := mt represents.infinite.mp finite
  rw [pointAddAffine]
  by_cases same : (value R.X : ZMod prime) * 1^2 = (coordinates Q).1 * value R.Z^2
  · have different : (value R.Y : ZMod prime) * 1^3 ≠ (coordinates Q).2 * value R.Z^3 := fun same' =>
      apart ((represents.same_iff represents' nonzero one_ne_zero).1 ⟨same,same'⟩)
    rw [(represents.same_iff represents' nonzero one_ne_zero).2 ⟨same,different⟩]
    refine Stands.of X3 Y3 Z3 (show _ = (0 : ZMod prime) from ?_)
    linear_combination -(value R.Z : ZMod prime) * same
  · have sum := represents.add represents' nonzero one_ne_zero same
    refine Stands.of (X3.of_eq ?_) (Y3.of_eq ?_) (Z3.of_eq ?_) sum
    · ring
    · ring
    · ring

/-! ### Small multiples -/

theorem nsmul_base_eq_zero {n : Nat} : n • base = 0 ↔ order ∣ n := by
  rw [← base_order,addOrderOf_dvd_iff_nsmul_eq_zero]

theorem nsmul_base_inj {m n : Nat} (first : m < order) (second : n < order) (same : m • base = n • base) : m = n := by
  rw [← base_order] at first second
  exact nsmul_injOn_Iio_addOrderOf first second same

/-- The digits that have been added are below the weight of the next one. -/
theorem weight_lt {i d : Nat} (inside : i < 64) (small : d < 16) : d * 16^i < order := by
  calc d * 16^i ≤ 15 * 16^63 := Nat.mul_le_mul (by omega) (Nat.pow_le_pow_right (by decide) (by omega))
    _ < order := by decide

section
variable {comb : Nat → Nat → AffinePoint} (k : List Limb)

/-- With a digit that is not zero, the point added is finite, and another one than what has been added up. -/
theorem digit_apart {i : Nat} (inside : i < 64) (some : nibble k i ≠ 0) :
    ((nibble k i).toNat * 16^i) • base ≠ 0 ∧ (value k % 16^i) • base ≠ ((nibble k i).toNat * 16^i) • base := by
  have low : 1 ≤ (nibble k i).toNat := Nat.pos_of_ne_zero fun none => some (BitVec.eq_of_toNat_eq none)
  have weight := weight_lt inside (nibble_lt k i)
  have power := Nat.pow_pos (n := i) (show 0 < 16 by decide)
  have rest := Nat.mod_lt (value k) power
  have large : 16^i ≤ (nibble k i).toNat * 16^i := Nat.le_mul_of_pos_left _ low
  constructor
  · rw [Ne,nsmul_base_eq_zero]
    intro divides
    exact absurd (Nat.le_of_dvd (by omega) divides) (by omega)
  · intro same
    have := nsmul_base_inj (by omega) weight same
    omega

theorem combRun_stands (table : CombTable comb) : ∀ i ≤ 64, Stands (combRun comb k i) ((value k % 16^i) • base) := by
  intro i
  induction i with
  | zero =>
    intro _
    rw [pow_zero,Nat.mod_one,zero_nsmul]
    exact infinity_stands
  | succ i ih =>
    intro inside
    have before := ih (by omega)
    have parts : value k % 16^(i+1) = value k % 16^i + (nibble k i).toNat * 16^i := by
      rw [nibble_value,pow_succ,Nat.mod_mul,Nat.mul_comm]
    rw [combRun,combStep]
    rw [pointCmov_eq,pointCmov_eq]
    by_cases none : nibble k i = 0
    · rw [if_neg (by simp [none]),parts,none,show BitVec.toNat (0 : Limb) = 0 from rfl,Nat.zero_mul,Nat.add_zero]
      exact before
    have located := select_located k table (by omega) none
    obtain ⟨finite,apart⟩ := digit_apart k (by omega) none
    rw [if_pos (bne_iff_ne.mpr none),parts,add_nsmul]
    have z : Holds (combRun comb k i).Z (value (combRun comb k i).Z) := ⟨before.third,rfl⟩
    split
    · next zero =>
      rw [before.represents.infinite.mp (z.zero_iff.mp zero),zero_add]
      exact located.stands finite
    · next some =>
      have accumulated : (value k % 16^i) • base ≠ 0 := mt before.represents.infinite.mpr (mt z.zero_iff.mpr some)
      exact pointAddAffine_stands before located accumulated finite apart

theorem point_mul_base_located (table : CombTable comb) {k : List Limb} (length : k.length = 4) :
    Located (p256_point_mul_base comb k) (value k • base) := by
  have small := value_lt k
  rw [length] at small
  have last := combRun_stands k table 64 (Nat.le_refl _)
  rw [show (16 : Nat)^64 = 2^(64*4) by decide,Nat.mod_eq_of_lt small] at last
  exact toAffine_located last

end

theorem base_located : Located ⟨p256_gx,p256_gy⟩ base :=
  ⟨⟨⟨rfl,by decide⟩,rfl⟩,⟨⟨rfl,by decide⟩,rfl⟩⟩

/-- The comb and the ladder give the same multiple of the base point for every number of 256 bits, the comb by additions
    of different finite points only. -/
theorem comb_ladder {comb : Nat → Nat → AffinePoint} (table : CombTable comb) {k : List Limb} (length : k.length = 4) :
    p256_point_mul_base comb k = p256_point_mul k p256_gx p256_gy ∧
    Located (p256_point_mul_base comb k) (value k • base) ∧
    (p256_point_mul_base comb k = ⟨zeros,zeros⟩ ↔ order ∣ value k) ∧
    ∀ i < 64, nibble k i ≠ 0 → isZero (combRun comb k i).Z = false → ∃ P Q : CurvePoint, Stands (combRun comb k i) P ∧
      Located (select (comb i) (nibble k i)) Q ∧ P ≠ 0 ∧ Q ≠ 0 ∧ P ≠ Q ∧
        Stands (pointAddAffine (combRun comb k i) (select (comb i) (nibble k i))) (P + Q) := by
  have located := point_mul_base_located table length
  have located' := point_mul_located length base_located base_ne_zero
  refine ⟨located.unique located',located,?_,fun i inside some finite => ?_⟩
  · rw [located.zero_iff,nsmul_base_eq_zero]
  · have before := combRun_stands k table i (by omega)
    have entry := select_located k table inside some
    obtain ⟨finite',apart⟩ := digit_apart k inside some
    have z : Holds (combRun comb k i).Z (value (combRun comb k i).Z) := ⟨before.third,rfl⟩
    have accumulated : (value k % 16^i) • base ≠ 0 := fun none => by
      rw [z.zero_iff.mpr (before.represents.infinite.mpr none)] at finite
      cases finite
    exact ⟨_,_,before,entry,accumulated,finite',apart,pointAddAffine_stands before entry accumulated finite' apart⟩

/-- The table that the ladder makes. -/
def ladderTable (i j : Nat) : AffinePoint :=
  let n := j * 16^i
  p256_point_mul [BitVec.ofNat 64 n,BitVec.ofNat 64 (n / 2^64),BitVec.ofNat 64 (n / 2^128),
    BitVec.ofNat 64 (n / 2^192)] p256_gx p256_gy

theorem ladderTable_comb : CombTable ladderTable := by
  intro i inside j _ last
  have small := (weight_lt inside (Nat.lt_succ_of_le last)).trans order_large.2
  have located := point_mul_located
    (k := [BitVec.ofNat 64 (j * 16^i),BitVec.ofNat 64 (j * 16^i / 2^64),BitVec.ofNat 64 (j * 16^i / 2^128),
    BitVec.ofNat 64 (j * 16^i / 2^192)]) rfl base_located base_ne_zero
  have same : value [BitVec.ofNat 64 (j * 16^i),BitVec.ofNat 64 (j * 16^i / 2^64),BitVec.ofNat 64 (j * 16^i / 2^128),
      BitVec.ofNat 64 (j * 16^i / 2^192)] = j * 16^i := by
    generalize j * 16^i = n at small
    simp only [value_cons,value_nil,BitVec.toNat_ofNat]
    omega
  rw [same] at located
  exact located

/-- The first multiple. -/
theorem comb_ladder_one : p256_point_mul_base ladderTable one = p256_point_mul one p256_gx p256_gy :=
  (comb_ladder ladderTable_comb rfl).1

end Sarm.P256
