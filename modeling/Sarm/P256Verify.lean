import Sarm.P256Ecdsa
import Sarm.P256Order

/-!
Verification of ECDSA over P-256 against what the standard accepts: the code agrees but for hashes that
are zero modulo the order, whose first multiple is infinite and is added as if it were finite.
-/
namespace Sarm.P256
open Sarm.Memory Sarm.Words Sarm.Limbs Sarm.Jacobian WeierstrassCurve

/-! ### The code -/

/-- `.Lverify_in_range`. -/
def inRange (a : List Limb) : Bool := !isZero a && !(subChain a p256_n true).2

def onCurve (Qx Qy : List Limb) : Bool :=
  let t_a := feSqr Qy
  let t_b := feMul (feSqr Qx) Qx
  let t_c := feAdd (feAdd Qx Qx) Qx
  feEq t_a (feAdd (feSub t_b t_c) p256_b)

/-- Both multiples are brought into Jacobian coordinates with `Z = 1`. -/
def verifyLimbs (comb : Nat → Nat → AffinePoint) (slots : Nat → List Limb) (hash r s Qx Qy : List Limb) : Bool :=
  if !inRange r then false
  else if !inRange s then false
  else if !onCurve Qx Qy then false
  else
    let z := reduceScalar hash
    let w := invLimbs slots s
    let u1 := scalarMul z w
    let u2 := scalarMul r w
    let p1 := p256_point_mul_base comb u1
    let p2 := p256_point_mul u2 Qx Qy
    let jacsum := pointAdd ⟨p1.x,p1.y,one⟩ ⟨p2.x,p2.y,one⟩
    if isZero jacsum.Z then false else feEq (reduceScalar (toAffine jacsum).x) r

def p256_ecdsa_verify (comb : Nat → Nat → AffinePoint) (m stack : Mem) (x0 x1 x2 x3 x4 : Nat) : Bool :=
  verifyLimbs comb (fun i => limbs stack (96 + 32 * i) 4) (p256_fe_frombytes m x0) (p256_fe_frombytes m x1)
    (p256_fe_frombytes m x2)
    (p256_fe_frombytes m x3) (p256_fe_frombytes m x4)

/-! ### The standard -/

/-- Both numbers of a signature are in range, and the key is on the curve. -/
structure Admissible (r s Qx Qy : Nat) : Prop where
  first : 1 ≤ r ∧ r < order
  second : 1 ≤ s ∧ s < order
  key : (curve (value p256_b : ZMod prime)).toAffine.Equation (Qx : ZMod prime) Qy

/-- The key as a point. -/
def Admissible.point {r s Qx Qy : Nat} (ok : Admissible r s Qx Qy) : CurvePoint := .some _ _ (nonsingular_of ok.key)

/-- `u1` and `u2`. -/
def firstScalar (z s : Nat) : Nat := ((z : ZMod order) * (s : ZMod order)⁻¹).val

def secondScalar (r s : Nat) : Nat := ((r : ZMod order) * (s : ZMod order)⁻¹).val

/-- What FIPS 186-5 accepts for the hash `z`. -/
def Accepts (z r s Qx Qy : Nat) : Prop :=
  ∃ ok : Admissible r s Qx Qy, let R := firstScalar z s • base + secondScalar r s • ok.point
    R ≠ 0 ∧ (coordinates R).1.val % order = r

/-- What the formula for finite points makes of `(0,0)` and a point with this first coordinate. -/
def strayed (x : ZMod prime) : ZMod prime := (value p256_b - (x + x + x)) / x^2

/-- The stray coordinate and that of the second multiple decide differently. -/
def Misled (r s Qx Qy : Nat) : Prop :=
  ∃ ok : Admissible r s Qx Qy, let x := (coordinates (secondScalar r s • ok.point)).1
    ¬((strayed x).val % order = r ↔ x.val % order = r)

/-! ### Checks -/

theorem inRange_iff {a : List Limb} (length : a.length = 4) : inRange a = true ↔ 1 ≤ value a ∧ value a < order := by
  have compared := @subChain_carry _ a p256_n length
  have zero : isZero a = true ↔ value a = 0 := by
    rw [isZero_iff length]
    exact ⟨fun same => same ▸ rfl,fun none => value_inj length none⟩
  rw [p256_n_value] at compared
  rw [inRange,Bool.and_eq_true,Bool.not_eq_true',Bool.not_eq_true',Bool.eq_false_iff,Bool.eq_false_iff,Ne,Ne,zero,
    compared]
  omega

theorem p256_b_holds : Holds p256_b (value p256_b) := ⟨⟨rfl,by decide⟩,rfl⟩

theorem onCurve_iff {Qx Qy : List Limb} (first : Canonical Qx) (second : Canonical Qy) : onCurve Qx Qy = true ↔
    (curve (value p256_b : ZMod prime)).toAffine.Equation (value Qx : ZMod prime) (value Qy) := by
  have x : Holds Qx (value Qx) := ⟨first,rfl⟩
  have y : Holds Qy (value Qy) := ⟨second,rfl⟩
  have rhs := ((x.sqr.mul x).sub ((x.add x).add x)).add p256_b_holds
  rw [onCurve,y.sqr.eq_iff rhs,equation_iff]
  constructor
  · intro same
    linear_combination same
  · intro same
    linear_combination same

/-! ### Scalars -/

theorem Scalar.val {a : List Limb} {x : ZMod order} (scalar : Scalar a) (same : (value a : ZMod order) = x) :
    value a = x.val := by
  rw [← same]
  exact (ZMod.val_cast_of_lt scalar.small).symm

theorem ne_zero_of_range {n : Nat} (range : 1 ≤ n ∧ n < order) : (n : ZMod order) ≠ 0 := by
  rw [Ne,ZMod.natCast_eq_zero_iff]
  intro divides
  exact absurd (Nat.le_of_dvd range.1 divides) (by omega)

theorem nsmul_base_congr {m n : Nat} (same : (m : ZMod order) = n) : m • base = n • base := by
  rw [IsOfFinAddOrder.nsmul_eq_nsmul_iff_modEq (isOfFinAddOrder_of_finite base),base_order]
  exact (ZMod.natCast_eq_natCast_iff _ _ _).mp same

theorem secondScalar_finite {r s Qx Qy : Nat} (ok : Admissible r s Qx Qy) : secondScalar r s • ok.point ≠ 0 := by
  have finite : ok.point ≠ 0 := Affine.Point.some_ne_zero _
  rw [Ne,nsmul_eq_zero finite,secondScalar]
  intro divides
  have zero := Nat.eq_zero_of_dvd_of_lt divides (ZMod.val_lt _)
  rw [ZMod.val_eq_zero] at zero
  exact mul_ne_zero (ne_zero_of_range ok.first) (inv_ne_zero (ne_zero_of_range ok.second)) zero

theorem firstScalar_zero {z s : Nat} (range : 1 ≤ s ∧ s < order) : firstScalar z s • base = 0 ↔ order ∣ z := by
  rw [nsmul_base_eq_zero,firstScalar,← ZMod.natCast_eq_zero_iff z order]
  constructor
  · intro divides
    have zero := Nat.eq_zero_of_dvd_of_lt divides (ZMod.val_lt _)
    rw [ZMod.val_eq_zero] at zero
    exact (mul_eq_zero.mp zero).resolve_right (inv_ne_zero (ne_zero_of_range range))
  · intro zero
    rw [zero,zero_mul,ZMod.val_zero]
    exact dvd_zero _

/-! ### The last steps -/

/-- What is left of the verification once both multiples are there. -/
def compare (p1 p2 : AffinePoint) (r : List Limb) : Bool :=
  let jacsum := pointAdd ⟨p1.x,p1.y,one⟩ ⟨p2.x,p2.y,one⟩
  if isZero jacsum.Z then false else feEq (reduceScalar (toAffine jacsum).x) r

/-- A first coordinate that is reduced and compared. -/
theorem reduced_eq_iff {a r : List Limb} {x : ZMod prime} (holds : Holds a x) (second : Scalar r) :
    feEq (reduceScalar a) r = true ↔ x.val % order = value r := by
  obtain ⟨scalar,same⟩ := reduceScalar_spec holds.canonical.length
  rw [feEq,beq_iff_eq,holds.val,← same]
  exact ⟨fun equal => congrArg value equal,value_inj (scalar.length.trans second.length.symm)⟩

theorem compare_finite {p1 p2 : AffinePoint} {r : List Limb} {P Q : CurvePoint} (first : Located p1 P)
    (second : Located p2 Q)
    (finite : P ≠ 0) (finite' : Q ≠ 0) (scalar : Scalar r) :
    compare p1 p2 r = true ↔ P + Q ≠ 0 ∧ (coordinates (P + Q)).1.val % order = value r := by
  have sum := pointAdd_stands (first.stands finite) (second.stands finite')
  rw [compare]
  generalize pointAdd _ _ = jacsum at sum
  have z : Holds jacsum.Z (value jacsum.Z) := ⟨sum.third,rfl⟩
  have infinite : isZero jacsum.Z = true ↔ P + Q = 0 := by
    rw [z.zero_iff,sum.represents.infinite]
  rw [Ne,← infinite,← reduced_eq_iff (toAffine_located sum).x scalar]
  split
  · next zero => simp [zero]
  · next some => simp [some]

/-- The formula for finite points at the origin, which is not on the curve. -/
theorem addGeneric_origin {c : Compared} {u : List Limb} {x y : ZMod prime} (compares : Compares c 0 x 0 y)
    (unit : Holds u 1) :
    Holds (addGeneric c u u).Z x ∧ Holds (toAffine (addGeneric c u u)).x ((y^2 - x^3) * (x⁻¹)^2) := by
  obtain ⟨U1,U2,S1,S2⟩ := compares
  have H := U2.sub U1
  have d := S2.sub S1
  have HHH := H.mul H.sqr
  have V := U1.mul H.sqr
  have X3 : Holds (addGeneric c u u).X (y^2 - x^3) := ((d.sqr.sub HHH).sub (V.add V)).of_eq (by ring)
  have Z3 : Holds (addGeneric c u u).Z x := ((H.mul unit).mul unit).of_eq (by ring)
  generalize addGeneric c u u = sum at X3 Z3
  have zi := feInv_holds Z3
  exact ⟨Z3,(X3.mul zi.sqr).of_eq (by ring)⟩

/-- The first multiple is infinite, and its zeros are taken for coordinates. -/
theorem compare_strayed {p2 : AffinePoint} {r : List Limb} {Q : CurvePoint} (second : Located p2 Q) (finite : Q ≠ 0)
    (scalar : Scalar r)
    (positive : 1 ≤ value r) :
    compare ⟨zeros,zeros⟩ p2 r = true ↔ (strayed (coordinates Q).1).val % order = value r := by
  cases Q with
  | zero => exact absurd rfl finite
  | some x y on =>
  have equation := equation_iff.mp on.1
  have nonzero : y ≠ 0 := by
    rintro rfl
    refine no_root x ?_
    rw [IsRoot]
    linear_combination -equation
  have X : Holds p2.x x := second.x
  have Y : Holds p2.y y := second.y
  have unit : isZero one = false := by decide
  have holds := one_holds
  rw [compare,pointAdd_eq]
  generalize one = u at unit holds
  have U1 : Holds (feMul zeros (feSqr u)) 0 := (zeros_holds.mul holds.sqr).of_eq (by ring)
  have U2 : Holds (feMul p2.x (feSqr u)) x := (X.mul holds.sqr).of_eq (by ring)
  have S1 : Holds (feMul zeros (feMul u (feSqr u))) 0 := (zeros_holds.mul (holds.mul holds.sqr)).of_eq (by ring)
  have S2 : Holds (feMul p2.y (feMul u (feSqr u))) y := (Y.mul (holds.mul holds.sqr)).of_eq (by ring)
  have compares : Compares (compared ⟨zeros,zeros,u⟩ ⟨p2.x,p2.y,u⟩) 0 x 0 y := ⟨U1,U2,S1,S2⟩
  dsimp only
  generalize compared ⟨zeros,zeros,u⟩ ⟨p2.x,p2.y,u⟩ = c at compares
  have differ : ¬feEq c.S1 c.S2 = true := by
    rw [compares.S1.eq_iff compares.S2]
    exact fun same => nonzero same.symm
  rw [unit,if_neg Bool.false_ne_true,if_neg Bool.false_ne_true,if_neg differ]
  by_cases zero : x = 0
  · have same : feEq c.U1 c.U2 = true := (compares.U1.eq_iff compares.U2).mpr zero.symm
    have vanished : (strayed x).val = 0 := by
      rw [strayed,zero,zero_pow two_ne_zero,div_zero,ZMod.val_zero]
    rw [if_pos same,if_pos (zeros_holds.zero_iff.mpr rfl),coordinates,vanished]
    simp only [Bool.false_eq_true,false_iff,Nat.zero_mod]
    omega
  · have other : ¬feEq c.U1 c.U2 = true := by
      rw [compares.U1.eq_iff compares.U2]
      exact fun same => zero same.symm
    obtain ⟨Z3,vx⟩ := addGeneric_origin compares holds
    rw [if_neg other,if_neg (mt Z3.zero_iff.mp zero)]
    refine reduced_eq_iff (vx.of_eq ?_) scalar
    rw [strayed,coordinates,div_eq_mul_inv,inv_pow]
    linear_combination (x^2)⁻¹ * equation

/-! ### Verification -/

section
variable {comb : Nat → Nat → AffinePoint} (table : CombTable comb) (slots : Nat → List Limb)
variable {hash r s Qx Qy : List Limb} (length : hash.length = 4) (first : r.length = 4) (second : s.length = 4)
include first second

theorem verifyLimbs_refuses (canonical : Canonical Qx) (canonical' : Canonical Qy)
    (refused : ¬Admissible (value r) (value s) (value Qx) (value Qy)) :
        verifyLimbs comb slots hash r s Qx Qy = false := by
  rw [verifyLimbs]
  split
  · rfl
  next good =>
  split
  · rfl
  next good' =>
  split
  · rfl
  next on =>
  rw [Bool.not_eq_true',Bool.not_eq_false] at good good' on
  exact absurd ⟨(inRange_iff first).mp good,(inRange_iff second).mp good',
    (onCurve_iff canonical canonical').mp on⟩ refused

include table length in
/-- What is compared at the end, once both numbers and the key are accepted. -/
theorem verifyLimbs_compares (ok : Admissible (value r) (value s) (value Qx) (value Qy)) (canonical : Canonical Qx)
    (canonical' : Canonical Qy) : ∃ p1 p2 : AffinePoint,
    Located p1 (firstScalar (value hash) (value s) • base) ∧ Located p2 (secondScalar (value r) (value s) • ok.point) ∧
      verifyLimbs comb slots hash r s Qx Qy = compare p1 p2 r := by
  obtain ⟨scalarZ,z⟩ := reduceScalar_cast length
  obtain ⟨scalarW,w⟩ := invLimbs_inverse slots second
  obtain ⟨scalar1,u1⟩ := scalarMul_spec scalarZ.length scalarW.length
  obtain ⟨scalar2,u2⟩ := scalarMul_spec first scalarW.length
  rw [z,w] at u1
  rw [w] at u2
  have key : Located ⟨Qx,Qy⟩ ok.point := ⟨⟨canonical,rfl⟩,⟨canonical',rfl⟩⟩
  have p1 := point_mul_base_located table scalar1.length
  have p2 := point_mul_located scalar2.length key (Affine.Point.some_ne_zero _)
  rw [scalar1.val u1] at p1
  rw [scalar2.val u2] at p2
  refine ⟨_,_,p1,p2,?_⟩
  rw [verifyLimbs,(inRange_iff first).mpr ok.first,(inRange_iff second).mpr ok.second,
    (onCurve_iff canonical canonical').mpr ok.key]
  rfl

include table length in
/-- The code departs from the standard where the first multiple is infinite and this makes a difference. -/
theorem verifyLimbs_exact (canonical : Canonical Qx) (canonical' : Canonical Qy) :
    (verifyLimbs comb slots hash r s Qx Qy = true ↔ Accepts (value hash) (value r) (value s) (value Qx) (value Qy)) ↔
      ¬(order ∣ value hash ∧ Misled (value r) (value s) (value Qx) (value Qy)) := by
  by_cases ok : Admissible (value r) (value s) (value Qx) (value Qy)
  · have scalar : Scalar r := ⟨first,ok.first.2⟩
    obtain ⟨p1,p2,located,located',same⟩ := verifyLimbs_compares table slots length first second ok canonical canonical'
    have finite := secondScalar_finite ok
    have accepts : Accepts (value hash) (value r) (value s) (value Qx) (value Qy) ↔
        firstScalar (value hash) (value s) • base + secondScalar (value r) (value s) • ok.point ≠ 0 ∧
        (coordinates (firstScalar (value hash) (value s) • base + secondScalar (value r)
          (value s) • ok.point)).1.val % order =
          value r := ⟨fun ⟨_,holds⟩ => holds,fun holds => ⟨ok,holds⟩⟩
    have misled : Misled (value r) (value s) (value Qx) (value Qy) ↔
        ¬((strayed (coordinates (secondScalar (value r) (value s) • ok.point)).1).val % order = value r ↔
          (coordinates (secondScalar (value r) (value s) • ok.point)).1.val % order = value r) :=
      ⟨fun ⟨_,differ⟩ => differ,fun differ => ⟨ok,differ⟩⟩
    rw [same,accepts,misled]
    generalize secondScalar (value r) (value s) • ok.point = Q at *
    by_cases divides : order ∣ value hash
    · have infinite := (firstScalar_zero ok.second).mpr divides
      rw [infinite] at located ⊢
      rw [located.zero_iff.mpr rfl,compare_strayed located' finite scalar ok.first.1,zero_add]
      simp only [divides,true_and,not_not,ne_eq,finite,not_false_eq_true]
    · have finite' := mt (firstScalar_zero (z := value hash) ok.second).mp divides
      rw [compare_finite located located' finite' finite scalar]
      simp only [divides,false_and,not_false_eq_true]
  · rw [verifyLimbs_refuses slots first second canonical canonical' ok]
    refine ⟨fun _ both => ok both.2.1,fun _ => ⟨nofun,fun accepts => absurd accepts.1 ok⟩⟩

end

/-- What signing gives is accepted for the key that it was given. -/
theorem signature_accepts {z d k r s : Nat} {Qx Qy : ZMod prime} (inside : 0 < d ∧ d < order) (first : r = signR k)
    (second : (s : ZMod order) = signS z d k) (positive : r ≠ 0) (range : 1 ≤ s ∧ s < order)
    (shown : coordinates (d • base) = (Qx,Qy)) : Accepts z r s Qx.val Qy.val := by
  have finite : d • base ≠ 0 := by
    rw [Ne,nsmul_base_eq_zero]
    exact fun divides => absurd (Nat.le_of_dvd inside.1 divides) (by omega)
  have small : r < order := first ▸ signR_lt k
  have nonzero := ne_zero_of_range range
  have nonce : (k : ZMod order) ≠ 0 := by
    rintro zero
    refine nonzero ?_
    rw [second,signS,zero,inv_zero,zero_mul]
  cases same : d • base with
  | zero => exact absurd same finite
  | some x y on =>
  rw [same] at shown
  obtain ⟨rfl,rfl⟩ := Prod.mk.inj shown
  have ok : Admissible r s x.val y.val := ⟨⟨by omega,small⟩,range,by
    rw [ZMod.natCast_zmod_val,ZMod.natCast_zmod_val]
    exact on.1⟩
  have point : ok.point = d • base := by
    rw [same,Admissible.point]
    simp only [ZMod.natCast_zmod_val]
  have sum : firstScalar z s • base + secondScalar r s • ok.point = k • base := by
    rw [point,← mul_nsmul',← add_nsmul]
    refine nsmul_base_congr ?_
    rw [firstScalar,secondScalar,Nat.cast_add,Nat.cast_mul,ZMod.natCast_zmod_val,ZMod.natCast_zmod_val,second,first]
    rw [second,signS] at nonzero
    have total := right_ne_zero_of_mul nonzero
    rw [signS]
    field_simp
  refine ⟨ok,?_⟩
  rw [sum]
  refine ⟨?_,first.symm⟩
  rw [Ne,nsmul_base_eq_zero]
  exact mt (ZMod.natCast_eq_zero_iff _ _).mpr nonce

section
variable {comb : Nat → Nat → AffinePoint} (table : CombTable comb) (m stack : Mem) (x0 x1 x2 x3 x4 : Nat)
include table

theorem verify_decides (first : Octets.value (slice m x3 32) < prime) (second : Octets.value (slice m x4 32) < prime) :
    let z := Octets.value (slice m x0 32)
    let r := Octets.value (slice m x1 32)
    let s := Octets.value (slice m x2 32)
    let Qx := Octets.value (slice m x3 32)
    let Qy := Octets.value (slice m x4 32)
    (p256_ecdsa_verify comb m stack x0 x1 x2 x3 x4 = true ↔ Accepts z r s Qx Qy) ↔ ¬(order ∣ z ∧ Misled r s Qx Qy) := by
  have x : Canonical (p256_fe_frombytes m x3) := ⟨frombytes_length m x3,by rwa [frombytes_value]⟩
  have y : Canonical (p256_fe_frombytes m x4) := ⟨frombytes_length m x4,by rwa [frombytes_value]⟩
  have exact := verifyLimbs_exact table (fun i => limbs stack (96 + 32 * i) 4) (frombytes_length m x0)
    (frombytes_length m x1) (frombytes_length m x2) x y
  rwa [frombytes_value,frombytes_value,frombytes_value,frombytes_value,frombytes_value] at exact

/-- The standard accepts what signing has written. -/
theorem signed_accepts (inside : 0 < Octets.value (slice m x3 32)) (small : Octets.value (slice m x3 32) < order)
    (apart : x0 + 32 ≤ x1 ∨ x1 + 32 ≤ x0) {Qx Qy : ZMod prime}
    (shown : coordinates (Octets.value (slice m x3 32) • base) = (Qx,Qy)) :
    let result := p256_ecdsa_sign_with_k comb m stack x0 x1 x2 x3 x4
    result.2 = 0 → Accepts (Octets.value (slice m x2 32)) (Octets.value (slice result.1 x0 32))
      (Octets.value (slice result.1 x1 32)) Qx.val Qy.val := by
  intro result code
  obtain ⟨_,failed⟩ | ⟨both,_,r,bound,s,_⟩ := sign_cases table m stack x0 x1 x2 x3 x4 apart
  · rw [show result = (m,1) from failed] at code
    cases code
  refine signature_accepts ⟨inside,small⟩ r s (r ▸ both.1) ⟨?_,bound⟩ shown
  refine Nat.pos_of_ne_zero fun zero => both.2 ?_
  rw [← s]
  exact (congrArg Nat.cast zero).trans Nat.cast_zero

end

/-! ### The private key and the nonce one -/

/-- Room for a signature, a hash of zeros, the key for the private key one, and a one. -/
def keyMemory : Mem :=
  p256_fe_tobytes (p256_fe_tobytes (p256_fe_tobytes (fun _ => 0) 96 p256_gx) 128 p256_gy) 160 one

theorem keyMemory_reads : (Octets.value (slice keyMemory 64 32) = 0 ∧ Octets.value (slice keyMemory 160 32) = 1) ∧
    (Octets.value (slice keyMemory 96 32) = value p256_gx ∧ Octets.value (slice keyMemory 128 32) = value p256_gy) := by
  decide +kernel

/-- The private key and the nonce are one. -/
def signOnes (x2 : Nat) : Mem × Nat := p256_ecdsa_sign_with_k ladderTable keyMemory (fun _ => 0) 0 32 x2 160 160

theorem coordinates_base : coordinates base = ((value p256_gx : ZMod prime),(value p256_gy : ZMod prime)) := rfl

theorem signR_one : signR 1 = value p256_gx % order := by
  rw [signR,one_nsmul,coordinates_base,ZMod.val_cast_of_lt (by decide)]

theorem signS_ones (z : Nat) : signS z 1 1 = ((z + value p256_gx : Nat) : ZMod order) := by
  rw [signS,signR_one,Nat.cast_one,inv_one,one_mul,mul_one,ZMod.natCast_mod,Nat.cast_add]

theorem signOnes_writes (x2 : Nat) (some : ¬order ∣ Octets.value (slice keyMemory x2 32) + value p256_gx) :
    (signOnes x2).2 = 0 ∧ Octets.value (slice (signOnes x2).1 0 32) = value p256_gx % order ∧
    Octets.value (slice (signOnes x2).1 32 32) = (Octets.value (slice keyMemory x2 32) + value p256_gx) % order ∧
    ChangesOnly [(0,32),(32,32)] keyMemory (signOnes x2).1 := by
  have written := sign_cases ladderTable_comb keyMemory (fun _ => 0) 0 32 x2 160 160 (.inl (by decide))
  rw [keyMemory_reads.1.2] at written
  dsimp only at written
  rw [signR_one,signS_ones,← signOnes] at written
  obtain ⟨none | none,_⟩ | ⟨_,code,r,small,s,changes⟩ := written
  · exact absurd none (by decide)
  · exact absurd ((ZMod.natCast_eq_zero_iff _ _).mp none) some
  · refine ⟨code,r,?_,changes⟩
    rw [← (ZMod.natCast_eq_natCast_iff' _ _ _).mp s,Nat.mod_eq_of_lt small]

/-- The key is still there. -/
theorem signOnes_key {x2 : Nat} (changes : ChangesOnly [(0,32),(32,32)] keyMemory (signOnes x2).1) :
    Octets.value (slice (signOnes x2).1 96 32) = value p256_gx ∧ Octets.value (slice (signOnes x2).1 128 32) =
        value p256_gy := by
  rw [changes.slice (by decide),changes.slice (by decide)]
  exact keyMemory_reads.2

/-- The stray coordinate for the base point. -/
def strayBase : Nat := 0x6ee59fbde1d6889493b1adb7beabf2593bef941b1d76f8d3750c973a9ebaa30e

theorem strayBase_checked : (value p256_gx % prime ≠ 0 ∧ strayBase < prime) ∧
    (strayBase * value p256_gx^2 + 3 * value p256_gx) % prime = value p256_b % prime ∧
      ¬strayBase % order = value p256_gx % order := by
  decide +kernel

theorem strayed_base : (strayed (value p256_gx : ZMod prime)).val = strayBase := by
  obtain ⟨⟨some,small⟩,same,_⟩ := strayBase_checked
  have some := mt (cast_eq_zero _).mp some
  have same := (ZMod.natCast_eq_natCast_iff' _ _ _).mpr same
  rw [← ZMod.val_cast_of_lt small,strayed]
  congr 1
  generalize strayBase = v at same
  generalize value p256_gx = x at same some
  generalize value p256_b = b at same
  push_cast at same
  rw [div_eq_iff (pow_ne_zero 2 some)]
  linear_combination -same

theorem misled_base : Misled (value p256_gx % order) (value p256_gx % order) (value p256_gx) (value p256_gy) := by
  have range : 1 ≤ value p256_gx % order ∧ value p256_gx % order < order := by decide
  have ok : Admissible (value p256_gx % order) (value p256_gx % order) (value p256_gx) (value p256_gy) :=
    ⟨range,range,base_on⟩
  have scalar : secondScalar (value p256_gx % order) (value p256_gx % order) = 1 := by
    rw [secondScalar,mul_inv_cancel₀ (ne_zero_of_range range),ZMod.val_one]
  have point : ok.point = base := rfl
  refine ⟨ok,?_⟩
  rw [scalar,one_nsmul,point,coordinates_base]
  dsimp only
  rw [strayed_base,ZMod.val_cast_of_lt (by decide)]
  exact fun both => strayBase_checked.2.2 (both.mpr rfl)

/-! ### Octets -/

/-- Verification decides as the standard does exactly unless the hash is a multiple of the order and the stray coordinate
    makes a difference, and what signing writes is accepted under the same condition. -/
theorem verify_exact {comb : Nat → Nat → AffinePoint} (table : CombTable comb) (m stack : Mem) (x0 x1 x2 x3 x4 : Nat) :
    let z := Octets.value (slice m x0 32)
    let r := Octets.value (slice m x1 32)
    let s := Octets.value (slice m x2 32)
    let Qx := Octets.value (slice m x3 32)
    let Qy := Octets.value (slice m x4 32)
    let accepted := p256_ecdsa_verify comb m stack x0 x1 x2 x3 x4
    Qx < prime → Qy < prime →
      ((accepted = true ↔ Accepts z r s Qx Qy) ↔ ¬(order ∣ z ∧ Misled r s Qx Qy)) ∧
      ∀ (m' stack' : Mem) (y0 y1 y2 y3 y4 : Nat),
        let d := Octets.value (slice m' y3 32)
        let result := p256_ecdsa_sign_with_k comb m' stack' y0 y1 y2 y3 y4
        0 < d → d < order → y0 + 32 ≤ y1 ∨ y1 + 32 ≤ y0 → result.2 = 0 →
        slice m x0 32 = slice m' y2 32 → slice m x1 32 = slice result.1 y0 32 → slice m x2 32 = slice result.1 y1 32 →
        ((Qx : ZMod prime),(Qy : ZMod prime)) = coordinates (d • base) →
          (accepted = true ↔ ¬(order ∣ z ∧ Misled r s Qx Qy)) := by
  intro z r s Qx Qy accepted inside inside'
  have exact := verify_decides table m stack x0 x1 x2 x3 x4 inside inside'
  refine ⟨exact,?_⟩
  intro m' stack' y0 y1 y2 y3 y4 d result positive small apart code hash first second shown
  have accepts := signed_accepts table m' stack' y0 y1 y2 y3 y4 positive small apart shown.symm code
  rw [← hash,← first,← second,ZMod.val_cast_of_lt inside,ZMod.val_cast_of_lt inside'] at accepts
  have same : (accepted = true ↔ Accepts z r s Qx Qy) ↔ (accepted = true) :=
    ⟨fun same => same.mpr accepts,fun yes => ⟨fun _ => accepts,fun _ => yes⟩⟩
  exact same.symm.trans exact

/-- Its hash is none of the multiples of the order. -/
theorem verify_exact_one : p256_ecdsa_verify ladderTable (signOnes 160).1 (fun _ => 0) 160 0 32 96 128 = true := by
  obtain ⟨code,_,_,changes⟩ := signOnes_writes 160 (by rw [keyMemory_reads.1.2]; decide)
  obtain ⟨x,y⟩ := signOnes_key changes
  have hash : slice (signOnes 160).1 160 32 = slice keyMemory 160 32 := changes.slice (by decide)
  have secret := keyMemory_reads.1.2
  have shown : ((value p256_gx : ZMod prime),(value p256_gy : ZMod prime)) =
      coordinates (Octets.value (slice keyMemory 160 32) • base) := by
    rw [secret,one_nsmul,coordinates_base]
  have settled := (verify_exact ladderTable_comb (signOnes 160).1 (fun _ => 0) 160 0 32 96 128 (by rw [x]; decide)
    (by rw [y]; decide)).2 keyMemory (fun _ => 0) 0 32 160 160 160 (by rw [secret]; decide) (by rw [secret]; decide)
    (.inl (by decide)) code hash rfl rfl (by rw [x,y]; exact shown)
  refine settled.mpr fun both => ?_
  rw [hash,secret] at both
  exact absurd both.1 (by decide)

/-- A signature of a hash of zeros that the standard accepts and the code refuses. -/
theorem verify_refuses_zero_hash : let m := (signOnes 64).1
    (signOnes 64).2 = 0 ∧
      Accepts (Octets.value (slice m 64 32)) (Octets.value (slice m 0 32)) (Octets.value (slice m 32 32))
      (Octets.value (slice m 96 32)) (Octets.value (slice m 128 32)) ∧
        p256_ecdsa_verify ladderTable m (fun _ => 0) 64 0 32 96 128 = false := by
  obtain ⟨code,r,s,changes⟩ := signOnes_writes 64 (by rw [keyMemory_reads.1.1]; decide)
  obtain ⟨x,y⟩ := signOnes_key changes
  have hash : slice (signOnes 64).1 64 32 = slice keyMemory 64 32 := changes.slice (by decide)
  have secret := keyMemory_reads.1.2
  have accepts := signed_accepts ladderTable_comb keyMemory (fun _ => 0) 0 32 64 160 160 (by rw [secret]; decide)
    (by rw [secret]; decide) (.inl (by decide)) (by rw [secret,one_nsmul]) code
  rw [coordinates_base,ZMod.val_cast_of_lt (by decide),ZMod.val_cast_of_lt (by decide),← signOnes,← hash,← x,
    ← y] at accepts
  refine ⟨code,accepts,?_⟩
  rw [Bool.eq_false_iff]
  intro yes
  have decides := verify_decides ladderTable_comb (signOnes 64).1 (fun _ => 0) 64 0 32 96 128 (by rw [x]; decide)
    (by rw [y]; decide)
  refine decides.mp ⟨fun _ => accepts,fun _ => yes⟩ ⟨?_,?_⟩
  · rw [hash,keyMemory_reads.1.1]
    exact dvd_zero _
  · rw [keyMemory_reads.1.1,Nat.zero_add] at s
    rw [r,s,x,y]
    exact misled_base

end Sarm.P256
