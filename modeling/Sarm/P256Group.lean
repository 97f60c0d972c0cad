import Mathlib.GroupTheory.OrderOfElement
import Sarm.P256Point

/-!
The base point of P-256 and its order, which a chain of doublings and additions of residues shows.
-/
namespace Sarm.P256
open Sarm.Words Sarm.Limbs Sarm.Jacobian WeierstrassCurve

def p256_gx : List Limb := [0xf4a13945d898c296,0x77037d812deb33a0,0xf8bce6e563a440f2,0x6b17d1f2e12c4247]

def p256_gy : List Limb := [0xcbb6406837bf51f5,0x2bce33576b315ece,0x8ee7eb4a7c0f9e16,0x4fe342e2fe1a7f9b]

/-! ### Points from coordinates -/

/-- Every solution of the equation is a point. -/
theorem nonsingular_of {x y : ZMod prime} (on : (curve (value p256_b : ZMod prime)).toAffine.Equation x y) :
    (curve (value p256_b : ZMod prime)).toAffine.Nonsingular x y := by
  refine (Affine.equation_iff_nonsingular_of_Δ_ne_zero ?_).mp on
  intro degenerate
  have same : (432 * value p256_b^2 : ZMod prime) = 1728 := by
    simp only [WeierstrassCurve.Δ,b₂,b₄,b₆,b₈,curve] at degenerate
    linear_combination -degenerate
  have residues : 432 * value p256_b^2 % prime = 1728 % prime := by
    refine (ZMod.natCast_eq_natCast_iff' _ _ _).mp ?_
    rw [Nat.cast_mul,Nat.cast_pow]
    exact_mod_cast same
  exact absurd residues (by decide +kernel)

theorem equation_of {X Y : Nat} (on : Y^2 % prime = (X^3 + (prime - 3) * X + value p256_b) % prime) :
    (curve (value p256_b : ZMod prime)).toAffine.Equation (X : ZMod prime) Y := by
  rw [equation_iff]
  have cast := (ZMod.natCast_eq_natCast_iff' _ _ _).mpr on
  rw [Nat.cast_pow,Nat.cast_add,Nat.cast_add,Nat.cast_pow,Nat.cast_mul,Nat.cast_sub (by decide),ZMod.natCast_self] at cast
  rw [cast,Nat.cast_ofNat]
  ring

theorem base_on : (curve (value p256_b : ZMod prime)).toAffine.Equation (value p256_gx : ZMod prime) (value p256_gy) :=
  equation_of (by decide +kernel)

/-- The base point. -/
def base : CurvePoint := .some _ _ (nonsingular_of base_on)

theorem base_ne_zero : base ≠ 0 := Affine.Point.some_ne_zero _

/-! ### Residues -/

/-- Coordinates as numbers. -/
structure Triple where
  X : Nat
  Y : Nat
  Z : Nat

def Triple.Stands (t : Triple) (P : CurvePoint) : Prop := Represents (t.X : ZMod prime) t.Y t.Z P

/-- A number that is congruent to the difference. -/
def less (a b : Nat) : Nat := a + (prime - b % prime)

theorem cast_less (a b : Nat) : (less a b : ZMod prime) = a - b := by
  rw [less,Nat.cast_add,Nat.cast_sub (Nat.mod_lt _ prime_pos).le,ZMod.natCast_self,ZMod.natCast_mod,zero_sub,
    sub_eq_add_neg]

def Triple.double (t : Triple) : Triple :=
  let delta := t.Z^2 % prime
  let gamma := t.Y^2 % prime
  let beta := t.X * gamma % prime
  let alpha := 3 * (less t.X delta * (t.X + delta)) % prime
  let X := less (alpha^2) (8 * beta) % prime
  ⟨X,less (alpha * less (4 * beta) X) (8 * gamma^2) % prime,less (less ((t.Y + t.Z)^2) gamma) delta % prime⟩

/-- Nothing where the formula is wrong. -/
def Triple.add (s t : Triple) : Option Triple :=
  let U := s.X * t.Z^2 % prime
  let U' := t.X * s.Z^2 % prime
  let S := s.Y * t.Z^3 % prime
  let H := less U' U % prime
  let r := less (t.Y * s.Z^3) S % prime
  let V := U * H^2 % prime
  let X := less (less (r^2) (H^3)) (2 * V) % prime
  if s.Z % prime = 0 ∨ t.Z % prime = 0 ∨ U = U' then none
  else some ⟨X,less (r * less V X) (S * H^3) % prime,H * s.Z * t.Z % prime⟩

theorem cast_eq_zero (a : Nat) : (a : ZMod prime) = 0 ↔ a % prime = 0 := by
  rw [ZMod.natCast_eq_zero_iff,Nat.dvd_iff_mod_eq_zero]

theorem Triple.Stands.double {t : Triple} {P : CurvePoint} (stands : t.Stands P) : t.double.Stands (P + P) := by
  have doubled := Represents.double two_ne_zero' stands
  simp only [Triple.Stands,Triple.double,ZMod.natCast_mod,cast_less,Nat.cast_mul,Nat.cast_add,Nat.cast_pow,Nat.cast_ofNat]
  exact doubled

theorem Triple.Stands.add {s t u : Triple} {P Q : CurvePoint} (stands : s.Stands P) (stands' : t.Stands Q)
    (sum : s.add t = some u) :
    u.Stands (P + Q) := by
  rw [Triple.add] at sum
  split at sum
  · cases sum
  next apart =>
  obtain ⟨finite,finite',distinct⟩ := not_or.mp apart |>.imp_right not_or.mp
  cases sum
  have added := Represents.add stands stands' (mt (cast_eq_zero _).mp finite) (mt (cast_eq_zero _).mp finite') ?_
  · simp only [Triple.Stands,ZMod.natCast_mod,cast_less,Nat.cast_mul,Nat.cast_pow,Nat.cast_ofNat]
    exact added
  · intro same
    refine distinct ((ZMod.natCast_eq_natCast_iff' _ _ _).mp ?_)
    push_cast
    exact same

/-- A doubling for each bit, and an addition if it is set. -/
def ladder (g : Triple) : List Bool → Triple → Option Triple
  | [],t => some t
  | bit :: bits,t => (if bit then t.double.add g else some t.double).bind (ladder g bits)

theorem ladder_stands {g : Triple} {G : CurvePoint} (stands : g.Stands G) (bits : List Bool) : ∀ {t u : Triple} {m : Nat},
    t.Stands (m • G) → ladder g bits t = some u → u.Stands (bits.foldl (fun m bit => 2 * m + bit.toNat) m • G) := by
  induction bits with
  | nil =>
    intro t u m stands done
    cases done
    exact stands
  | cons bit bits ih =>
    intro t u m multiple done
    rw [ladder,Option.bind_eq_some_iff] at done
    obtain ⟨v,next,rest⟩ := done
    refine ih ?_ rest
    have doubled := multiple.double
    rw [← add_nsmul,← two_mul] at doubled
    cases bit with
    | false =>
      cases next
      exact doubled
    | true =>
      have added := doubled.add stands next
      rwa [← succ_nsmul] at added

/-! ### The order -/

def baseTriple : Triple := ⟨value p256_gx,value p256_gy,1⟩

theorem base_stands : baseTriple.Stands base :=
  ⟨by rw [show baseTriple.Z = 1 from rfl,Nat.cast_one]; exact one_ne_zero,by simp [baseTriple],by simp [baseTriple]⟩

/-- The bits of `order - 1` under the first. -/
def orderBits : List Bool := (List.range 255).reverse.map fun i => (order - 1).testBit i

theorem orderBits_value : orderBits.foldl (fun m bit => 2 * m + bit.toNat) 1 = order - 1 := by decide +kernel

/-- Whether the coordinates are those of the opposite of the base point. -/
def opposite (t : Triple) : Bool :=
  t.Z % prime != 0 && t.X % prime == value p256_gx * t.Z^2 % prime && t.Y % prime == (prime - value p256_gy) *
    t.Z^3 % prime

theorem ladder_opposite : (ladder baseTriple orderBits baseTriple).any opposite = true := by decide +kernel

theorem opposite_stands {t : Triple} (same : opposite t = true) : t.Stands (-base) := by
  simp only [opposite,Bool.and_eq_true,bne_iff_ne,beq_iff_eq] at same
  obtain ⟨⟨finite,first⟩,second⟩ := same
  have first' := (ZMod.natCast_eq_natCast_iff' _ _ _).mpr first
  have second' := (ZMod.natCast_eq_natCast_iff' _ _ _).mpr second
  rw [Nat.cast_mul,Nat.cast_pow] at first' second'
  rw [Nat.cast_sub (by decide),ZMod.natCast_self,zero_sub] at second'
  rw [base,Affine.Point.neg_some]
  exact ⟨mt (cast_eq_zero _).mp finite,first',by rw [second',negY_eq]⟩

theorem order_nsmul_base : order • base = 0 := by
  obtain ⟨t,found,same⟩ := (Option.any_eq_true _ _).mp ladder_opposite
  have start : baseTriple.Stands (1 • base) := by
    rw [one_nsmul]
    exact base_stands
  have value := orderBits_value
  generalize orderBits = bits at found value
  have multiple := ladder_stands base_stands bits start found
  rw [value] at multiple
  have negative := opposite_stands same
  have last : (order - 1) • base = -base := multiple.unique negative
  have above : order = order - 1 + 1 := by decide
  calc order • base = (order - 1 + 1) • base := congrArg (· • base) above
    _ = (order - 1) • base + base := succ_nsmul _ _
    _ = 0 := by rw [last,neg_add_cancel]

theorem base_order : addOrderOf base = order := addOrderOf_eq_prime order_nsmul_base base_ne_zero

end Sarm.P256
