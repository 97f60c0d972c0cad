import Mathlib.Algebra.Polynomial.Monic
import Mathlib.Algebra.Field.ZMod
import Mathlib.RingTheory.AdjoinRoot
import Mathlib.Tactic.LinearCombination

/-!
Words as polynomials with binary coefficients: bit `i` from the right is the coefficient
of the `i`-th power. The exclusive or is the sum and the carry-less product is the product.
Words of `w` bits stand for the residues modulo `x^w + r`, each residue once.
-/
namespace Sarm.CarryLess
open Polynomial

/-- The polynomial of a word. -/
noncomputable def poly {w : Nat} (v : BitVec w) : (ZMod 2)[X] :=
  ∑ i ∈ Finset.range w, if v.getLsbD i then X ^ i else 0

section
variable {w : Nat}

@[simp] theorem coeff_poly (v : BitVec w) (d : Nat) : (poly v).coeff d = if v.getLsbD d then 1 else 0 := by
  have term (i : Nat) : (if v.getLsbD i then (X : (ZMod 2)[X]) ^ i else 0).coeff d =
      if i = d then (if v.getLsbD d then 1 else 0) else 0 := by
    by_cases same : i = d
    · subst same
      split <;> simp
    · split <;> simp [coeff_X_pow,Ne.symm same]
  rw [poly,finsetSum_coeff,Finset.sum_congr rfl (fun i _ => term i),Finset.sum_ite_eq']
  by_cases inside : d < w
  · simp [inside]
  · simp [inside,BitVec.getLsbD_of_ge v d (by omega)]

theorem poly_xor (a b : BitVec w) : poly (a ^^^ b) = poly a + poly b := by
  ext d
  rw [coeff_add,coeff_poly,coeff_poly,coeff_poly,BitVec.getLsbD_xor]
  cases a.getLsbD d <;> cases b.getLsbD d <;> decide

@[simp] theorem poly_zero : poly (0#w) = 0 := by
  ext d
  simp

theorem poly_injective : Function.Injective (poly (w := w)) := by
  intro a b same
  apply BitVec.eq_of_getLsbD_eq
  intro i _
  have coeffs := congrArg (fun p => p.coeff i) same
  rw [coeff_poly,coeff_poly] at coeffs
  cases first : a.getLsbD i <;> cases second : b.getLsbD i <;> simp [first,second] at coeffs ⊢

theorem degree_poly_lt (v : BitVec w) : (poly v).degree < w := by
  rw [degree_lt_iff_coeff_zero]
  intro d outside
  rw [coeff_poly,BitVec.getLsbD_of_ge v d outside]
  rfl

/-- A word moved up within a wider one. -/
theorem poly_shiftLeft {n : Nat} (v : BitVec n) {k : Nat} (fits : n + k ≤ w) :
    poly (v.setWidth w <<< k) = X ^ k * poly v := by
  ext d
  rw [coeff_poly,coeff_X_pow_mul',coeff_poly,BitVec.getLsbD_shiftLeft,BitVec.getLsbD_setWidth]
  by_cases low : d < k
  · simp [low,show ¬ k ≤ d by omega]
  · by_cases high : d < w
    · simp [low,high,show k ≤ d by omega,show d - k < w by omega]
    · simp [high,BitVec.getLsbD_of_ge v (d - k) (by omega)]

theorem poly_append {n : Nat} (hi : BitVec n) (lo : BitVec w) : poly (hi ++ lo) = poly lo + X ^ w * poly hi := by
  ext d
  rw [coeff_add,coeff_X_pow_mul',coeff_poly,coeff_poly,coeff_poly,BitVec.getLsbD_append]
  by_cases low : d < w
  · simp [low,show ¬ w ≤ d by omega]
  · simp [low,show w ≤ d by omega]

end

/-! ### The carry-less product -/

section
variable {n m : Nat}

/-- The sum of `b` moved up by each set bit of `a` below `k`. -/
def clmulBelow (a : BitVec n) (b : BitVec m) : Nat → BitVec (n + m)
  | 0 => 0
  | k+1 => if a.getLsbD k then clmulBelow a b k ^^^ (b.setWidth (n + m) <<< k) else clmulBelow a b k

/-- The product without carries. -/
def clmul (a : BitVec n) (b : BitVec m) : BitVec (n + m) := clmulBelow a b n

theorem poly_clmulBelow (a : BitVec n) (b : BitVec m) {k : Nat} (inside : k ≤ n) :
    poly (clmulBelow a b k) = (∑ i ∈ Finset.range k, if a.getLsbD i then X ^ i else 0) * poly b := by
  induction k with
  | zero => rw [clmulBelow,Finset.sum_range_zero,zero_mul]; exact poly_zero
  | succ k ih =>
    rw [clmulBelow,Finset.sum_range_succ,add_mul]
    split
    · rw [poly_xor,ih (by omega),poly_shiftLeft b (by omega)]
    · rw [ih (by omega),zero_mul,add_zero]

theorem poly_clmul (a : BitVec n) (b : BitVec m) : poly (clmul a b) = poly a * poly b :=
  poly_clmulBelow a b le_rfl

end

/-! ### Residues -/

section
variable {w : Nat} (r : BitVec w)

/-- `x^w + r`. -/
noncomputable def modulus : (ZMod 2)[X] := X ^ w + poly r

theorem modulus_monic : (modulus r).Monic := monic_X_pow_add (degree_poly_lt r)

theorem modulus_degree : (modulus r).degree = w := by
  rw [modulus,add_comm,degree_add_eq_right_of_degree_lt ((degree_poly_lt r).trans_eq (degree_X_pow w).symm),degree_X_pow]

/-- The residue of a word. -/
noncomputable def residue {n : Nat} (v : BitVec n) : AdjoinRoot (modulus r) := AdjoinRoot.mk (modulus r) (poly v)

theorem residue_injective : Function.Injective (residue r (n := w)) := by
  intro a b same
  apply poly_injective
  rw [residue,residue,AdjoinRoot.mk_eq_mk] at same
  refine sub_eq_zero.mp (by_contra fun apart => (modulus_monic r).not_dvd_of_degree_lt apart ?_ same)
  rw [modulus_degree]
  exact (degree_sub_le _ _).trans_lt (max_lt (degree_poly_lt a) (degree_poly_lt b))

variable {n m : Nat}

theorem residue_xor (a b : BitVec n) : residue r (a ^^^ b) = residue r a + residue r b := by
  rw [residue,poly_xor,map_add]
  rfl

@[simp] theorem residue_zero : residue r (0#n) = 0 := by
  rw [residue,poly_zero,map_zero]

theorem residue_clmul (a : BitVec n) (b : BitVec m) : residue r (clmul a b) = residue r a * residue r b := by
  rw [residue,poly_clmul,map_mul]
  rfl

theorem residue_append (hi : BitVec n) (lo : BitVec m) :
    residue r (hi ++ lo) = residue r lo + AdjoinRoot.root (modulus r) ^ m * residue r hi := by
  rw [residue,poly_append,map_add,map_mul,map_pow,AdjoinRoot.mk_X]
  rfl

/-- Twice anything is nothing. -/
theorem residue_two : (2 : AdjoinRoot (modulus r)) = 0 := by
  rw [← map_ofNat (AdjoinRoot.of (modulus r)) 2,show (OfNat.ofNat 2 : ZMod 2) = 0 from rfl,map_zero]

/-- The power past the top is `r`. -/
theorem root_pow : AdjoinRoot.root (modulus r) ^ w = residue r r := by
  have whole : AdjoinRoot.root (modulus r) ^ w + residue r r = 0 := by
    rw [residue,← AdjoinRoot.mk_X,← map_pow,← map_add]
    exact AdjoinRoot.mk_self
  linear_combination whole - residue r r * residue_two r

/-- Times `x`. -/
def timesX (v : BitVec w) : BitVec w := if v.msb then v <<< 1 ^^^ r else v <<< 1

theorem poly_timesX (v : BitVec w) : X * poly v = poly (v <<< 1) + if v.msb then X ^ w else 0 := by
  ext d
  have top : (if v.msb then (X : (ZMod 2)[X]) ^ w else 0).coeff d = if v.msb ∧ d = w then 1 else 0 := by
    by_cases high : v.msb <;> simp [high,coeff_X_pow]
  rw [coeff_add,top,coeff_poly,BitVec.getLsbD_shiftLeft]
  cases d with
  | zero =>
    cases w with
    | zero => simp [BitVec.msb]
    | succ w => simp
  | succ d =>
    rw [coeff_X_mul,coeff_poly]
    by_cases inside : d + 1 < w
    · simp [inside,show d + 1 ≠ w by omega]
    · by_cases last : d + 1 = w
      · subst last
        simp [BitVec.msb_eq_getLsbD_last]
      · simp [inside,last,BitVec.getLsbD_of_ge v d (by omega)]

theorem residue_timesX (v : BitVec w) : residue r (timesX r v) = AdjoinRoot.root (modulus r) * residue r v := by
  have shifted : AdjoinRoot.root (modulus r) * residue r v =
      residue r (v <<< 1) + if v.msb then AdjoinRoot.root (modulus r) ^ w else 0 := by
    rw [residue,← AdjoinRoot.mk_X,← map_mul,poly_timesX,map_add]
    split
    · rw [map_pow]
      rfl
    · rw [map_zero]
      rfl
  rw [shifted,timesX]
  split
  · rw [residue_xor,root_pow]
  · rw [add_zero]

/-- Bit by bit: the multiples of `b` by the powers of `x`, added where `a` has a bit. -/
def serialBelow (a : BitVec n) (b : BitVec w) : Nat → BitVec w × BitVec w
  | 0 => (0,b)
  | k+1 =>
    let sum := serialBelow a b k
    (if a.getLsbD k then sum.1 ^^^ sum.2 else sum.1,timesX r sum.2)

theorem residue_serialBelow (a : BitVec n) (b : BitVec w) (k : Nat) :
    residue r (serialBelow r a b k).1 =
        (∑ i ∈ Finset.range k, if a.getLsbD i then AdjoinRoot.root (modulus r) ^ i else 0) * residue r b ∧
      residue r (serialBelow r a b k).2 = AdjoinRoot.root (modulus r) ^ k * residue r b := by
  induction k with
  | zero => simp [serialBelow]
  | succ k ih =>
    obtain ⟨sum,multiple⟩ := ih
    refine ⟨?_,?_⟩
    · rw [Finset.sum_range_succ,add_mul,← sum]
      simp only [serialBelow]
      split
      · rw [residue_xor,multiple]
      · rw [zero_mul,add_zero]
    · simp only [serialBelow]
      rw [residue_timesX,multiple,pow_succ']
      ring

/-- A residue as the powers of `x` its bits select. -/
theorem residue_powers (a : BitVec n) :
    residue r a = ∑ i ∈ Finset.range n, if a.getLsbD i then AdjoinRoot.root (modulus r) ^ i else 0 := by
  rw [residue,poly,map_sum]
  refine Finset.sum_congr rfl fun i _ => ?_
  split
  · rw [map_pow,AdjoinRoot.mk_X]
  · rw [map_zero]

/-- The serial product is the product of the residues. -/
theorem residue_serial (a : BitVec n) (b : BitVec w) :
    residue r (serialBelow r a b n).1 = residue r a * residue r b := by
  rw [(residue_serialBelow r a b n).1,← residue_powers]

end

end Sarm.CarryLess
