import Mathlib.Data.ZMod.Basic
import Mathlib.Tactic.LinearCombination
import Sarm.Limbs

/-!
Numbers modulo 2^255 - 19 in five limbs of 51 bits: sums are not carried, and products leave limbs
that are hardly longer than 51 bits.
-/
namespace Sarm.X25519
open Sarm.Limbs (Limb)

/-! ### The code -/

structure Fe where
  l0 : Limb
  l1 : Limb
  l2 : Limb
  l3 : Limb
  l4 : Limb
deriving DecidableEq

/-- `x25519_m51`. -/
def m51 : Limb := 0x7FFFFFFFFFFFF

def x25519_fe_add (a b : Fe) : Fe := ⟨a.l0 + b.l0,a.l1 + b.l1,a.l2 + b.l2,a.l3 + b.l3,a.l4 + b.l4⟩

def x25519_fe_sub (a b : Fe) : Fe :=
  let x13 : Limb := 0x3FFFFFFFFFFF68
  let x14 : Limb := 0x3FFFFFFFFFFFF8
  ⟨a.l0 - b.l0 + x13,a.l1 - b.l1 + x14,a.l2 - b.l2 + x14,a.l3 - b.l3 + x14,a.l4 - b.l4 + x14⟩

/-- `mul` and `umulh`, into a pair of registers. -/
def product (a b : Limb) : BitVec 128 := a.setWidth 128 * b.setWidth 128

/-- What is above the digit in a pair of registers. -/
def carry (t : BitVec 128) : Limb := (t >>> 51).setWidth 64

def digit (t : BitVec 128) : Limb := t.setWidth 64 &&& m51

/-- `carry128_out` from each column into the next one, and the last carry into the first digit. -/
def carryColumns (t0 t1 t2 t3 t4 : BitVec 128) : Fe :=
  let t1 := t1 + (carry t0).setWidth 128
  let t2 := t2 + (carry t1).setWidth 128
  let t3 := t3 + (carry t2).setWidth 128
  let t4 := t4 + (carry t3).setWidth 128
  let r0 := digit t0 + carry t4 * 19
  ⟨r0 &&& m51,digit t1 + r0 >>> 51,digit t2,digit t3,digit t4⟩

/-- The limbs of the second factor are multiplied by 19 for what falls above the last column. -/
def x25519_fe_mul (s r : Fe) : Fe :=
  let t0 := product r.l0 s.l0
  let t1 := product r.l0 s.l1 + product r.l1 s.l0
  let t2 := product r.l0 s.l2 + product r.l2 s.l0 + product r.l1 s.l1
  let t3 := product r.l0 s.l3 + product r.l3 s.l0 + product r.l1 s.l2 + product r.l2 s.l1
  let t4 := product r.l0 s.l4 + product r.l4 s.l0 + product r.l3 s.l1 + product r.l1 s.l3 + product r.l2 s.l2
  let r1 := r.l1 * 19
  let r2 := r.l2 * 19
  let r3 := r.l3 * 19
  let r4 := r.l4 * 19
  let t0 := t0 + product r4 s.l1 + product r1 s.l4 + product r2 s.l3 + product r3 s.l2
  let t1 := t1 + product r4 s.l2 + product r2 s.l4 + product r3 s.l3
  let t2 := t2 + product r4 s.l3 + product r3 s.l4
  let t3 := t3 + product r4 s.l4
  carryColumns t0 t1 t2 t3 t4

/-- `.Lx25519_sqr_loop`. -/
def sqrOnce (r : Fe) : Fe :=
  let d0 := r.l0 <<< 1
  let d1 := r.l1 <<< 1
  let d2 := (r.l2 * 19) <<< 1
  let d4 := (r.l4 * 19) <<< 1
  let t0 := product r.l0 r.l0 + product d4 r.l1 + product d2 r.l3
  let t1 := product d0 r.l1 + product d4 r.l2 + product r.l3 (r.l3 * 19)
  let t2 := product d0 r.l2 + product r.l1 r.l1 + product d4 r.l3
  let t3 := product d0 r.l3 + product d1 r.l2 + product r.l4 (r.l4 * 19)
  let t4 := product d0 r.l4 + product d1 r.l3 + product r.l2 r.l2
  carryColumns t0 t1 t2 t3 t4

def x25519_fe_sqr_times (r : Fe) : Nat → Fe
  | 0 => r
  | count+1 => x25519_fe_sqr_times (sqrOnce r) count

def x25519_fe_sqr (r : Fe) : Fe := x25519_fe_sqr_times r 1

/-- The last carry is added to the first limb and stays there. -/
def x25519_fe_scalar_product (a : Fe) (scalar : Limb) : Fe :=
  let t0 := product a.l0 scalar
  let t1 := product a.l1 scalar + (carry t0).setWidth 128
  let t2 := product a.l2 scalar + (carry t1).setWidth 128
  let t3 := product a.l3 scalar + (carry t2).setWidth 128
  let t4 := product a.l4 scalar + (carry t3).setWidth 128
  ⟨digit t0 + carry t4 * 19,digit t1,digit t2,digit t3,digit t4⟩

/-! ### Residues -/

def prime : Nat := 2^255 - 19

def Fe.value (a : Fe) : Nat :=
  a.l0.toNat + 2^51 * a.l1.toNat + 2^102 * a.l2.toNat + 2^153 * a.l3.toNat + 2^204 * a.l4.toNat

/-- No limb reaches the bound. -/
structure Below (bound : Nat) (a : Fe) : Prop where
  l0 : a.l0.toNat < bound
  l1 : a.l1.toNat < bound
  l2 : a.l2.toNat < bound
  l3 : a.l3.toNat < bound
  l4 : a.l4.toNat < bound

/-- What products leave. -/
def tight : Nat := 2^51 + 2^25

/-- What one sum or difference makes of that. -/
def loose : Nat := 2^54 + 2^51 + 2^25

/-- Limbs below a bound, and the residue that they are. -/
structure Holds (bound : Nat) (a : Fe) (x : ZMod prime) : Prop where
  below : Below bound a
  same : (a.value : ZMod prime) = x

theorem Below.mono {n k : Nat} {a : Fe} (below : Below n a) (le : n ≤ k) : Below k a :=
  ⟨below.l0.trans_le le,below.l1.trans_le le,below.l2.trans_le le,below.l3.trans_le le,below.l4.trans_le le⟩

theorem cast_pow255 : (2 : ZMod prime)^255 = 19 := by
  have same : ((2^255 : Nat) : ZMod prime) = (19 : Nat) := (ZMod.natCast_eq_natCast_iff' _ _ _).mpr (by decide)
  rwa [Nat.cast_pow,Nat.cast_ofNat,Nat.cast_ofNat] at same

/-- Numbers that differ by a multiple of the modulus. -/
theorem cast_add_multiple {m n : Nat} (c : Nat) (same : m + prime * c = n) : (m : ZMod prime) = n := by
  rw [← same,Nat.cast_add,Nat.cast_mul,ZMod.natCast_self,zero_mul,add_zero]

section
variable {n : Nat} {a b : Fe} {x y : ZMod prime}

theorem Holds.of_eq (holds : Holds n a x) (same : x = y) : Holds n a y := same ▸ holds

theorem Holds.loosen (holds : Holds tight a x) : Holds loose a x := ⟨holds.below.mono (by decide),holds.same⟩

theorem Holds.add (first : Holds tight a x) (second : Holds tight b y) : Holds loose (x25519_fe_add a b) (x + y) := by
  obtain ⟨a0,a1,a2,a3,a4⟩ := first.below
  obtain ⟨b0,b1,b2,b3,b4⟩ := second.below
  have sum (u v : Limb) (small : u.toNat < tight) (small' : v.toNat < tight) : (u + v).toNat = u.toNat + v.toNat := by
    rw [tight] at small small'
    rw [BitVec.toNat_add,Nat.mod_eq_of_lt (by omega)]
  have s0 := sum _ _ a0 b0
  have s1 := sum _ _ a1 b1
  have s2 := sum _ _ a2 b2
  have s3 := sum _ _ a3 b3
  have s4 := sum _ _ a4 b4
  refine ⟨⟨?_,?_,?_,?_,?_⟩,?_⟩
  any_goals
    rw [tight] at *
    simp only [x25519_fe_add,loose,s0,s1,s2,s3,s4]
    omega
  rw [← first.same,← second.same,← Nat.cast_add]
  congr 1
  simp only [Fe.value,x25519_fe_add,s0,s1,s2,s3,s4]
  ring

/-- What is added to a difference is eight times the modulus. -/
theorem Holds.sub (first : Holds tight a x) (second : Holds tight b y) : Holds loose (x25519_fe_sub a b) (x - y) := by
  obtain ⟨a0,a1,a2,a3,a4⟩ := first.below
  obtain ⟨b0,b1,b2,b3,b4⟩ := second.below
  have difference (u v k : Limb) (small : u.toNat < tight) (small' : v.toNat < tight) (low : tight ≤ k.toNat)
      (high : k.toNat < 2^54) : (u - v + k).toNat = u.toNat + k.toNat - v.toNat := by
    rw [tight] at small small' low
    rw [BitVec.toNat_add,BitVec.toNat_sub]
    omega
  have s0 := difference _ _ 0x3FFFFFFFFFFF68 a0 b0 (by decide) (by decide)
  have s1 := difference _ _ 0x3FFFFFFFFFFFF8 a1 b1 (by decide) (by decide)
  have s2 := difference _ _ 0x3FFFFFFFFFFFF8 a2 b2 (by decide) (by decide)
  have s3 := difference _ _ 0x3FFFFFFFFFFFF8 a3 b3 (by decide) (by decide)
  have s4 := difference _ _ 0x3FFFFFFFFFFFF8 a4 b4 (by decide) (by decide)
  have k0 : (0x3FFFFFFFFFFF68 : Limb).toNat = 0x3FFFFFFFFFFF68 := rfl
  have k1 : (0x3FFFFFFFFFFFF8 : Limb).toNat = 0x3FFFFFFFFFFFF8 := rfl
  rw [k0] at s0
  rw [k1] at s1 s2 s3 s4
  rw [tight] at *
  refine ⟨⟨?_,?_,?_,?_,?_⟩,?_⟩
  any_goals
    simp only [x25519_fe_sub,loose,s0,s1,s2,s3,s4]
    omega
  have total : (x25519_fe_sub a b).value + b.value = a.value + prime * 8 := by
    simp only [Fe.value,x25519_fe_sub,s0,s1,s2,s3,s4,prime]
    omega
  have cast := congrArg (Nat.cast : Nat → ZMod prime) total
  rw [Nat.cast_add,Nat.cast_add,Nat.cast_mul,ZMod.natCast_self,zero_mul,add_zero,first.same,second.same] at cast
  exact eq_sub_of_add_eq cast

end

/-! ### Carries -/

theorem m51_toNat : m51.toNat = 2^51 - 1 := rfl

theorem and_m51 (u : Limb) : (u &&& m51).toNat = u.toNat % 2^51 := by
  rw [BitVec.toNat_and,m51_toNat,Nat.and_two_pow_sub_one_eq_mod]

theorem digit_toNat (t : BitVec 128) : (digit t).toNat = t.toNat % 2^51 := by
  rw [digit,and_m51,BitVec.toNat_setWidth,Nat.mod_mod_of_dvd _ (by decide)]

theorem carry_toNat {t : BitVec 128} (small : t.toNat < 2^115) : (carry t).toNat = t.toNat / 2^51 := by
  rw [carry,BitVec.toNat_setWidth,BitVec.toNat_ushiftRight,Nat.shiftRight_eq_div_pow,Nat.mod_eq_of_lt (by omega)]

/-- A column takes the carry of the one before. -/
theorem carried_toNat (t t' : BitVec 128) (small : t.toNat < 2^115) (small' : t'.toNat < 2^115) :
    (t' + (carry t).setWidth 128).toNat = t'.toNat + t.toNat / 2^51 := by
  have high : t.toNat / 2^51 < 2^64 := by omega
  rw [BitVec.toNat_add,BitVec.toNat_setWidth,carry_toNat small,Nat.mod_eq_of_lt (b := 2^128) (by omega),
    Nat.mod_eq_of_lt (by omega)]

theorem product_toNat (a b : Limb) : (product a b).toNat = a.toNat * b.toNat := by
  have small := a.isLt
  have small' := b.isLt
  have whole : a.toNat * b.toNat < 2^64 * 2^64 := Nat.mul_lt_mul'' small small'
  rw [product,BitVec.toNat_mul,BitVec.toNat_setWidth,BitVec.toNat_setWidth,Nat.mod_eq_of_lt (a := a.toNat) (by omega),
    Nat.mod_eq_of_lt (a := b.toNat) (by omega),Nat.mod_eq_of_lt (by omega)]

/-- Columns with room for the carries into them. -/
structure Columns (t0 t1 t2 t3 t4 : BitVec 128) : Prop where
  t0 : t0.toNat < 2^115 - 2^64
  t1 : t1.toNat < 2^115 - 2^64
  t2 : t2.toNat < 2^115 - 2^64
  t3 : t3.toNat < 2^115 - 2^64
  t4 : t4.toNat < 406 * 2^102

/-- The digits, and the carry out of the last column. -/
theorem carries {t0 t1 t2 t3 t4 : BitVec 128} (columns : Columns t0 t1 t2 t3 t4) :
    let v1 := t1 + (carry t0).setWidth 128
    let v2 := t2 + (carry v1).setWidth 128
    let v3 := t3 + (carry v2).setWidth 128
    let v4 := t4 + (carry v3).setWidth 128
    Below (2^51) ⟨digit t0,digit v1,digit v2,digit v3,digit v4⟩ ∧ 2^51 * (carry v4).toNat ≤ t4.toNat + 2^64 ∧
    Fe.value ⟨digit t0,digit v1,digit v2,digit v3,digit v4⟩ + 2^255 * (carry v4).toNat =
      t0.toNat + 2^51 * t1.toNat + 2^102 * t2.toNat + 2^153 * t3.toNat + 2^204 * t4.toNat := by
  intro v1 v2 v3 v4
  obtain ⟨small0,small1,small2,small3,small4⟩ := columns
  have u1 : v1.toNat = _ := carried_toNat t0 t1 (by omega) (by omega)
  have u2 : v2.toNat = _ := carried_toNat v1 t2 (by omega) (by omega)
  have u3 : v3.toNat = _ := carried_toNat v2 t3 (by omega) (by omega)
  have u4 : v4.toNat = _ := carried_toNat v3 t4 (by omega) (by omega)
  have out := carry_toNat (t := v4) (by omega)
  have mask (t : BitVec 128) : (digit t).toNat < 2^51 := (digit_toNat t).trans_lt (Nat.mod_lt _ (by decide))
  refine ⟨⟨mask t0,mask v1,mask v2,mask v3,mask v4⟩,by omega,?_⟩
  simp only [Fe.value,digit_toNat,out]
  omega

theorem carryColumns_spec {t0 t1 t2 t3 t4 : BitVec 128} (columns : Columns t0 t1 t2 t3 t4) :
    Below tight (carryColumns t0 t1 t2 t3 t4) ∧
    ∃ c, (carryColumns t0 t1 t2 t3 t4).value + prime * c =
      t0.toNat + 2^51 * t1.toNat + 2^102 * t2.toNat + 2^153 * t3.toNat + 2^204 * t4.toNat := by
  have small := columns.t4
  obtain ⟨below,high,total⟩ := carries columns
  rw [carryColumns]
  rw [← total]
  generalize t1 + (carry t0).setWidth 128 = v1 at *
  generalize t2 + (carry v1).setWidth 128 = v2 at *
  generalize t3 + (carry v2).setWidth 128 = v3 at *
  generalize t4 + (carry v3).setWidth 128 = v4 at *
  obtain ⟨d0,d1,d2,d3,d4⟩ := below
  dsimp only at d0 d1 d2 d3 d4
  have r0 : (digit t0 + carry v4 * 19).toNat = (digit t0).toNat + (carry v4).toNat * 19 := by
    rw [BitVec.toNat_add,BitVec.toNat_mul,show (19 : Limb).toNat = 19 from rfl]
    omega
  have l0 := and_m51 (digit t0 + carry v4 * 19)
  have l1 : (digit v1 + (digit t0 + carry v4 * 19) >>> 51).toNat =
      (digit v1).toNat + ((digit t0).toNat + (carry v4).toNat * 19) / 2^51 := by
    rw [BitVec.toNat_add,BitVec.toNat_ushiftRight,Nat.shiftRight_eq_div_pow,r0]
    omega
  rw [r0] at l0
  refine ⟨⟨?_,?_,?_,?_,?_⟩,(carry v4).toNat,?_⟩
  any_goals
    simp only [l0,l1,tight]
    omega
  simp only [Fe.value,l0,l1,prime]
  omega

/-! ### Products -/

/-- A sum of `n` products at most, and what it is. -/
structure Column (t : BitVec 128) (n v : Nat) : Prop where
  same : t.toNat = v
  le : v ≤ n * (loose * loose)

theorem Column.add {t t' : BitVec 128} {n n' v v' : Nat} (first : Column t n v) (second : Column t' n' v')
    (room : n + n' ≤ 77 := by decide) : Column (t + t') (n + n') (v + v') := by
  obtain ⟨same,le⟩ := first
  obtain ⟨same',le'⟩ := second
  have sum : v + v' ≤ (n + n') * (loose * loose) := by
    rw [Nat.add_mul]
    exact Nat.add_le_add le le'
  have most : (n + n') * (loose * loose) ≤ 77 * (loose * loose) := Nat.mul_le_mul_right _ room
  refine ⟨?_,sum⟩
  rw [loose] at *
  rw [BitVec.toNat_add,same,same',Nat.mod_eq_of_lt (by omega)]

theorem Column.small {t : BitVec 128} {n v : Nat} (column : Column t n v) (room : n ≤ 77) :
    t.toNat < 2^115 - 2^64 := by
  have most : v ≤ 77 * (loose * loose) := column.le.trans (Nat.mul_le_mul_right _ room)
  rw [column.same]
  rw [loose] at most
  omega

/-- Columns of so few products have room for the carries. -/
theorem columns_room {t0 t1 t2 t3 t4 : BitVec 128} {n0 n1 n2 n3 v0 v1 v2 v3 v4 : Nat} (c0 : Column t0 n0 v0)
    (c1 : Column t1 n1 v1) (c2 : Column t2 n2 v2) (c3 : Column t3 n3 v3) (c4 : Column t4 5 v4)
    (room : (n0 ≤ 77 ∧ n1 ≤ 77) ∧ (n2 ≤ 77 ∧ n3 ≤ 77)) : Columns t0 t1 t2 t3 t4 := by
  refine ⟨c0.small room.1.1,c1.small room.1.2,c2.small room.2.1,c3.small room.2.2,?_⟩
  have most := c4.le
  rw [loose] at most
  rw [c4.same]
  omega

/-- The columns are digits of the number that is carried. -/
theorem carryColumns_holds {t0 t1 t2 t3 t4 : BitVec 128} {n0 n1 n2 n3 v0 v1 v2 v3 v4 : Nat} (c0 : Column t0 n0 v0)
    (c1 : Column t1 n1 v1) (c2 : Column t2 n2 v2) (c3 : Column t3 n3 v3) (c4 : Column t4 5 v4)
    (room : (n0 ≤ 77 ∧ n1 ≤ 77) ∧ (n2 ≤ 77 ∧ n3 ≤ 77)) :
    Holds tight (carryColumns t0 t1 t2 t3 t4) (v0 + 2^51 * v1 + 2^102 * v2 + 2^153 * v3 + 2^204 * v4) := by
  obtain ⟨below,c,total⟩ := carryColumns_spec (columns_room c0 c1 c2 c3 c4 room)
  rw [c0.same,c1.same,c2.same,c3.same,c4.same] at total
  refine ⟨below,(cast_add_multiple c total).trans ?_⟩
  push_cast
  rfl

/-- A product with a multiple of a limb. -/
theorem Column.scaled {a b u : Limb} {k : Nat} (first : a.toNat < loose) (second : b.toNat < loose)
    (multiple : u.toNat = k * a.toNat) : Column (product u b) k (k * (a.toNat * b.toNat)) := by
  refine ⟨?_,Nat.mul_le_mul_left _ (Nat.mul_le_mul first.le second.le)⟩
  rw [product_toNat,multiple,Nat.mul_assoc]

theorem Column.product {a b : Limb} (first : a.toNat < loose) (second : b.toNat < loose) :
    Column (product a b) 1 (a.toNat * b.toNat) := by
  have once := Column.scaled (u := a) (k := 1) first second (Nat.one_mul _).symm
  rwa [Nat.one_mul] at once

theorem Column.scaled' {a b u : Limb} {k : Nat} (first : a.toNat < loose) (second : b.toNat < loose)
    (multiple : u.toNat = k * b.toNat) : Column (X25519.product a u) k (k * (a.toNat * b.toNat)) := by
  have other := Column.scaled second first multiple
  rwa [X25519.product,BitVec.mul_comm,Nat.mul_comm b.toNat] at other

theorem times19 {a : Limb} (small : a.toNat < loose) : (a * 19).toNat = 19 * a.toNat := by
  rw [loose] at small
  rw [BitVec.toNat_mul,show (19 : Limb).toNat = 19 from rfl]
  omega

theorem doubled {a : Limb} {n : Nat} (same : a.toNat = n) (small : n < 2^63) : (a <<< 1).toNat = 2 * n := by
  rw [BitVec.toNat_shiftLeft,same,Nat.shiftLeft_eq]
  omega

section
variable {a b : Fe} {x y : ZMod prime}

theorem Holds.mul (first : Holds loose a x) (second : Holds loose b y) : Holds tight (x25519_fe_mul a b) (x * y) := by
  obtain ⟨a0,a1,a2,a3,a4⟩ := first.below
  obtain ⟨b0,b1,b2,b3,b4⟩ := second.below
  have n1 := times19 b1
  have n2 := times19 b2
  have n3 := times19 b3
  have n4 := times19 b4
  have t0 := (((Column.product b0 a0).add (.scaled b4 a1 n4)).add (.scaled b1 a4 n1)).add (.scaled b2 a3 n2)
    |>.add (.scaled b3 a2 n3)
  have t1 := (((Column.product b0 a1).add (.product b1 a0)).add (.scaled b4 a2 n4)).add (.scaled b2 a4 n2)
    |>.add (.scaled b3 a3 n3)
  have t2 := (((Column.product b0 a2).add (.product b2 a0)).add (.product b1 a1)).add (.scaled b4 a3 n4)
    |>.add (.scaled b3 a4 n3)
  have t3 := (((Column.product b0 a3).add (.product b3 a0)).add (.product b1 a2)).add (.product b2 a1)
    |>.add (.scaled b4 a4 n4)
  have t4 := (((Column.product b0 a4).add (.product b4 a0)).add (.product b3 a1)).add (.product b1 a3)
    |>.add (.product b2 a2)
  refine (carryColumns_holds t0 t1 t2 t3 t4 (by decide)).of_eq ?_
  rw [← first.same,← second.same,Fe.value,Fe.value]
  push_cast
  linear_combination -((b.l4.toNat : ZMod prime) * a.l1.toNat + b.l1.toNat * a.l4.toNat + b.l2.toNat * a.l3.toNat +
    b.l3.toNat * a.l2.toNat + 2^51 * (b.l4.toNat * a.l2.toNat + b.l2.toNat * a.l4.toNat + b.l3.toNat * a.l3.toNat) +
    2^102 * (b.l4.toNat * a.l3.toNat + b.l3.toNat * a.l4.toNat) + 2^153 * (b.l4.toNat * a.l4.toNat)) * cast_pow255

theorem sqrOnce_holds (holds : Holds loose a x) : Holds tight (sqrOnce a) (x * x) := by
  obtain ⟨a0,a1,a2,a3,a4⟩ := holds.below
  have d0 := doubled (a := a.l0) rfl (a0.trans (by decide))
  have d1 := doubled (a := a.l1) rfl (a1.trans (by decide))
  have n2 := times19 a2
  have n3 := times19 a3
  have n4 := times19 a4
  have twice (u : Limb) (small : u.toNat < loose) (same : (u * 19).toNat = 19 * u.toNat) :
      ((u * 19) <<< 1).toNat = 38 * u.toNat := by
    rw [loose] at small
    rw [doubled same (by omega)]
    omega
  have d2 := twice _ a2 n2
  have d4 := twice _ a4 n4
  have t0 := ((Column.product a0 a0).add (.scaled a4 a1 d4)).add (.scaled a2 a3 d2)
  have t1 := ((Column.scaled a0 a1 d0).add (.scaled a4 a2 d4)).add (.scaled' a3 a3 n3)
  have t2 := ((Column.scaled a0 a2 d0).add (.product a1 a1)).add (.scaled a4 a3 d4)
  have t3 := ((Column.scaled a0 a3 d0).add (.scaled a1 a2 d1)).add (.scaled' a4 a4 n4)
  have t4 := ((Column.scaled a0 a4 d0).add (.scaled a1 a3 d1)).add (.product a2 a2)
  refine (carryColumns_holds t0 t1 t2 t3 t4 (by decide)).of_eq ?_
  rw [← holds.same,Fe.value]
  push_cast
  linear_combination -((2 : ZMod prime) * a.l1.toNat * a.l4.toNat + 2 * a.l2.toNat * a.l3.toNat +
    2^51 * (2 * a.l2.toNat * a.l4.toNat + a.l3.toNat * a.l3.toNat) +
    2^102 * (2 * a.l3.toNat * a.l4.toNat) + 2^153 * (a.l4.toNat * a.l4.toNat)) * cast_pow255

theorem Holds.sqr_times (holds : Holds loose a x) (count : Nat) :
    Holds tight (x25519_fe_sqr_times a (count + 1)) (x^2^(count + 1)) := by
  induction count generalizing a x with
  | zero => exact (sqrOnce_holds holds).of_eq (by ring)
  | succ count ih =>
    rw [x25519_fe_sqr_times]
    refine (ih (sqrOnce_holds holds).loosen).of_eq ?_
    rw [← pow_two,← pow_mul,← pow_succ']

theorem Holds.sqr (holds : Holds loose a x) : Holds tight (x25519_fe_sqr a) (x * x) := sqrOnce_holds holds

/-- Multiples of limbs with a small number. -/
theorem scaled_room {scalar : Limb} (below : Below loose a) (small : scalar.toNat < 2^17) :
    Columns (product a.l0 scalar) (product a.l1 scalar) (product a.l2 scalar) (product a.l3 scalar)
      (product a.l4 scalar) ∧ (product a.l4 scalar).toNat < loose * 2^17 := by
  obtain ⟨a0,a1,a2,a3,a4⟩ := below
  have little (u : Limb) (inside : u.toNat < loose) : (product u scalar).toNat < loose * 2^17 := by
    rw [product_toNat]
    exact Nat.mul_lt_mul'' inside small
  have p0 := little _ a0
  have p1 := little _ a1
  have p2 := little _ a2
  have p3 := little _ a3
  have p4 := little _ a4
  rw [loose] at *
  exact ⟨⟨by omega,by omega,by omega,by omega,by omega⟩,p4⟩

theorem Holds.scalar_product (holds : Holds loose a x) (scalar : Limb) (small : scalar.toNat < 2^17) :
    Holds tight (x25519_fe_scalar_product a scalar) (x * scalar.toNat) := by
  obtain ⟨columns,p4⟩ := scaled_room holds.below small
  obtain ⟨below,high,total⟩ := carries columns
  rw [loose] at p4
  simp only [product_toNat] at total
  rw [x25519_fe_scalar_product]
  generalize product a.l1 scalar + (carry (product a.l0 scalar)).setWidth 128 = v1 at *
  generalize product a.l2 scalar + (carry v1).setWidth 128 = v2 at *
  generalize product a.l3 scalar + (carry v2).setWidth 128 = v3 at *
  generalize product a.l4 scalar + (carry v3).setWidth 128 = v4 at *
  generalize product a.l0 scalar = v0 at *
  obtain ⟨d0,d1,d2,d3,d4⟩ := below
  dsimp only at d0 d1 d2 d3 d4
  have r0 : (digit v0 + carry v4 * 19).toNat = (digit v0).toNat + (carry v4).toNat * 19 := by
    rw [BitVec.toNat_add,BitVec.toNat_mul,show (19 : Limb).toNat = 19 from rfl]
    omega
  refine ⟨⟨?_,?_,?_,?_,?_⟩,?_⟩
  any_goals
    simp only [r0,tight]
    omega
  have folded : Fe.value ⟨digit v0 + carry v4 * 19,digit v1,digit v2,digit v3,digit v4⟩ + prime * (carry v4).toNat =
      a.value * scalar.toNat := by
    rw [Fe.value] at total
    rw [Fe.value,Fe.value,r0,prime]
    linear_combination total
  rw [cast_add_multiple _ folded,Nat.cast_mul,holds.same]

end

end Sarm.X25519
