import Sarm.X25519Field

/-!
The octets of numbers modulo 2^255 - 19, the first octet the lowest.
-/
namespace Sarm.X25519
open Sarm.Memory Sarm.Limbs
open Sarm.Neon (ldr octet octet_ldr)

/-! ### The code -/

/-- Digits of 51 bits of four words. -/
def expand (x2 x3 x4 x5 : Limb) : Fe :=
  let l0 := x2 &&& m51
  let x2 := x2 >>> 51 ||| x3 <<< 13
  let x3 := x3 >>> 38 ||| x4 <<< 26
  let x4 := x4 >>> 25 ||| x5 <<< 39
  let x5 := x5 >>> 12
  ⟨l0,x2 &&& m51,x3 &&& m51,x4 &&& m51,x5 &&& m51⟩

def x25519_fe_frombytes (m : Mem) (x1 : Nat) : Fe :=
  expand (ldr 64 m x1) (ldr 64 m (x1 + 8)) (ldr 64 m (x1 + 16)) (ldr 64 m (x1 + 24))

def carry51 (t : Fe) : Fe :=
  let t1 := t.l1 + t.l0 >>> 51
  let t2 := t.l2 + t1 >>> 51
  let t3 := t.l3 + t2 >>> 51
  let t4 := t.l4 + t3 >>> 51
  ⟨t.l0 &&& m51,t1 &&& m51,t2 &&& m51,t3 &&& m51,t4⟩

def carry51_full (t : Fe) : Fe :=
  let t := carry51 t
  ⟨t.l0 + (t.l4 >>> 51) * 19,t.l1,t.l2,t.l3,t.l4 &&& m51⟩

def carry51_final (t : Fe) : Fe :=
  let t := carry51 t
  ⟨t.l0,t.l1,t.l2,t.l3,t.l4 &&& m51⟩

/-- The canonical form is found from an offset of 19 and the modulus. -/
def contract (a : Fe) : Fe :=
  let a := carry51_full (carry51_full a)
  let a := carry51_full ⟨a.l0 + 19,a.l1,a.l2,a.l3,a.l4⟩
  let x11 : Limb := 0x7FFFFFFFFFFED
  carry51_final ⟨a.l0 + x11,a.l1 + m51,a.l2 + m51,a.l3 + m51,a.l4 + m51⟩

def packed (a : Fe) : List Limb :=
  [a.l0 ||| a.l1 <<< 51,a.l1 >>> 13 ||| a.l2 <<< 38,a.l2 >>> 26 ||| a.l3 <<< 25,a.l3 >>> 39 ||| a.l4 <<< 12]

def x25519_fe_tobytes (m : Mem) (x0 : Nat) (a : Fe) : Mem := storeLimbs m x0 (packed (contract a))

/-! ### Words -/

/-- Bits in their places. -/
theorem toNat_join {u v : Limb} {k : Nat} (inside : k < 64) (low : u.toNat < 2^k) :
    (u ||| v <<< k).toNat = u.toNat + v.toNat % 2^(64 - k) * 2^k := by
  have split : 2^64 = 2^(64 - k) * 2^k := by rw [← Nat.pow_add,Nat.sub_add_cancel inside.le]
  rw [BitVec.toNat_or,BitVec.toNat_shiftLeft,Nat.shiftLeft_eq,split,Nat.mul_mod_mul_right,← Nat.shiftLeft_eq,
    Nat.or_comm,← Nat.shiftLeft_add_eq_or_of_lt low,Nat.add_comm]

theorem shifted (u : Limb) (k : Nat) : (u >>> k).toNat = u.toNat / 2^k := by
  rw [BitVec.toNat_ushiftRight,Nat.shiftRight_eq_div_pow]

theorem expand_value (x2 x3 x4 x5 : Limb) : (expand x2 x3 x4 x5).value =
    (x2.toNat + 2^64 * x3.toNat + 2^128 * x4.toNat + 2^192 * x5.toNat) % 2^255 := by
  have b2 := x2.isLt
  have b3 := x3.isLt
  have b4 := x4.isLt
  have b5 := x5.isLt
  have j1 := toNat_join (u := x2 >>> 51) (v := x3) (k := 13) (by decide) (by rw [shifted]; omega)
  have j2 := toNat_join (u := x3 >>> 38) (v := x4) (k := 26) (by decide) (by rw [shifted]; omega)
  have j3 := toNat_join (u := x4 >>> 25) (v := x5) (k := 39) (by decide) (by rw [shifted]; omega)
  rw [shifted] at j1 j2 j3
  simp only [expand,Fe.value,and_m51,j1,j2,j3,shifted]
  omega

theorem expand_below (x2 x3 x4 x5 : Limb) : Below (2^51) (expand x2 x3 x4 x5) := by
  have mask (u : Limb) : (u &&& m51).toNat < 2^51 := (and_m51 u).trans_lt (Nat.mod_lt _ (by decide))
  exact ⟨mask _,mask _,mask _,mask _,mask _⟩

/-! ### Canonical form -/

theorem carry51_spec {a : Fe} (below : Below (2^62) a) : (carry51 a).value = a.value ∧
    (((carry51 a).l0.toNat = a.l0.toNat % 2^51 ∧ (carry51 a).l1.toNat < 2^51) ∧
      ((carry51 a).l2.toNat < 2^51 ∧ (carry51 a).l3.toNat < 2^51)) ∧ (carry51 a).l4.toNat < 2^63 := by
  obtain ⟨b0,b1,b2,b3,b4⟩ := below
  have plus (u v : Limb) (small : u.toNat < 2^62) (small' : v.toNat < 2^63) : (u + v >>> 51).toNat =
      u.toNat + v.toNat / 2^51 := by
    rw [BitVec.toNat_add,shifted]
    omega
  have s1 := plus _ _ b1 (b0.trans (by decide))
  generalize same1 : a.l1 + a.l0 >>> 51 = t1 at s1
  have s2 := plus _ t1 b2 (by omega)
  generalize same2 : a.l2 + t1 >>> 51 = t2 at s2
  have s3 := plus _ t2 b3 (by omega)
  generalize same3 : a.l3 + t2 >>> 51 = t3 at s3
  have s4 := plus _ t3 b4 (by omega)
  simp only [carry51,Fe.value,same1,same2,same3,and_m51,s4]
  refine ⟨by omega,⟨⟨trivial,by omega⟩,by omega,by omega⟩,by omega⟩

/-- The last carry counts 19. -/
theorem carry51_full_spec {a : Fe} (below : Below (2^62) a) :
    (carry51_full a).value = a.value % 2^255 + 19 * (a.value / 2^255) ∧
    (carry51_full a).l0.toNat = a.value % 2^51 + 19 * (a.value / 2^255) ∧
    (((carry51_full a).l1.toNat < 2^51 ∧ (carry51_full a).l2.toNat < 2^51) ∧
      ((carry51_full a).l3.toNat < 2^51 ∧ (carry51_full a).l4.toNat < 2^51)) := by
  obtain ⟨value,⟨⟨d0,d1⟩,d2,d3⟩,d4⟩ := carry51_spec below
  have low : (carry51 a).l0.toNat < 2^51 := d0.trans_lt (Nat.mod_lt _ (by decide))
  rw [← value,carry51_full]
  generalize carry51 a = t at *
  have l0 : (t.l0 + (t.l4 >>> 51) * 19).toNat = t.l0.toNat + t.l4.toNat / 2^51 * 19 := by
    rw [BitVec.toNat_add,BitVec.toNat_mul,shifted,show (19 : Limb).toNat = 19 from rfl]
    omega
  simp only [Fe.value,l0,and_m51]
  omega

theorem carry51_final_spec {a : Fe} (below : Below (2^62) a) :
    (carry51_final a).value = a.value % 2^255 ∧ Below (2^51) (carry51_final a) := by
  obtain ⟨value,⟨⟨d0,d1⟩,d2,d3⟩,d4⟩ := carry51_spec below
  have low : (carry51 a).l0.toNat < 2^51 := d0.trans_lt (Nat.mod_lt _ (by decide))
  rw [← value,carry51_final]
  generalize carry51 a = t at *
  refine ⟨?_,⟨low,d1,d2,d3,?_⟩⟩
  · simp only [Fe.value,and_m51]
    omega
  · rw [and_m51]
    exact Nat.mod_lt _ (by decide)

/-- A pass leaves the residue alone. -/
theorem folds {v0 v1 : Nat} (small : v0 < 2^256) (passed : v1 = v0 % 2^255 + 19 * (v0 / 2^255)) :
    v1 % prime = v0 % prime ∧ v1 < 2^255 + 38 := by
  rw [prime]
  have few : v0 / 2^255 < 2 := by omega
  have split : v0 = v1 + (2^255 - 19) * (v0 / 2^255) := by omega
  refine ⟨?_,by omega⟩
  conv => rhs; rw [split]
  rw [Nat.add_mul_mod_self_left]

/-- The pass after the offset takes the modulus away if it is there. -/
theorem folds_offset {v2 v3 : Nat} (small : v2 < 2^255) (passed : v3 = (v2 + 19) % 2^255 + 19 * ((v2 + 19) / 2^255)) :
    (v3 + prime) % 2^255 = v2 % prime := by
  rw [prime]
  by_cases large : 2^255 - 19 ≤ v2
  · rw [Nat.mod_eq_sub_mod large,Nat.mod_eq_of_lt (a := v2 - _) (by omega)]
    omega
  · rw [Nat.mod_eq_of_lt (a := v2) (by omega)]
    omega

/-- Two passes leave 255 bits. -/
theorem two_passes {a : Fe} (below : Below tight a) :
    (carry51_full (carry51_full a)).value % prime = a.value % prime ∧
    Below (2^51) (carry51_full (carry51_full a)) := by
  have few : a.value < 2^256 := by
    obtain ⟨b0,b1,b2,b3,b4⟩ := below
    rw [tight] at *
    rw [Fe.value]
    omega
  obtain ⟨value1,first1,⟨d1,d2⟩,d3,d4⟩ := carry51_full_spec (below.mono (by decide))
  obtain ⟨same1,few1⟩ := folds few value1
  generalize carry51_full a = a1 at *
  have low1 : a1.l0.toNat < 2^62 := by omega
  have below1 : Below (2^62) a1 :=
    ⟨low1,d1.trans (by decide),d2.trans (by decide),d3.trans (by decide),d4.trans (by decide)⟩
  obtain ⟨value2,first2,⟨e1,e2⟩,e3,e4⟩ := carry51_full_spec below1
  obtain ⟨same2,_⟩ := folds (few1.trans (by decide)) value2
  refine ⟨same2.trans same1,⟨?_,e1,e2,e3,e4⟩⟩
  rw [first2]
  clear value1 value2 same1 same2
  omega

theorem add_toNat {u k : Limb} {n : Nat} (same : k.toNat = n) (small : u.toNat < 2^52) (small' : n < 2^51) :
    (u + k).toNat = u.toNat + n := by
  rw [BitVec.toNat_add,same]
  omega

theorem contract_spec {a : Fe} (below : Below tight a) :
    (contract a).value = a.value % prime ∧ Below (2^51) (contract a) := by
  obtain ⟨same,b0,b1,b2,b3,b4⟩ := two_passes below
  rw [contract,← same]
  generalize carry51_full (carry51_full a) = a2 at *
  have whole : a2.value < 2^255 := by
    rw [Fe.value]
    omega
  have offset : (a2.l0 + 19).toNat = a2.l0.toNat + 19 := add_toNat rfl (b0.trans (by decide)) (by decide)
  have moved : Fe.value ⟨a2.l0 + 19,a2.l1,a2.l2,a2.l3,a2.l4⟩ = a2.value + 19 := by
    simp only [Fe.value,offset]
    omega
  have below2 : Below (2^62) ⟨a2.l0 + 19,a2.l1,a2.l2,a2.l3,a2.l4⟩ := by
    refine ⟨?_,b1.trans (by decide),b2.trans (by decide),b3.trans (by decide),b4.trans (by decide)⟩
    rw [offset]
    omega
  obtain ⟨value3,first3,⟨f1,f2⟩,f3,f4⟩ := carry51_full_spec below2
  rw [moved] at value3 first3
  have last := folds_offset whole value3
  generalize carry51_full ⟨a2.l0 + 19,a2.l1,a2.l2,a2.l3,a2.l4⟩ = a3 at *
  have low : a3.l0.toNat < 2^52 := by omega
  have g0 : (a3.l0 + 0x7FFFFFFFFFFED).toNat = a3.l0.toNat + 0x7FFFFFFFFFFED := add_toNat rfl low (by decide)
  have g1 := add_toNat (u := a3.l1) m51_toNat (f1.trans (by decide)) (by decide)
  have g2 := add_toNat (u := a3.l2) m51_toNat (f2.trans (by decide)) (by decide)
  have g3 := add_toNat (u := a3.l3) m51_toNat (f3.trans (by decide)) (by decide)
  have g4 := add_toNat (u := a3.l4) m51_toNat (f4.trans (by decide)) (by decide)
  clear first3 value3 moved below2
  have value4 : Fe.value ⟨a3.l0 + 0x7FFFFFFFFFFED,a3.l1 + m51,a3.l2 + m51,a3.l3 + m51,a3.l4 + m51⟩ =
      a3.value + prime := by
    simp only [Fe.value,g0,g1,g2,g3,g4,prime]
    omega
  have below4 : Below (2^62) ⟨a3.l0 + 0x7FFFFFFFFFFED,a3.l1 + m51,a3.l2 + m51,a3.l3 + m51,a3.l4 + m51⟩ := by
    refine ⟨?_,?_,?_,?_,?_⟩
    all_goals
      simp only [g0,g1,g2,g3,g4]
      omega
  obtain ⟨value5,below5⟩ := carry51_final_spec below4
  exact ⟨by rw [value5,value4,last],below5⟩

/-! ### Octets -/

/-- A string of octets as a number, the first octet the lowest. -/
def leValue : List UInt8 → Nat
  | [] => 0
  | octet :: octets => octet.toNat + 256 * leValue octets

theorem leValue_append (xs ys : List UInt8) : leValue (xs ++ ys) = leValue xs + 256^xs.length * leValue ys := by
  induction xs with
  | nil => simp [leValue]
  | cons x xs ih =>
    rw [List.cons_append,leValue,leValue,ih,List.length_cons,Nat.pow_succ]
    ring

theorem leValue_inj {xs ys : List UInt8} (length : xs.length = ys.length) (same : leValue xs = leValue ys) :
    xs = ys := by
  induction xs generalizing ys with
  | nil => exact (List.length_eq_zero_iff.mp length.symm).symm
  | cons x xs ih =>
    cases ys with
    | nil => cases length
    | cons y ys =>
      have small := x.toNat_lt
      have small' := y.toNat_lt
      rw [leValue,leValue] at same
      rw [ih (Nat.succ.inj length) (by omega),UInt8.toNat_inj.mp (show x.toNat = y.toNat by omega)]

theorem ldr_value (m : Mem) (a : Nat) : (ldr 64 m a).toNat = leValue (slice m a 8) := by
  have octets (k : Nat) (inside : k < 8) : (m (a + k)).toNat = (ldr 64 m a).toNat / 2^(8 * k) % 256 := by
    rw [← octet_ldr m a (w := 64) (by omega) (by omega)]
    show ((ldr 64 m a).extractLsb' (8 * k) 8).toNat = _
    rw [BitVec.extractLsb'_toNat,Nat.shiftRight_eq_div_pow]
  have small := (ldr 64 m a).isLt
  generalize (ldr 64 m a).toNat = n at octets small
  have digits := And.intro (octets 0 (by decide)) (And.intro (octets 1 (by decide)) (And.intro (octets 2 (by decide))
    (And.intro (octets 3 (by decide)) (And.intro (octets 4 (by decide)) (And.intro (octets 5 (by decide))
    (And.intro (octets 6 (by decide)) (octets 7 (by decide))))))))
  simp only [Nat.add_zero] at digits
  simp only [slice_succ,slice_zero,leValue,Nat.add_assoc,Nat.reduceAdd]
  omega

theorem slice_words (m : Mem) (a : Nat) : leValue (slice m a 32) = Words.value (limbs m a 4) := by
  simp only [limbs,Words.value_cons,Words.value_nil,ldr_value]
  rw [show 32 = 8 + (8 + (8 + 8)) from rfl,slice_add,slice_add,slice_add,leValue_append,leValue_append,leValue_append]
  simp only [slice_length,Nat.add_assoc]
  omega

theorem packed_value {a : Fe} (below : Below (2^51) a) : Words.value (packed a) = a.value := by
  obtain ⟨b0,b1,b2,b3,b4⟩ := below
  have j0 := toNat_join (u := a.l0) (v := a.l1) (k := 51) (by decide) b0
  have j1 := toNat_join (u := a.l1 >>> 13) (v := a.l2) (k := 38) (by decide) (by rw [shifted]; omega)
  have j2 := toNat_join (u := a.l2 >>> 26) (v := a.l3) (k := 25) (by decide) (by rw [shifted]; omega)
  have j3 := toNat_join (u := a.l3 >>> 39) (v := a.l4) (k := 12) (by decide) (by rw [shifted]; omega)
  rw [shifted] at j1 j2 j3
  simp only [packed,Words.value_cons,Words.value_nil,Fe.value,j0,j1,j2,j3]
  omega

/-- The top bit is ignored, and what is above the modulus is taken as it is. -/
theorem frombytes_holds (m : Mem) (x1 : Nat) :
    Holds tight (x25519_fe_frombytes m x1) ((leValue (slice m x1 32) % 2^255 : Nat) : ZMod prime) := by
  refine ⟨(expand_below ..).mono (by decide),?_⟩
  rw [x25519_fe_frombytes,expand_value,slice_words]
  simp only [limbs,Words.value_cons,Words.value_nil,Nat.add_assoc,Nat.reduceAdd]
  congr 2
  omega

theorem tobytes_value (m : Mem) (x0 : Nat) {a : Fe} {x : ZMod prime} (holds : Holds tight a x) :
    leValue (slice (x25519_fe_tobytes m x0 a) x0 32) = x.val := by
  obtain ⟨same,below⟩ := contract_spec holds.below
  have stored : limbs (storeLimbs m x0 (packed (contract a))) x0 4 = packed (contract a) := limbs_stored rfl
  rw [slice_words,x25519_fe_tobytes,stored,packed_value below,same,← holds.same,ZMod.val_natCast]

end Sarm.X25519
