import Sarm.Accumulators
import Sarm.Limbs

/-!
The field of P-256: products are reduced by folding the upper words of a number into the lower
ones, for each function the number that comes out, and the carries that the correction relies on.
-/
namespace Sarm.P256
open Sarm.Memory Sarm.Words Sarm.Accumulators Sarm.Limbs

/-! ### The code -/

/-- The order of the field. -/
def prime : Nat := 2^256 - 2^224 + 2^192 + 2^96 - 1

def p256_p : List Limb := [0xffffffffffffffff,0x00000000ffffffff,0x0000000000000000,0xffffffff00000001]

/-- The digits of 32 bits. -/
def halves : List Limb → List Limb
  | [] => []
  | x :: xs => (x &&& 0xffffffff) :: (x >>> 32) :: halves xs

/-- What `c[8]` adds to `acc[0..7]`, an `add` or `sub` for each entry that is not zero. -/
def row8 : List Int := [1,0,0,-1,0,0,-1,1]

/-- For `c[8..15]`. -/
def foldRows : List (List Int) :=
  [row8,
   [1,1,0,-1,-1,0,-1,0],
   [0,1,1,0,-1,-1,0,-1],
   [-1,0,1,2,0,-1,0,-1],
   [-1,-1,0,2,2,0,0,-1],
   [-1,-1,-1,1,2,2,1,-1],
   [-1,-1,-1,0,1,2,3,0],
   [0,-1,-1,-1,0,1,2,3]]

/-- `acc[0..7]` with every upper word folded in. -/
def folded (t : List Limb) : List Limb := addRows foldRows ((halves t).drop 8) ((halves t).take 8)

/-- The digits, and `carry_final`. -/
def firstPass (t : List Limb) : List Limb × Limb := propagate 32 (folded t) 0

/-- `carry_final` stands for multiples of `2^256`, as `c[8]` does. -/
def refolded (t : List Limb) : List Limb := addRow row8 (firstPass t).2 (firstPass t).1

/-- The digits, and `ext`. -/
def secondPass (t : List Limb) : List Limb × Limb := propagate 32 (refolded t) 0

/-- The modulus as long as the limbs with `ext` on top. -/
def wideP : List Limb := p256_p ++ [0]

/-- `x2` to `x6` after both rounds of the correction. -/
def corrected (t : List Limb) : List Limb :=
  let (digits,ext) := secondPass t
  let r := join 32 digits ++ [ext]
  let r := if ext.slt 0 then (addChain r wideP false).1 else r
  reduceOnce wideP (reduceOnce wideP r)

/-- `.Lreduce_regs`. -/
def reduceRegs (t : List Limb) : List Limb := (corrected t).take 4

def p256_reduce (m : Mem) (x0 x1 : Nat) : Mem := storeLimbs m x0 (reduceRegs (limbs m x1 8))

/-- A product in registers, and its reduction. -/
def mulRegs (a b : List Limb) : List Limb := reduceRegs (product a b)

def p256_fe_mul (m : Mem) (x0 x1 x2 : Nat) : Mem := storeLimbs m x0 (mulRegs (limbs m x1 4) (limbs m x2 4))

def p256_fe_sqr (m : Mem) (x0 x1 : Nat) : Mem := p256_fe_mul m x0 x1 x1

def p256_fe_add (m : Mem) (x0 x1 x2 : Nat) : Mem := storeLimbs m x0 (addMod p256_p (limbs m x1 4) (limbs m x2 4))

/-- Three limbs of the sum with the modulus wait in the output until it is known which ones are wanted. -/
def p256_fe_sub (m : Mem) (x0 x1 x2 : Nat) : Mem :=
  let (difference,c) := subChain (limbs m x1 4) (limbs m x2 4) true
  let (sum,_) := addChain difference p256_p false
  let m := storeLimbs m x0 (sum.take 3)
  storeLimbs m x0 (if c then difference else limbs m x0 3 ++ sum.drop 3)

/-! ### Reduction -/

theorem wideP_value : value wideP = prime := by decide

/-- A word of at most 63 bits is not negative. -/
theorem toInt_small {x : Limb} (small : x.toNat < 2^63) : x.toInt = x.toNat :=
  BitVec.toInt_eq_toNat_of_lt (by omega)

theorem halves_spec (t : List Limb) : (halves t).length = 2 * t.length ∧ total 32 (halves t) = (value t : Int) ∧
    ∀ c ∈ halves t, 0 ≤ c.toInt ∧ c.toInt ≤ 2^32 - 1 := by
  induction t with
  | nil => exact ⟨rfl,rfl,nofun⟩
  | cons x xs ih =>
    obtain ⟨length,same,small⟩ := ih
    have bound := x.isLt
    have low : (x &&& 0xffffffff).toNat = x.toNat % 2^32 := toNat_digit 32 (by decide) x
    have high : (x >>> 32).toNat = x.toNat / 2^32 := by
      rw [BitVec.toNat_ushiftRight,Nat.shiftRight_eq_div_pow]
    have low' : (x &&& 0xffffffff).toInt = (x &&& 0xffffffff).toNat := toInt_small (by omega)
    have high' : (x >>> 32).toInt = (x >>> 32).toNat := toInt_small (by omega)
    have division := Nat.mod_add_div x.toNat (2^32)
    refine ⟨?_,?_,?_⟩
    · rw [halves,List.length_cons,List.length_cons,length,List.length_cons]
      ring
    · rw [halves,total,total,same,value_cons,low',high',low,high]
      push_cast
      omega
    · refine List.forall_mem_cons.mpr ⟨?_,List.forall_mem_cons.mpr ⟨?_,small⟩⟩
      · omega
      · omega

/-- The accumulators, which stand for the number less a multiple of the modulus. -/
theorem folded_spec {t : List Limb} (length : t.length = 8) :
    (folded t).length = 8 ∧ Within (25 * (2^32 - 1)) (folded t) ∧
    -4 * 2^256 ≤ total 32 (folded t) ∧ total 32 (folded t) < 5 * 2^256 ∧ ∃ q :
    Int, (value t : Int) = total 32 (folded t) + q * prime := by
  obtain ⟨count,same,small⟩ := halves_spec t
  rw [length] at count
  have parts := List.take_append_drop 8 (halves t)
  have lower : ((halves t).take 8).length = 8 := by rw [List.length_take,count]; rfl
  have upper : ((halves t).drop 8).length = 8 := by rw [List.length_drop,count]
  have smallLow : ∀ c ∈ (halves t).take 8, 0 ≤ c.toInt ∧ c.toInt ≤ 2^32 - 1 :=
    fun c mem => small c (List.mem_of_mem_take mem)
  have smallHigh : ∀ c ∈ (halves t).drop 8, 0 ≤ c.toInt ∧ c.toInt ≤ 2^32 - 1 :=
    fun c mem => small c (List.mem_of_mem_drop mem)
  rw [← parts,total_append,lower] at same
  rw [folded]
  generalize (halves t).take 8 = low at *
  generalize (halves t).drop 8 = high at *
  obtain ⟨seedLow,seedHigh⟩ := total_bounds 32 smallLow
  rw [lower] at seedHigh
  obtain ⟨sum,within,width⟩ := @addRows_total 64 32 (2^32 - 1) 3 (2^32 - 1) foldRows high low
    (fun row mem => lower.trans (by revert row; decide)) (upper.trans rfl)
      (fun c mem => by have := smallLow c mem; omega) (by decide)
    (fun c mem => by have := smallHigh c mem; exact abs_le.mpr (by omega)) (by decide) (by decide)
  refine ⟨width.trans lower,within,?_⟩
  rw [sum]
  match high,upper with
  | [c8,c9,c10,c11,c12,c13,c14,c15],_ =>
    simp only [List.forall_mem_cons] at smallHigh
    simp only [combination,foldRows,row8,digits,total] at same ⊢
    generalize total 32 low = seed at *
    refine ⟨?_,?_,?_⟩
    · omega
    · omega
    · refine ⟨c8.toInt +
        (2^32 + 1) * c9.toInt +
        (2^64 + 2^32) * c10.toInt +
        (2^96 + 2^64 - 1) * c11.toInt +
        (2^128 + 2^96 - 2^32 - 1) * c12.toInt +
        (2^160 + 2^128 - 2^64 - 2^32 - 1) * c13.toInt +
        (2^192 + 2^160 - 2^96 - 2^64 - 2^32 - 1) * c14.toInt +
        (2^224 + 2^192 - 2^128 - 2^96 - 2^64 - 2^32) * c15.toInt,?_⟩
      rw [← same,prime]
      push_cast
      ring

/-- What the first pass leaves is a number of 256 bits and `carry_final`. -/
theorem firstPass_spec {t : List Limb} (length : t.length = 8) : (firstPass t).1.length = 8 ∧
    (∀ c ∈ (firstPass t).1, 0 ≤ c.toInt ∧ c.toInt ≤ 2^32 - 1) ∧ -4 ≤ (firstPass t).2.toInt ∧ (firstPass t).2.toInt ≤ 4 ∧
    total 32 (firstPass t).1 + 2^256 * (firstPass t).2.toInt = total 32 (folded t) := by
  obtain ⟨width,within,low,high,_⟩ := folded_spec length
  obtain ⟨sum,small⟩ := @propagate_total 64 32 _ (by decide) (by decide) (folded t) 0 within (by decide) (by decide)
  have count := propagate_length 32 (folded t) 0
  rw [← firstPass] at sum small count
  rw [width] at count
  obtain ⟨least,most⟩ := total_bounds 32 small
  rw [count] at most
  rw [width,show BitVec.toInt (0 : Limb) = 0 from rfl,add_zero] at sum
  refine ⟨count,small,?_,?_,sum⟩
  · omega
  · omega

/-- The second pass leaves a number of 256 bits and `ext`. -/
theorem secondPass_spec {t : List Limb} (length : t.length = 8) : (secondPass t).1.length = 8 ∧
    (∀ c ∈ (secondPass t).1, 0 ≤ c.toInt ∧ c.toInt ≤ 2^32 - 1) ∧ -1 ≤ (secondPass t).2.toInt ∧
    (secondPass t).2.toInt ≤ 1 ∧
    Within (2^32 - 1 + 1 * 4) (refolded t) ∧
    -prime ≤ total 32 (secondPass t).1 + 2^256 * (secondPass t).2.toInt ∧
    total 32 (secondPass t).1 + 2^256 * (secondPass t).2.toInt < 2 * prime ∧
    total 32 (secondPass t).1 + 2^256 * (secondPass t).2.toInt + (firstPass t).2.toInt * prime = total 32 (folded t) := by
  obtain ⟨width,digit,low,high,sum⟩ := firstPass_spec length
  have within : Within (2^32 - 1) (firstPass t).1 := fun c mem => by have := digit c mem; omega
  obtain ⟨added,within⟩ :=
    @addRow_total 64 32 (2^32 - 1) 1 4 row8 (firstPass t).2 _ width within (abs_le.mpr ⟨low,high⟩) (by decide)
    (by decide)
  have width' := addRow_length row8 (firstPass t).2 width
  rw [← refolded] at added within width'
  obtain ⟨least,most⟩ := total_bounds 32 digit
  rw [width] at most
  obtain ⟨sum',small⟩ := @propagate_total 64 32 _ (by decide) (by decide) (refolded t) 0 within (by decide) (by decide)
  have count := propagate_length 32 (refolded t) 0
  rw [← secondPass] at sum' small count
  rw [width'] at count
  obtain ⟨least',most'⟩ := total_bounds 32 small
  rw [count] at most'
  rw [width',show BitVec.toInt (0 : Limb) = 0 from rfl,add_zero,added] at sum'
  simp only [row8,digits,List.length_cons,List.length_nil] at sum' count most'
  rw [prime]
  push_cast
  refine ⟨count,small,?_,?_,within,?_,?_,?_⟩
  · omega
  · omega
  · omega
  · omega
  · omega

/-- What the limbs hold once something that is below zero has been brought above it. -/
theorem lifted_spec {t : List Limb} (length : t.length = 8) :
    let low := join 32 (secondPass t).1 ++ [(secondPass t).2]
    let r := if (secondPass t).2.slt 0 then (addChain low wideP false).1 else low
    r.length = wideP.length ∧ value r < 2 * prime ∧ ∃ q : Int, (value r : Int) = value t + q * prime := by
  obtain ⟨count,small,low,high,_,least,most,sum⟩ := secondPass_spec length
  obtain ⟨_,_,_,_,q,number⟩ := folded_spec length
  obtain ⟨width,joined⟩ := join_spec 32 rfl 4 count small
  generalize secondPass t = pass at *
  obtain ⟨digits,ext⟩ := pass
  dsimp only at *
  have whole : value (join 32 digits ++ [ext]) = value (join 32 digits) + 2^256 * ext.toNat := by
    rw [value_append,width]
    simp
  have length5 : (join 32 digits ++ [ext]).length = wideP.length := by
    rw [List.length_append,width]
    rfl
  rw [BitVec.slt_eq_decide]
  by_cases negative : ext.toInt < BitVec.toInt (0 : Limb)
  · have below : ext.toInt = -1 := by
      rw [show BitVec.toInt (0 : Limb) = 0 from rfl] at negative
      omega
    have top : ext.toNat = 2^64 - 1 := by
      rw [BitVec.eq_of_toInt_eq (y := -1) (below.trans rfl)]
      rfl
    rw [if_pos (decide_eq_true negative)]
    have added := addChain_value length5 false
    have bound := value_lt (addChain (join 32 digits ++ [ext]) wideP false).1
    have width5 := addChain_length length5 false
    rw [width5,length5] at bound
    rw [whole,wideP_value,length5,Bool.toNat_false,Nat.add_zero,top] at added
    rw [below] at least most sum
    have inside := value_lt (join 32 digits)
    rw [width] at inside
    rw [show wideP.length = 5 from rfl,show 64 * 5 = 256 + 64 from rfl,pow_add] at added bound
    have carry : (addChain (join 32 digits ++ [ext]) wideP false).2.toNat = 1 := by
      have := Bool.toNat_le (addChain (join 32 digits ++ [ext]) wideP false).2
      omega
    rw [carry] at added
    refine ⟨width5.trans length5,?_,-q - (firstPass t).2.toInt + 1,?_⟩
    · omega
    · have added' := congrArg (Nat.cast : Nat → Int) added
      push_cast [show 1 ≤ 2^64 by decide] at added'
      linear_combination added' + joined + sum - number
  · rw [if_neg (mt of_decide_eq_true negative),whole]
    rw [show BitVec.toInt (0 : Limb) = 0 from rfl] at negative
    have top : ext.toInt = ext.toNat := by
      rw [BitVec.toInt_eq_toNat_cond] at negative ⊢
      split
      · rfl
      · next above =>
        rw [if_neg above] at negative
        have := ext.isLt
        omega
    rw [top] at least most sum
    refine ⟨length5,by omega,-q - (firstPass t).2.toInt,?_⟩
    push_cast
    linear_combination joined + sum - number

/-- Two rounds are enough, and the limb on top is zero after them. -/
theorem corrected_spec {t : List Limb} (length : t.length = 8) :
    (corrected t).length = 5 ∧ value (corrected t) = value t % prime := by
  obtain ⟨length',bound,q',number'⟩ := lifted_spec length
  rw [corrected]
  generalize secondPass t = pass at *
  obtain ⟨digits,ext⟩ := pass
  dsimp only at *
  generalize (if ext.slt 0 then (addChain (join 32 digits ++ [ext]) wideP false).1 else join 32 digits ++ [ext]) = r at *
  have once := reduceOnce_length length'
  have twice := reduceOnce_length (once.trans length')
  rw [twice,once,length']
  refine ⟨rfl,?_⟩
  have first := reduceOnce_mod length' (by rw [wideP_value]; exact bound)
  rw [wideP_value] at first
  have modulus : 0 < prime := by decide
  have small' := Nat.mod_lt (value r) modulus
  have second := reduceOnce_mod (once.trans length') (by rw [wideP_value,first]; omega)
  rw [second,wideP_value,first,Nat.mod_mod]
  zify
  rw [number',Int.add_mul_emod_self_right]

/-- The carries between the limbs, in both passes. -/
theorem carries_spec {t : List Limb} (length : t.length = 8) :
    (∀ c ∈ carries 32 (folded t) 0, -25 ≤ c.toInt ∧ c.toInt ≤ 25) ∧
    ∀ c ∈ carries 32 (refolded t) 0, -2 ≤ c.toInt ∧ c.toInt ≤ 2 := by
  obtain ⟨_,within,_⟩ := folded_spec length
  obtain ⟨_,_,_,_,within',_⟩ := secondPass_spec length
  constructor
  · exact carries_small 32 within (by decide) (by decide)
  · exact carries_small 32 (fun x mem => by have := within' x mem; omega) (by decide) (by decide)

/-- Four limbs below the modulus. -/
structure Canonical (a : List Limb) : Prop where
  length : a.length = 4
  small : value a < prime

theorem prime_pos : 0 < prime := by decide

theorem reduceRegs_spec {t : List Limb} (length : t.length = 8) :
    Canonical (reduceRegs t) ∧ value (reduceRegs t) = value t % prime := by
  obtain ⟨width,same⟩ := corrected_spec length
  have small := Nat.mod_lt (value t) prime_pos
  rw [reduceRegs]
  match corrected t,width,same with
  | [x2,x3,x4,x5,x6],_,same =>
    have top : x6.toNat = 0 := by
      simp only [value_cons,value_nil] at same
      have modulus : prime < 2^256 := by decide
      omega
    have same' : value [x2,x3,x4,x5] = value t % prime := by
      rw [← same]
      simp [top]
    exact ⟨⟨rfl,same'.trans_lt small⟩,same'⟩

theorem mulRegs_spec {a b : List Limb} (first : a.length = 4) (second : b.length = 4) :
    Canonical (mulRegs a b) ∧ value (mulRegs a b) = value a * value b % prime := by
  have some : a ≠ [] := List.ne_nil_of_length_pos (by omega)
  have some' : b ≠ [] := List.ne_nil_of_length_pos (by omega)
  obtain ⟨length,same⟩ := product_spec (by decide) some
  rw [mulRegs,← same]
  refine reduceRegs_spec ?_
  rw [length some',first,second]

theorem addRegs_spec {a b : List Limb} (first : Canonical a) (second : Canonical b) :
    Canonical (addMod p256_p a b) ∧ value (addMod p256_p a b) = (value a + value b) % prime := by
  have sum := addMod_spec (m := p256_p) first.length second.length first.small second.small
  exact ⟨⟨addMod_length (m := p256_p) first.length second.length,sum ▸ Nat.mod_lt _ prime_pos⟩,sum⟩

theorem subRegs_spec {a b : List Limb} (first : Canonical a) (second : Canonical b) :
    Canonical (subMod p256_p a b) ∧ value (subMod p256_p a b) = (value a + (prime - value b)) % prime := by
  have difference := subMod_spec (m := p256_p) first.length second.length first.small second.small
  exact ⟨⟨subMod_length (m := p256_p) first.length second.length,difference ▸ Nat.mod_lt _ prime_pos⟩,difference⟩

/-- What waits in the output is read before anything else is stored there. -/
theorem p256_fe_sub_eq (m : Mem) (x0 x1 x2 : Nat) :
    p256_fe_sub m x0 x1 x2 = storeLimbs m x0 (subMod p256_p (limbs m x1 4) (limbs m x2 4)) := by
  have width : (subChain (limbs m x1 4) (limbs m x2 4) true).1.length = 4 :=
    subChain_length (by simp) true |>.trans (limbs_length ..)
  have count : (addChain (subChain (limbs m x1 4) (limbs m x2 4) true).1 p256_p false).1.length = 4 :=
    (addChain_length width false).trans width
  rw [p256_fe_sub,subMod]
  generalize subChain (limbs m x1 4) (limbs m x2 4) true = difference at *
  dsimp only
  generalize addChain difference.1 p256_p false = sum at *
  have three : (sum.1.take 3).length = 3 := by rw [List.length_take,count]; rfl
  rw [limbs_stored three,List.take_append_drop,storeLimbs_twice]
  rw [three]
  split <;> omega

/-- The reduction of every number of 512 bits, with the carries that its correction relies on, and the
    operations of the field, wherever the output lies. -/
theorem p256_field_arithmetic (m : Mem) (x0 x1 x2 : Nat) :
    let a := limbs m x1 4
    let b := limbs m x2 4
    let t := limbs m x1 8
    value (limbs (p256_reduce m x0 x1) x0 4) = value t % prime ∧
    (-4 ≤ (firstPass t).2.toInt ∧ (firstPass t).2.toInt ≤ 4 ∧ -1 ≤ (secondPass t).2.toInt ∧ (secondPass t).2.toInt ≤ 1 ∧
      (∀ c ∈ carries 32 (folded t) 0, -25 ≤ c.toInt ∧ c.toInt ≤ 25) ∧
        (∀ c ∈ carries 32 (refolded t) 0, -2 ≤ c.toInt ∧ c.toInt ≤ 2)) ∧
    value (limbs (p256_fe_mul m x0 x1 x2) x0 4) = value a * value b % prime ∧
    value (limbs (p256_fe_sqr m x0 x1) x0 4) = value a * value a % prime ∧
    (value a < prime → value b < prime → value (limbs (p256_fe_add m x0 x1 x2) x0 4) = (value a + value b) % prime ∧
      value (limbs (p256_fe_sub m x0 x1 x2) x0 4) = (value a + (prime - value b)) % prime) ∧
    ∀ m' ∈ [p256_reduce m x0 x1,p256_fe_mul m x0 x1 x2,p256_fe_sqr m x0 x1,p256_fe_add m x0 x1 x2,p256_fe_sub m x0 x1 x2],
      ChangesOnly [(x0,32)] m m' := by
  intro a b t
  have first : a.length = 4 := limbs_length ..
  have second : b.length = 4 := limbs_length ..
  have length : t.length = 8 := limbs_length ..
  obtain ⟨reduced,reduction⟩ := reduceRegs_spec length
  obtain ⟨multiplied,multiplication⟩ := mulRegs_spec first second
  obtain ⟨squared,squaring⟩ := mulRegs_spec first first
  obtain ⟨_,_,low,high,_⟩ := firstPass_spec length
  obtain ⟨_,_,low',high',_⟩ := secondPass_spec length
  obtain ⟨small,small'⟩ := carries_spec length
  refine ⟨?_,⟨low,high,low',high',small,small'⟩,?_,?_,fun below below' => ⟨?_,?_⟩,?_⟩
  · rw [p256_reduce,limbs_stored reduced.length,reduction]
  · rw [p256_fe_mul,limbs_stored multiplied.length,multiplication]
  · rw [p256_fe_sqr,p256_fe_mul,limbs_stored squared.length,squaring]
  · obtain ⟨canonical,sum⟩ := addRegs_spec ⟨first,below⟩ ⟨second,below'⟩
    rw [p256_fe_add,limbs_stored canonical.length,sum]
  · obtain ⟨canonical,difference⟩ := subRegs_spec ⟨first,below⟩ ⟨second,below'⟩
    rw [p256_fe_sub_eq,limbs_stored canonical.length,difference]
  · have added : (addMod p256_p a b).length = 4 := addMod_length (m := p256_p) first second
    have subtracted : (subMod p256_p a b).length = 4 := subMod_length (m := p256_p) first second
    simp only [List.forall_mem_cons,List.not_mem_nil,false_imp_iff,implies_true,and_true]
    refine ⟨storeLimbs_changes reduced.length m x0,storeLimbs_changes multiplied.length m x0,
      storeLimbs_changes squared.length m x0,storeLimbs_changes added m x0,?_⟩
    rw [p256_fe_sub_eq]
    exact storeLimbs_changes subtracted m x0

/-- On a memory of zeros. -/
theorem p256_field_arithmetic_zeros : value (limbs (p256_fe_sub (fun _ => 0) 0 0 0) 0 4) = (0 + (prime - 0)) % prime := by
  have zero : value (limbs (fun _ => 0) 0 4) = 0 := by decide +kernel
  generalize (fun _ => 0 : Mem) = m at zero ⊢
  obtain ⟨_,_,_,_,sums,_⟩ := p256_field_arithmetic m 0 0 0
  have difference := (sums (zero.trans_lt prime_pos) (zero.trans_lt prime_pos)).2
  rw [zero] at difference
  exact difference

end Sarm.P256
