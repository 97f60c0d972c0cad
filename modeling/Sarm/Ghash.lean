import Mathlib.Data.List.GetD
import Sarm.CarryLess
import Sarm.Neon

/-!
GHASH: the hash of SP 800-38D, block by block with the multiplication its section 6.3
gives, and the code, which takes four blocks at a time by the powers of the subkey and
reduces once. The code works on the bits of a block in the opposite order, where the
product without carries is the product of polynomials.
-/
namespace Sarm.Ghash
open Sarm.Memory Sarm.Neon Sarm.CarryLess

/-! ### SP 800-38D -/

/-- A block, its first bit the most significant. -/
abbrev Block := BitVec 128

/-- The block that starts with these octets, zero where there are none. -/
def ofOctets (l : List UInt8) : Block := pack fun k => l.getD (15 - k) 0

/-- The blocks of a string padded with zeros. -/
def blocks (l : List UInt8) : List Block :=
  if l = [] then [] else ofOctets l :: blocks (l.drop 16)
  termination_by l.length
  decreasing_by
    rw [List.length_drop]
    have := List.length_pos_of_ne_nil ‹l ≠ []›
    omega

/-- `11100001`, and zeros. -/
def R : Block := 0xe1#8 ++ 0#120

/-- `Z` and `V` after the first bits of `x`. -/
def mulBelow (x y : Block) : Nat → Block × Block
  | 0 => (0,y)
  | i+1 =>
    let s := mulBelow x y i
    (if x.getMsbD i then s.1 ^^^ s.2 else s.1,if s.2.getLsbD 0 then s.2 >>> 1 ^^^ R else s.2 >>> 1)

/-- The product of blocks. -/
def mul (x y : Block) : Block := (mulBelow x y 128).1

/-- The hash of blocks behind the ones that gave `y`. -/
def ghashFrom (h y : Block) (xs : List Block) : Block := xs.foldl (fun y x => mul (y ^^^ x) h) y

def ghash (h : Block) (xs : List Block) : Block := ghashFrom h 0 xs

/-- The block of the lengths, in bits. -/
def lengths (aad ct : Nat) : Block := BitVec.ofNat 64 (8 * aad) ++ BitVec.ofNat 64 (8 * ct)

/-! ### The code -/

/-- The reduction constant in both lanes. -/
def v17 : BitVec 128 := 0x87#64 ++ 0x87#64

def v18 : BitVec 128 := 0

def pmull (a b : BitVec 128) : BitVec 128 := clmul (lo a) (lo b)

def pmull2 (a b : BitVec 128) : BitVec 128 := clmul (hi a) (hi b)

/-- Both lanes the sum of both. -/
def rolled (v : BitVec 128) : BitVec 128 := ext8 v v ^^^ v

/-- `.Lgcm_karatsuba_br`: `v4` and `v5`. -/
def gcm_karatsuba_br (v0 v1 v3 : BitVec 128) : BitVec 128 × BitVec 128 :=
  let v2 := rolled v0
  let v4 := pmull v0 v1
  let v5 := pmull2 v0 v1
  let v6 := pmull v2 v3
  let v2 := v6 ^^^ v4 ^^^ v5
  (v4 ^^^ ext8 v18 v2,v5 ^^^ ext8 v2 v18)

/-- `.Lgcm_reduce87`. -/
def gcm_reduce87 (v4 v5 : BitVec 128) : BitVec 128 :=
  let v3 := ext8 v18 v5 ^^^ pmull2 v5 v17
  v4 ^^^ ext8 v18 v3 ^^^ pmull2 v3 v17

/-- `.Lgcm_gf_mul`. -/
def gcm_gf_mul (v0 v1 : BitVec 128) : BitVec 128 :=
  let (v4,v5) := gcm_karatsuba_br v0 v1 (rolled v1)
  gcm_reduce87 v4 v5

/-- The subkey and its powers, and the rolled form of each. -/
structure Subkeys where
  v19 : BitVec 128
  v22 : BitVec 128
  v23 : BitVec 128
  v24 : BitVec 128
  v25 : BitVec 128
  v26 : BitVec 128
  v27 : BitVec 128
  v28 : BitVec 128

/-- `.Lgcm_ghash_powers`. -/
def gcm_ghash_powers (v19 : BitVec 128) : Subkeys :=
  let v22 := gcm_gf_mul v19 v19
  let v23 := gcm_gf_mul v22 v19
  let v24 := gcm_gf_mul v23 v19
  ⟨v19,v22,v23,v24,rolled v19,rolled v22,rolled v23,rolled v24⟩

/-- The body of `.Lgcm_ghash_run4_loop`: four products, reduced together. -/
def ghash_four (k : Subkeys) (m : Mem) (x27 : Nat) (v20 : BitVec 128) : BitVec 128 :=
  let a := gcm_karatsuba_br (rbit (ld1 m x27) ^^^ v20) k.v24 k.v28
  let b := gcm_karatsuba_br (rbit (ld1 m (x27+16))) k.v23 k.v27
  let c := gcm_karatsuba_br (rbit (ld1 m (x27+32))) k.v22 k.v26
  let d := gcm_karatsuba_br (rbit (ld1 m (x27+48))) k.v19 k.v25
  gcm_reduce87 (a.1 ^^^ b.1 ^^^ c.1 ^^^ d.1) (a.2 ^^^ b.2 ^^^ c.2 ^^^ d.2)

/-- `.Lgcm_ghash_run4_loop`, while four blocks are left: `x9`, `x27` and `v20` behind it. -/
def ghashRun4 (k : Subkeys) (m : Mem) : Nat → Nat → BitVec 128 → Nat × Nat × BitVec 128
  | x9+4,x27,v20 => ghashRun4 k m x9 (x27+64) (ghash_four k m x27 v20)
  | x9,x27,v20 => (x9,x27,v20)

/-- `.Lgcm_ghash_run_loop`. -/
def ghashRun1 (k : Subkeys) (m : Mem) : Nat → Nat → BitVec 128 → Nat × BitVec 128
  | 0,x27,v20 => (x27,v20)
  | x9+1,x27,v20 => ghashRun1 k m x9 (x27+16) (gcm_gf_mul (rbit (ld1 m x27) ^^^ v20) k.v19)

/-- `.Lgcm_ghash_run`: a last block that is not full is copied over zeros. -/
def gcm_ghash_run (k : Subkeys) (m : Mem) (x27 x28 : Nat) (v20 : BitVec 128) : BitVec 128 :=
  let x10 := x28 % 16
  let (x9,x27,v20) := ghashRun4 k m (x28 / 16) x27 v20
  let (x27,v20) := ghashRun1 k m x9 x27 v20
  if x10 = 0 then v20
  else gcm_gf_mul (rbit (ld1 (blit (fun _ => 0) 0 (shift m x27) x10) 0) ^^^ v20) k.v19

/-- The block `.Lgcm_ghash_lengths` puts on the stack. -/
def lengthBlock (x9 x10 : BitVec 64) : Mem :=
  fun k => if k < 8 then octet (x9 <<< 3) (7 - k) else octet (x10 <<< 3) (15 - k)

/-- `.Lgcm_ghash_lengths`. -/
def gcm_ghash_lengths (k : Subkeys) (x9 x10 : Nat) (v20 : BitVec 128) : BitVec 128 :=
  gcm_ghash_run k (lengthBlock (BitVec.ofNat 64 x9) (BitVec.ofNat 64 x10)) 0 16 v20

/-! ### Bits in the opposite order -/

theorem reverse_xor {w : Nat} (a b : BitVec w) : (a ^^^ b).reverse = a.reverse ^^^ b.reverse := by
  apply BitVec.eq_of_getLsbD_eq
  intro i inside
  simp only [BitVec.getLsbD_reverse,BitVec.getLsbD_xor,BitVec.getMsbD_xor]

theorem reverse_shift (v : Block) : (v >>> 1).reverse = v.reverse <<< 1 := by
  apply BitVec.eq_of_getLsbD_eq
  intro i inside
  simp only [BitVec.getLsbD_reverse,BitVec.getLsbD_shiftLeft,BitVec.getMsbD_ushiftRight]
  simp [inside]

theorem reverse_R : R.reverse = 0x87#128 := by decide +kernel

theorem reverse_zero : (0 : Block).reverse = 0 := by decide +kernel

theorem mulBelow_serial (x y : Block) (i : Nat) :
    (mulBelow x y i).1.reverse = (serialBelow 0x87#128 x.reverse y.reverse i).1 ∧
      (mulBelow x y i).2.reverse = (serialBelow 0x87#128 x.reverse y.reverse i).2 := by
  induction i with
  | zero => exact ⟨reverse_zero,rfl⟩
  | succ i ih =>
    obtain ⟨sum,multiple⟩ := ih
    simp only [mulBelow,serialBelow,BitVec.getLsbD_reverse]
    refine ⟨?_,?_⟩
    · rw [← sum,← multiple]
      split
      · rw [reverse_xor]
      · rfl
    · rw [timesX,← multiple,BitVec.msb_reverse]
      split
      · rw [reverse_xor,reverse_shift,reverse_R]
      · rw [reverse_shift]

/-- What a block stands for. -/
noncomputable def element (b : Block) : AdjoinRoot (modulus 0x87#128) := residue 0x87#128 b.reverse

theorem element_xor (a b : Block) : element (a ^^^ b) = element a + element b := by
  rw [element,reverse_xor,residue_xor]
  rfl

/-- The multiplication of section 6.3 is the one of the field. -/
theorem element_mul (x y : Block) : element (mul x y) = element x * element y := by
  rw [element,mul,(mulBelow_serial x y 128).1,residue_serial]
  rfl

/-! ### The registers -/

/-- What a register stands for. -/
noncomputable def natural {w : Nat} (v : BitVec w) : AdjoinRoot (modulus 0x87#128) := residue 0x87#128 v

theorem natural_xor {w : Nat} (a b : BitVec w) : natural (a ^^^ b) = natural a + natural b := residue_xor _ a b

theorem natural_reverse (b : Block) : natural b.reverse = element b := rfl

/-- The element whose 64th power moves a register up by a lane. -/
noncomputable def x : AdjoinRoot (modulus 0x87#128) := AdjoinRoot.root (modulus 0x87#128)

theorem natural_append (a b : BitVec 64) : natural (a ++ b) = natural b + x ^ 64 * natural a := residue_append _ a b

theorem natural_lanes (v : BitVec 128) : natural v = natural (lo v) + x ^ 64 * natural (hi v) := by
  rw [← natural_append,hi_append_lo]

theorem natural_pmull (a b : BitVec 128) : natural (pmull a b) = natural (lo a) * natural (lo b) := residue_clmul _ _ _

theorem natural_pmull2 (a b : BitVec 128) : natural (pmull2 a b) = natural (hi a) * natural (hi b) := residue_clmul _ _ _

theorem natural_zero {w : Nat} : natural (0#w) = 0 := residue_zero _

/-- `x^128` is the constant of the reduction. -/
theorem x_pow : x ^ 128 = natural (0x87#64) := by
  have lanes : natural (0#64 ++ 0x87#64) = natural (0x87#64) := by
    rw [natural_append,natural_zero,mul_zero,add_zero]
  exact (root_pow _).trans lanes

theorem lo_rolled (v : BitVec 128) : natural (lo (rolled v)) = natural (lo v) + natural (hi v) := by
  rw [rolled,ext8_eq,lo_xor,lo_append,natural_xor,add_comm]

/-- The lower half of a register moved up a lane. -/
theorem natural_up (v : BitVec 128) : natural (ext8 v18 v) = x ^ 64 * natural (lo v) := by
  rw [ext8_eq,natural_append,show hi v18 = 0#64 from rfl,natural_zero,zero_add]

/-- The upper half moved down a lane. -/
theorem natural_down (v : BitVec 128) : natural (ext8 v v18) = natural (hi v) := by
  rw [ext8_eq,natural_append,show lo v18 = 0#64 from rfl,natural_zero,mul_zero,add_zero]

/-- A product of 256 bits, its lower half and its upper half. -/
noncomputable def wide (p : BitVec 128 × BitVec 128) : AdjoinRoot (modulus 0x87#128) :=
  natural p.1 + x ^ 128 * natural p.2

/-- Three products give the whole one. -/
theorem wide_karatsuba (a b : BitVec 128) : wide (gcm_karatsuba_br a b (rolled b)) = natural a * natural b := by
  have two : (2 : AdjoinRoot (modulus 0x87#128)) = 0 := residue_two _
  rw [wide,gcm_karatsuba_br]
  simp only
  rw [natural_xor,natural_xor,natural_up,natural_down]
  generalize middle : pmull (rolled a) (rolled b) ^^^ pmull a b ^^^ pmull2 a b = mid
  have value : natural mid = natural (lo mid) + x ^ 64 * natural (hi mid) := natural_lanes mid
  rw [← middle,natural_xor,natural_xor,natural_pmull,natural_pmull,natural_pmull2,lo_rolled,lo_rolled,middle] at value
  rw [natural_pmull,natural_pmull2,natural_lanes a,natural_lanes b]
  linear_combination (-(x ^ 64)) * value +
    x ^ 64 * (natural (lo a) * natural (lo b) + natural (hi a) * natural (hi b)) * two

/-- The two phases of the reduction. -/
theorem natural_reduce (v4 v5 : BitVec 128) : natural (gcm_reduce87 v4 v5) = wide (v4,v5) := by
  rw [gcm_reduce87]
  generalize phase : ext8 v18 v5 ^^^ pmull2 v5 v17 = v3
  have retired : natural v3 = x ^ 64 * natural (lo v5) + natural (hi v5) * natural (0x87#64) := by
    rw [← phase,natural_xor,natural_up,natural_pmull2]
    rfl
  have lanes := natural_lanes v3
  rw [natural_xor,natural_xor,natural_up,natural_pmull2,show hi v17 = 0x87#64 from rfl,wide,natural_lanes v5,← x_pow]
  rw [← x_pow] at retired
  linear_combination x ^ 64 * retired - x ^ 64 * lanes

theorem natural_gf_mul (a b : BitVec 128) : natural (gcm_gf_mul a b) = natural a * natural b := by
  exact (natural_reduce _ _).trans (wide_karatsuba a b)

/-! ### The hash -/

/-- The powers of a subkey, and their rolled forms. -/
structure Powers (k : Subkeys) : Prop where
  square : natural k.v22 = natural k.v19 * natural k.v19
  cube : natural k.v23 = natural k.v22 * natural k.v19
  fourth : natural k.v24 = natural k.v23 * natural k.v19
  rolled1 : k.v25 = rolled k.v19
  rolled2 : k.v26 = rolled k.v22
  rolled3 : k.v27 = rolled k.v23
  rolled4 : k.v28 = rolled k.v24

theorem gcm_ghash_powers_powers (v19 : BitVec 128) : Powers (gcm_ghash_powers v19) :=
  ⟨natural_gf_mul _ _,natural_gf_mul _ _,natural_gf_mul _ _,rfl,rfl,rfl,rfl⟩

variable {k : Subkeys}

/-- A block taken in by itself. -/
def hashStep (k : Subkeys) (v20 block : BitVec 128) : BitVec 128 := gcm_gf_mul (rbit block ^^^ v20) k.v19

theorem natural_hashStep (k : Subkeys) (v20 block : BitVec 128) :
    natural (hashStep k v20 block) = (natural (rbit block) + natural v20) * natural k.v19 := by
  rw [hashStep,natural_gf_mul,natural_xor]

theorem wide_sum (a b c d : BitVec 128 × BitVec 128) :
    wide (a.1 ^^^ b.1 ^^^ c.1 ^^^ d.1,a.2 ^^^ b.2 ^^^ c.2 ^^^ d.2) = wide a + wide b + wide c + wide d := by
  simp only [wide,natural_xor]
  ring

/-- Four blocks together are the four one after the other. -/
theorem ghash_four_steps (powers : Powers k) (m : Mem) (a : Nat) (v20 : BitVec 128) :
    ghash_four k m a v20 =
      hashStep k (hashStep k (hashStep k (hashStep k v20 (ld1 m a)) (ld1 m (a+16))) (ld1 m (a+32)))
    (ld1 m (a+48)) := by
  apply residue_injective
  change natural _ = natural _
  rw [ghash_four,natural_reduce,wide_sum,powers.rolled1,powers.rolled2,powers.rolled3,powers.rolled4]
  rw [wide_karatsuba,wide_karatsuba,wide_karatsuba,wide_karatsuba,powers.fourth,powers.cube,powers.square]
  rw [natural_hashStep,natural_hashStep,natural_hashStep,natural_hashStep,natural_xor]
  ring

/-- The groups of four leave the rest as the blocks one by one do. -/
theorem ghashRun4_serial (powers : Powers k) (m : Mem) (x9 x27 : Nat) (v20 : BitVec 128) :
    (let (x9,x27,v20) := ghashRun4 k m x9 x27 v20
     ghashRun1 k m x9 x27 v20) = ghashRun1 k m x9 x27 v20 := by
  fun_induction ghashRun4 k m x9 x27 v20 with
  | case1 x27 v20 x9 ih =>
    rw [ih,ghash_four_steps powers]
    rfl
  | case2 => rfl

/-- A register in the opposite order is the block of the octets it holds. -/
theorem rbit_block {v : BitVec 128} {l : List UInt8} (held : ∀ k < 16, octet v k = l.getD k 0) :
    rbit v = (ofOctets l).reverse := by
  apply BitVec.eq_of_getLsbD_eq
  intro i inside
  rw [rbit,bit_pack _ inside,BitVec.getLsbD_reverse,held _ (by omega),BitVec.getMsbD_eq_getLsbD,decide_eq_true (by omega),
    Bool.true_and,BitVec.getLsbD_reverse,BitVec.getMsbD_eq_getLsbD,decide_eq_true inside,Bool.true_and,ofOctets,bit_pack _ (by omega),
    show 15 - (128 - 1 - i) / 8 = i / 8 by omega,show (128 - 1 - i) % 8 = 8 - 1 - i % 8 by omega]

theorem rbit_full (m : Mem) (a : Nat) {n : Nat} (full : 16 ≤ n) : rbit (ld1 m a) = (ofOctets (slice m a n)).reverse :=
  rbit_block fun i inside => by rw [octet_ld1 _ _ inside,slice_getD _ _ (by omega)]

theorem rbit_rest (m : Mem) (a : Nat) {n : Nat} :
    rbit (ld1 (blit (fun _ => 0) 0 (shift m a) n) 0) = (ofOctets (slice m a n)).reverse := by
  refine rbit_block fun i inside => ?_
  rw [octet_ld1 _ _ inside,Nat.zero_add]
  by_cases held : i < n
  · rw [slice_getD _ _ held,blit_inside (by omega) (by omega)]
    rfl
  · rw [blit_outside (by omega),List.getD_eq_default _ _ (by simpa using held)]

theorem blocks_full (m : Mem) (a n : Nat) :
    blocks (slice m a (16 + n)) = ofOctets (slice m a (16 + n)) :: blocks (slice m (a+16) n) := by
  rw [blocks,if_neg (by rw [← List.length_eq_zero_iff,slice_length]; omega)]
  congr 2
  rw [slice_add,List.drop_left' (slice_length _ _ _)]

/-- The subkey in the code is the one of the hash. -/
def Keyed (h : Block) (k : Subkeys) : Prop := k.v19 = h.reverse ∧ Powers k

variable {h : Block}

theorem hashStep_block (keyed : Keyed h k) {y : Block} {v : BitVec 128} {l : List UInt8}
    (block : rbit v = (ofOctets l).reverse) :
    hashStep k y.reverse v = (mul (y ^^^ ofOctets l) h).reverse := by
  apply residue_injective
  change natural _ = natural _
  rw [natural_hashStep,block,keyed.1,natural_reverse,natural_reverse,natural_reverse,natural_reverse,element_mul,
    element_xor,add_comm]

/-- One block after the other, and the rest. -/
theorem ghashRun1_blocks (keyed : Keyed h k) (m : Mem) (n : Nat) {r : Nat} (rest : r < 16) (a : Nat) (y : Block) :
    (let (x27,v20) := ghashRun1 k m n a y.reverse
     if r = 0 then v20 else hashStep k v20 (ld1 (blit (fun _ => 0) 0 (shift m x27) r) 0)) =
      (ghashFrom h y (blocks (slice m a (16 * n + r)))).reverse := by
  induction n generalizing a y with
  | zero =>
    rw [ghashRun1]
    by_cases none : r = 0
    · subst none
      rw [slice_zero,blocks,if_pos rfl]
      rfl
    · have some : slice m a (16 * 0 + r) ≠ [] := by
        rw [Ne,← List.length_eq_zero_iff,slice_length]
        omega
      change (if r = 0 then y.reverse else hashStep k y.reverse _) = _
      rw [if_neg none,hashStep_block keyed (rbit_rest m a),blocks,if_neg some,
        List.drop_eq_nil_of_le (by simp; omega),blocks,if_pos rfl,Nat.mul_zero,Nat.zero_add]
      rfl
  | succ n ih =>
    have step := hashStep_block keyed (y := y) (rbit_full m a (n := 16 * (n+1) + r) (by omega))
    rw [ghashRun1]
    rw [hashStep] at step
    rw [step,ih,show 16 * (n+1) + r = 16 + (16 * n + r) by omega,blocks_full]
    rfl

theorem gcm_ghash_run_blocks (keyed : Keyed h k) (m : Mem) (a n : Nat) (y : Block) :
    gcm_ghash_run k m a n y.reverse = (ghashFrom h y (blocks (slice m a n))).reverse := by
  have serial := ghashRun4_serial keyed.2 m (n / 16) a y.reverse
  have whole := ghashRun1_blocks keyed m (n / 16) (Nat.mod_lt n (by decide)) a y
  rw [Nat.div_add_mod,← serial] at whole
  exact whole

theorem shift_bits (n : Nat) : BitVec.ofNat 64 n <<< 3 = BitVec.ofNat 64 (8 * n) := by
  rw [BitVec.shiftLeft_eq_mul_twoPow,BitVec.ofNat_mul,mul_comm]
  rfl

/-- The block of the lengths, read back. -/
theorem lengths_block (aad ct : Nat) :
    blocks (slice (lengthBlock (BitVec.ofNat 64 aad) (BitVec.ofNat 64 ct)) 0 16) = [lengths aad ct] := by
  have octets : ofOctets (slice (lengthBlock (BitVec.ofNat 64 aad) (BitVec.ofNat 64 ct)) 0 16) = lengths aad ct := by
    refine register_ext fun i inside => ?_
    rw [ofOctets,octet_pack _ inside,slice_getD _ _ (by omega),lengthBlock,shift_bits,shift_bits,lengths]
    by_cases low : i < 8
    · rw [if_neg (by omega),octet_append_low _ _ (by omega)]
      congr 1
      omega
    · rw [if_pos (by omega),octet_append_high (j := 8) _ _ rfl (by omega)]
      congr 1
      omega
  rw [show (16 : Nat) = 16 + 0 from rfl,blocks_full,Nat.add_zero,octets,slice_zero,blocks,if_pos rfl]

theorem gcm_ghash_lengths_blocks (keyed : Keyed h k) (aad ct : Nat) (y : Block) :
    gcm_ghash_lengths k aad ct y.reverse = (ghashFrom h y [lengths aad ct]).reverse := by
  rw [gcm_ghash_lengths,gcm_ghash_run_blocks keyed,lengths_block]

/-- Two strings and their lengths, under the subkey of the hash. -/
theorem gcm_ghash_strings (keyed : Keyed h k) (m : Mem) (aad alen ct n : Nat) :
    gcm_ghash_lengths k alen n (gcm_ghash_run k m ct n (gcm_ghash_run k m aad alen 0)) =
      (ghash h (blocks (slice m aad alen) ++ blocks (slice m ct n) ++ [lengths alen n])).reverse := by
  have first := gcm_ghash_run_blocks keyed m aad alen 0
  rw [reverse_zero] at first
  rw [first,gcm_ghash_run_blocks keyed,gcm_ghash_lengths_blocks keyed,ghash,ghashFrom,ghashFrom,ghashFrom,ghashFrom,
    List.foldl_append,List.foldl_append]

end Sarm.Ghash
