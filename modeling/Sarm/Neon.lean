import Mathlib.Data.BitVec
import Sarm.Memory

/-!
Vector registers of sixteen octets, octet 0 in the lowest bits, and the instructions on
them that the cipher code uses: loads and stores, permutations of octets and lanes, bit
reversal, and the two steps of an AES round.
-/
namespace Sarm.Neon
open Sarm.Memory

/-- An octet of a register, or of a word. -/
def octet {w : Nat} (v : BitVec w) (k : Nat) : UInt8 := ⟨v.extractLsb' (8 * k) 8⟩

/-- The register with these octets. -/
def pack (f : Nat → UInt8) : BitVec 128 :=
  (BitVec.ofBoolListLE ((List.range 128).map fun i => (f (i / 8)).toBitVec.getLsbD (i % 8))).setWidth 128

/-! ### Octets -/

theorem bit_octet {w : Nat} (v : BitVec w) (k : Nat) {i : Nat} (inside : i < 8) :
    (octet v k).toBitVec.getLsbD i = v.getLsbD (8 * k + i) := by
  simp [octet,inside]

theorem octet_bit {w : Nat} (v : BitVec w) (i : Nat) : v.getLsbD i = (octet v (i / 8)).toBitVec.getLsbD (i % 8) := by
  rw [bit_octet v _ (Nat.mod_lt _ (by decide)),Nat.div_add_mod]

theorem bit_pack (f : Nat → UInt8) {i : Nat} (inside : i < 128) :
    (pack f).getLsbD i = (f (i / 8)).toBitVec.getLsbD (i % 8) := by
  simp only [pack,BitVec.getLsbD_setWidth,BitVec.getLsbD_ofBoolListLE]
  simp [inside,List.getD_eq_getElem?_getD]

theorem octet_ext {a b : UInt8} (same : ∀ i < 8, a.toBitVec.getLsbD i = b.toBitVec.getLsbD i) : a = b :=
  UInt8.toBitVec_inj.mp (BitVec.eq_of_getLsbD_eq same)

@[simp] theorem octet_pack (f : Nat → UInt8) {k : Nat} (inside : k < 16) : octet (pack f) k = f k := by
  apply octet_ext
  intro i small
  rw [bit_octet _ _ small,bit_pack f (by omega)]
  congr 3 <;> omega

/-- Words with the same octets. -/
theorem word_ext {w : Nat} (n : Nat) (whole : w ≤ 8 * n) {a b : BitVec w} (same : ∀ k < n, octet a k = octet b k) :
    a = b := by
  apply BitVec.eq_of_getLsbD_eq
  intro i inside
  rw [octet_bit a,octet_bit b,same _ (by omega)]

theorem register_ext {a b : BitVec 128} (same : ∀ k < 16, octet a k = octet b k) : a = b := word_ext 16 le_rfl same

@[simp] theorem pack_octet (v : BitVec 128) : pack (octet v) = v :=
  register_ext fun _ inside => octet_pack _ inside

theorem pack_congr {f g : Nat → UInt8} (same : ∀ k < 16, f k = g k) : pack f = pack g :=
  register_ext fun k inside => by rw [octet_pack f inside,octet_pack g inside,same k inside]

@[simp] theorem octet_xor {w : Nat} (a b : BitVec w) (k : Nat) : octet (a ^^^ b) k = octet a k ^^^ octet b k := by
  apply octet_ext
  intro i small
  rw [bit_octet _ _ small,UInt8.toBitVec_xor,BitVec.getLsbD_xor,BitVec.getLsbD_xor,bit_octet _ _ small,
    bit_octet _ _ small]

theorem octet_zero {w : Nat} (k : Nat) : octet (0#w) k = 0 := by
  apply octet_ext
  intro i small
  rw [bit_octet _ _ small]
  simp

/-! ### Memory -/

/-- `ld1`: sixteen octets. -/
def ld1 (m : Mem) (a : Nat) : BitVec 128 := pack (shift m a)

/-- `st1`. -/
def st1 (m : Mem) (a : Nat) (v : BitVec 128) : Mem := blit m a (octet v) 16

theorem octet_ld1 (m : Mem) (a : Nat) {k : Nat} (inside : k < 16) : octet (ld1 m a) k = m (a+k) := octet_pack _ inside

theorem ld1_congr {m m' : Mem} {a a' : Nat} (same : ∀ k < 16, m (a+k) = m' (a'+k)) : ld1 m a = ld1 m' a' :=
  pack_congr same

@[simp] theorem ld1_st1 (m : Mem) (a : Nat) (v : BitVec 128) : ld1 (st1 m a v) a = v := by
  apply register_ext
  intro k inside
  rw [octet_ld1 _ _ inside,st1,blit_inside (by omega) (by omega),Nat.add_sub_cancel_left]

theorem st1_outside {m : Mem} {a i : Nat} (v : BitVec 128) (out : i < a ∨ a + 16 ≤ i) : st1 m a v i = m i :=
  blit_outside out

theorem ld1_st1_apart {m : Mem} {a b : Nat} (v : BitVec 128) (apart : b + 16 ≤ a ∨ a + 16 ≤ b) :
    ld1 (st1 m a v) b = ld1 m b :=
  ld1_congr fun k inside => st1_outside v (by omega)

/-! ### Lanes -/

/-- The lower doubleword. -/
def lo (v : BitVec 128) : BitVec 64 := v.extractLsb' 0 64

/-- The upper doubleword. -/
def hi (v : BitVec 128) : BitVec 64 := v.extractLsb' 64 64

/-- `ext …, #8`: the upper half of the first, and over it the lower half of the second. -/
def ext8 (n m : BitVec 128) : BitVec 128 := (m ++ n).extractLsb' 64 128

theorem bit_lo (v : BitVec 128) {i : Nat} (inside : i < 64) : (lo v).getLsbD i = v.getLsbD i := by
  rw [lo,BitVec.getLsbD_extractLsb',decide_eq_true inside,Bool.true_and,Nat.zero_add]

theorem bit_hi (v : BitVec 128) {i : Nat} (inside : i < 64) : (hi v).getLsbD i = v.getLsbD (64 + i) := by
  rw [hi,BitVec.getLsbD_extractLsb',decide_eq_true inside,Bool.true_and]

theorem hi_append_lo (v : BitVec 128) : hi v ++ lo v = v := by
  apply BitVec.eq_of_getLsbD_eq
  intro i inside
  rw [BitVec.getLsbD_append]
  split
  next low => exact bit_lo v low
  next high =>
    rw [bit_hi v (by omega)]
    congr 1
    omega

theorem lo_append (a b : BitVec 64) : lo (a ++ b) = b := by
  apply BitVec.eq_of_getLsbD_eq
  intro i inside
  rw [bit_lo _ inside,BitVec.getLsbD_append,if_pos inside]

theorem lo_xor (a b : BitVec 128) : lo (a ^^^ b) = lo a ^^^ lo b := BitVec.extractLsb'_xor

theorem ext8_eq (n m : BitVec 128) : ext8 n m = lo m ++ hi n := by
  apply BitVec.eq_of_getLsbD_eq
  intro i inside
  rw [ext8,BitVec.getLsbD_extractLsb',decide_eq_true inside,Bool.true_and,BitVec.getLsbD_append,BitVec.getLsbD_append]
  by_cases low : i < 64
  · rw [if_pos (by omega),if_pos low,bit_hi n low]
  · rw [if_neg (by omega),if_neg low,bit_lo m (by omega)]
    exact congrArg _ (by omega)

/-- A lane of 32 bits. -/
def lane (v : BitVec 128) (j : Nat) : BitVec 32 := v.extractLsb' (32 * j) 32

/-- The register with these four lanes, lane 0 first. -/
def ofLanes (a b c d : BitVec 32) : BitVec 128 := d ++ c ++ b ++ a

theorem octet_lane (v : BitVec 128) (j : Nat) {k : Nat} (inside : k < 4) : octet (lane v j) k = octet v (4*j + k) := by
  apply octet_ext
  intro i small
  rw [bit_octet _ _ small,bit_octet _ _ small,lane,BitVec.getLsbD_extractLsb']
  simp only [show 8 * k + i < 32 by omega,decide_true,Bool.true_and]
  congr 1
  omega

theorem octet_append_low {w n : Nat} (a : BitVec w) (b : BitVec n) {k : Nat} (inside : 8 * k + 8 ≤ n) :
    octet (a ++ b) k = octet b k := by
  apply octet_ext
  intro i small
  rw [bit_octet _ _ small,bit_octet _ _ small,BitVec.getLsbD_append,if_pos (by omega)]

theorem octet_append_high {w n : Nat} (a : BitVec w) (b : BitVec n) {j k : Nat} (whole : n = 8 * j) (past : j ≤ k) :
    octet (a ++ b) k = octet a (k - j) := by
  apply octet_ext
  intro i small
  rw [bit_octet _ _ small,bit_octet _ _ small,BitVec.getLsbD_append,if_neg (by omega)]
  congr 1
  omega

/-- An octet of a run of octets. -/
theorem octet_inside {w n : Nat} (v : BitVec w) {s j k : Nat} (start : s = 8 * j) (inside : 8 * k + 8 ≤ n) :
    octet (v.extractLsb' s n) k = octet v (j + k) := by
  apply octet_ext
  intro i small
  rw [bit_octet _ _ small,bit_octet _ _ small,BitVec.getLsbD_extractLsb',decide_eq_true (by omega),Bool.true_and,start]
  congr 1
  omega

/-- `rev` of a word. -/
def rev32 (x : BitVec 32) : BitVec 32 :=
  x.extractLsb' 0 8 ++ x.extractLsb' 8 8 ++ x.extractLsb' 16 8 ++ x.extractLsb' 24 8

theorem octet_extract {w : Nat} (v : BitVec w) (j : Nat) : octet (v.extractLsb' (8 * j) 8) 0 = octet v j :=
  octet_inside v rfl le_rfl

theorem octet_rev32 (x : BitVec 32) {k : Nat} (inside : k < 4) : octet (rev32 x) k = octet x (3 - k) := by
  rw [rev32]
  match k,inside with
  | 0,_ => exact (octet_append_low _ _ le_rfl).trans (octet_extract x 3)
  | 1,_ =>
    rw [octet_append_high (j := 1) _ _ rfl le_rfl]
    exact (octet_append_low _ _ le_rfl).trans (octet_extract x 2)
  | 2,_ =>
    rw [octet_append_high (j := 1) _ _ rfl (by decide),octet_append_high (j := 1) _ _ rfl le_rfl]
    exact (octet_append_low _ _ le_rfl).trans (octet_extract x 1)
  | 3,_ =>
    rw [octet_append_high (j := 1) _ _ rfl (by decide),octet_append_high (j := 1) _ _ rfl (by decide),
      octet_append_high (j := 1) _ _ rfl le_rfl]
    exact octet_extract x 0

/-! ### Octet operations -/

/-- `rbit`: each octet with its bits in the opposite order. -/
def rbit (v : BitVec 128) : BitVec 128 := pack fun k => ⟨(octet v k).toBitVec.reverse⟩

/-- `tbl`: octets picked by index, nothing for an index past the end. -/
def tbl (v index : BitVec 128) : BitVec 128 :=
  pack fun k => if (octet index k).toNat < 16 then octet v (octet index k).toNat else 0

/-- `uaddlv`: the sum of the octets. -/
def uaddlv (v : BitVec 128) : BitVec 16 := BitVec.ofNat 16 ((List.range 16).map fun k => (octet v k).toNat).sum

/-! ### Words in memory -/

/-- `ldr` of `w` bits, at most 128. -/
def ldr (w : Nat) (m : Mem) (a : Nat) : BitVec w := (ld1 m a).setWidth w

/-- `str`. -/
def str {w : Nat} (m : Mem) (a : Nat) (v : BitVec w) : Mem := blit m a (octet v) (w / 8)

theorem octet_setWidth {w n : Nat} (v : BitVec w) {k : Nat} (inside : 8 * k + 8 ≤ n) :
    octet (v.setWidth n) k = octet v k := by
  apply octet_ext
  intro i small
  rw [bit_octet _ _ small,bit_octet _ _ small,BitVec.getLsbD_setWidth,decide_eq_true (by omega),Bool.true_and]

theorem octet_ldr {w : Nat} (m : Mem) (a : Nat) {k : Nat} (inside : 8 * k + 8 ≤ w) (small : k < 16) :
    octet (ldr w m a) k = m (a+k) := by
  rw [ldr,octet_setWidth _ inside,octet_ld1 _ _ small]

theorem ldr_congr {w : Nat} {m m' : Mem} {a a' : Nat} (n : Nat) (whole : w = 8 * n) (fits : n ≤ 16)
    (same : ∀ k < n, m (a+k) = m' (a'+k)) : ldr w m a = ldr w m' a' := by
  apply word_ext n (by omega)
  intro k inside
  rw [octet_ldr _ _ (by omega) (by omega),octet_ldr _ _ (by omega) (by omega),same k inside]

theorem ldr_str {w : Nat} (n : Nat) (whole : w = 8 * n) (fits : n ≤ 16) (m : Mem) (a : Nat) (v : BitVec w) :
    ldr w (str m a v) a = v := by
  apply word_ext n (by omega)
  intro k inside
  rw [octet_ldr _ _ (by omega) (by omega),str,blit_inside (by omega) (by omega),Nat.add_sub_cancel_left]

theorem str_outside {w : Nat} {m : Mem} {a i : Nat} (v : BitVec w) (out : i < a ∨ a + w / 8 ≤ i) : str m a v i = m i :=
  blit_outside out

theorem ldr_str_apart {w v : Nat} (n : Nat) (whole : w = 8 * n) (fits : n ≤ 16) {m : Mem} {a b : Nat} (x : BitVec v)
    (apart : b + n ≤ a ∨ a + v / 8 ≤ b) : ldr w (str m a x) b = ldr w m b :=
  ldr_congr n whole fits fun k inside => str_outside x (by omega)

/-- `rev`: the octets of a doubleword in the opposite order. -/
def rev64 (v : BitVec 64) : BitVec 64 := (pack fun k => octet v (7 - k)).setWidth 64

theorem octet_rev64 (v : BitVec 64) {k : Nat} (inside : k < 8) : octet (rev64 v) k = octet v (7 - k) := by
  rw [rev64,octet_setWidth _ (by omega),octet_pack _ (by omega)]

end Sarm.Neon
