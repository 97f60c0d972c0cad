import Sarm.Aes
import Sarm.Ghash

/-!
AES-128-GCM: the mode of SP 800-38D with a 96-bit IV and a 128-bit tag, and the code,
which takes the counter blocks four at a time and keeps what depends on the key in a
context in memory.
-/
namespace Sarm.Gcm
open Sarm.Memory Sarm.Neon Sarm.Aes Sarm.Ghash

/-! ### SP 800-38D -/

/-- The octets of a block. -/
def octets (b : Block) : List UInt8 := (List.range 16).map fun k => octet b (15 - k)

/-- The last 32 bits plus one. -/
def inc32 (b : Block) : Block := b.extractLsb' 32 96 ++ (b.extractLsb' 0 32 + 1)

/-- Counter mode from the block `icb` on; the last block may be short. -/
def gctr (ciph : Block → Block) (icb : Block) (l : List UInt8) : List UInt8 :=
  if l = [] then [] else List.zipWith (· ^^^ ·) l (octets (ciph icb)) ++ gctr ciph (inc32 icb) (l.drop 16)
  termination_by l.length
  decreasing_by
    rw [List.length_drop]
    have := List.length_pos_of_ne_nil ‹l ≠ []›
    omega

/-- The block before the counter, for an IV of 96 bits. -/
def j0 (iv : List UInt8) : Block := ofOctets (iv ++ [0,0,0,1])

/-- The hash of the two strings and of their lengths. -/
def digest (ciph : Block → Block) (aad ct : List UInt8) : Block :=
  ghash (ciph 0) (blocks aad ++ blocks ct ++ [lengths aad.length ct.length])

def authTag (ciph : Block → Block) (iv aad ct : List UInt8) : List UInt8 := octets (digest ciph aad ct ^^^ ciph (j0 iv))

/-- The ciphertext and the tag. -/
def encrypt (ciph : Block → Block) (iv aad pt : List UInt8) : List UInt8 × List UInt8 :=
  let ct := gctr ciph (inc32 (j0 iv)) pt
  (ct,authTag ciph iv aad ct)

/-- The plaintext, if the tag is the right one. -/
def decrypt (ciph : Block → Block) (iv aad ct tag : List UInt8) : Option (List UInt8) :=
  if tag = authTag ciph iv aad ct then some (gctr ciph (inc32 (j0 iv)) ct) else none

/-- The block cipher under a key. -/
def aes128 (key : List UInt8) (b : Block) : Block :=
  pack fun k => cipher (ofBytes key) (fun j => octet b (15 - j)) (15 - k)

/-- Octet by octet. -/
theorem gctr_get (ciph : Block → Block) (icb : Block) (l : List UInt8) (i : Nat) :
    (gctr ciph icb l)[i]? = l[i]?.map (· ^^^ (octets (ciph (inc32^[i / 16] icb))).getD (i % 16) 0) := by
  fun_induction gctr ciph icb l generalizing i with
  | case1 icb => simp
  | case2 icb l some ih =>
    have width : (octets (ciph icb)).length = 16 := by simp [octets]
    rw [List.getElem?_append,List.length_zipWith,width]
    by_cases first : i < min l.length 16
    · rw [if_pos first,List.getElem?_zipWith,List.getElem?_eq_getElem (by omega),List.getElem?_eq_getElem (by omega),
        Nat.div_eq_of_lt (by omega),Nat.mod_eq_of_lt (by omega),Function.iterate_zero_apply,List.getD_eq_getElem _ _
          (by omega)]
      rfl
    · rw [if_neg first,ih,List.getElem?_drop]
      by_cases short : l.length ≤ i
      · rw [List.getElem?_eq_none (by omega),List.getElem?_eq_none short,Option.map_none,Option.map_none]
      · rw [show min l.length 16 = 16 by omega,show 16 + (i - 16) = i by omega,← Function.iterate_succ_apply,
          show ((i - 16) / 16).succ = i / 16 by omega,show (i - 16) % 16 = i % 16 by omega]

theorem gctr_length (ciph : Block → Block) (icb : Block) (l : List UInt8) : (gctr ciph icb l).length = l.length := by
  fun_induction gctr ciph icb l with
  | case1 => rfl
  | case2 icb l some ih =>
    rw [List.length_append,List.length_zipWith,ih,List.length_drop]
    simp only [octets,List.length_map,List.length_range]
    omega

/-- Counter mode undoes itself. -/
theorem gctr_gctr (ciph : Block → Block) (icb : Block) (l : List UInt8) : gctr ciph icb (gctr ciph icb l) = l := by
  apply List.ext_getElem?
  intro i
  rw [gctr_get,gctr_get,Option.map_map]
  cases l[i]? with
  | none => rfl
  | some x => exact congrArg some ((UInt8.xor_assoc _ _ _).trans ((congrArg _ UInt8.xor_self).trans UInt8.xor_zero))

theorem encrypt_length (ciph : Block → Block) (iv aad pt : List UInt8) :
    (encrypt ciph iv aad pt).1.length = pt.length ∧ (encrypt ciph iv aad pt).2.length = 16 :=
  ⟨gctr_length _ _ _,by simp [encrypt,authTag,octets]⟩

/-- Opening gives back what was sealed. -/
theorem decrypt_encrypt (ciph : Block → Block) (iv aad pt : List UInt8) :
    decrypt ciph iv aad (encrypt ciph iv aad pt).1 (encrypt ciph iv aad pt).2 = some pt := by
  rw [decrypt,encrypt,if_pos rfl,gctr_gctr]

/-! ### The code -/

/-- `gcm_ctr_block`: lane 3 of the template replaced by the counter. -/
def gcm_ctr_block (v27 : BitVec 128) (ctr : BitVec 32) : BitVec 128 := rev32 ctr ++ v27.extractLsb' 0 96

/-- The IV, and 1 in 32 bits. -/
def counterBlock (m : Mem) (iv : Nat) : BitVec 128 := pack fun k => if k < 12 then m (iv+k) else if k = 15 then 1 else 0

/-- The subkeys of a context. -/
def contextSubkeys (m : Mem) (x0 : Nat) : Subkeys :=
  ⟨ld1 m (x0+176),ld1 m (x0+192),ld1 m (x0+208),ld1 m (x0+224),ld1 m (x0+240),ld1 m (x0+256),ld1 m (x0+272),
    ld1 m (x0+288)⟩

def aes_gcm_ctx_init (m : Mem) (x0 x1 : Nat) : Mem :=
  let m := aes128_key_expand m x0 x1
  let m := st1 m (x1+176) (aes_block1 (roundKey m x1) 0)
  let k := gcm_ghash_powers (rbit (ld1 m (x1+176)))
  let m := st1 m (x1+176) k.v19
  let m := st1 (st1 (st1 (st1 m (x1+192) k.v22) (x1+208) k.v23) (x1+224) k.v24) (x1+240) k.v25
  st1 (st1 (st1 m (x1+256) k.v26) (x1+272) k.v27) (x1+288) k.v28

/-- Where the counter mode is: the memory, what is read, what is written, the counter. -/
structure Ctr where
  m : Mem
  x21 : Nat
  x23 : Nat
  w10 : BitVec 32

/-- The body of `.Lgcm_enc_block4`: four blocks read, then four written. -/
def ctrBlock4 (rk : Nat → BitVec 128) (v27 : BitVec 128) (s : Ctr) : Ctr :=
  let f := aes_block4 rk ⟨gcm_ctr_block v27 s.w10,gcm_ctr_block v27 (s.w10+1),gcm_ctr_block v27 (s.w10+2),
    gcm_ctr_block v27 (s.w10+3)⟩
  let v4 := ld1 s.m s.x21
  let v5 := ld1 s.m (s.x21+16)
  let v6 := ld1 s.m (s.x21+32)
  let v7 := ld1 s.m (s.x21+48)
  let m := st1 (st1 s.m s.x23 (f.v0 ^^^ v4)) (s.x23+16) (f.v1 ^^^ v5)
  let m := st1 (st1 m (s.x23+32) (f.v2 ^^^ v6)) (s.x23+48) (f.v3 ^^^ v7)
  ⟨m,s.x21+64,s.x23+64,s.w10+4⟩

/-- The body of `.Lgcm_enc_block1`. -/
def ctrBlock1 (rk : Nat → BitVec 128) (v27 : BitVec 128) (s : Ctr) : Ctr :=
  ⟨st1 s.m s.x23 (aes_block1 rk (gcm_ctr_block v27 s.w10) ^^^ ld1 s.m s.x21),s.x21+16,s.x23+16,s.w10+1⟩

/-- `.Lgcm_enc_tailloop`: octet by octet, against the keystream on the stack. -/
def ctrTail (keystream : BitVec 128) (m : Mem) (x21 x23 : Nat) : Nat → Mem
  | 0 => m
  | x28+1 =>
    let m := ctrTail keystream m x21 x23 x28
    store m (x23 + x28) (m (x21 + x28) ^^^ octet keystream x28)

/-- The counter mode of `aes_gcm_encrypt_ctx` and of `aes_gcm_decrypt_ctx`. -/
def gcmCtr (rk : Nat → BitVec 128) (v27 : BitVec 128) (m : Mem) (x21 x22 x23 : Nat) : Mem :=
  let x28 := x22 / 16
  let x27 := x22 % 16
  let s := (ctrBlock4 rk v27)^[x28 / 4] ⟨m,x21,x23,2⟩
  let s := (ctrBlock1 rk v27)^[x28 % 4] s
  if x27 = 0 then s.m else ctrTail (aes_block1 rk (gcm_ctr_block v27 s.w10)) s.m s.x21 s.x23 x27

/-- The tag of what is in memory, as both directions compute it. -/
def gcmTag (k : Subkeys) (tagmask : BitVec 128) (m : Mem) (aad alen ct n : Nat) : BitVec 128 :=
  let v20 := gcm_ghash_run k m aad alen 0
  let v20 := gcm_ghash_run k m ct n v20
  rbit (gcm_ghash_lengths k alen n v20) ^^^ tagmask

def aes_gcm_encrypt_ctx (m : Mem) (ctx iv aad alen pt n ct tag : Nat) : Mem :=
  let jbuf := counterBlock m iv
  let rk := roundKey m ctx
  let tagmask := aes_block1 rk jbuf
  let m := gcmCtr rk jbuf m pt n ct
  st1 m tag (gcmTag (contextSubkeys m ctx) tagmask m aad alen ct n)

/-- The result in `x0`, and the memory behind it. -/
def aes_gcm_decrypt_ctx (m : Mem) (ctx iv aad alen ct n tag pt : Nat) : Nat × Mem :=
  let jbuf := counterBlock m iv
  let rk := roundKey m ctx
  let tagmask := aes_block1 rk jbuf
  let computed := gcmTag (contextSubkeys m ctx) tagmask m aad alen ct n
  if uaddlv (computed ^^^ ld1 m tag) ≠ 0 then (0,m) else (1,gcmCtr rk jbuf m ct n pt)

/-! ### Registers and blocks -/

/-- The register that a load of the block gives. -/
def Wire (v : BitVec 128) (b : Block) : Prop := ∀ k < 16, octet v k = octet b (15 - k)

theorem Wire.xor {v v' : BitVec 128} {b b' : Block} (first : Wire v b) (second : Wire v' b') :
    Wire (v ^^^ v') (b ^^^ b') :=
  fun k inside => by rw [octet_xor,octet_xor,first k inside,second k inside]

/-- In the opposite order of bits. -/
theorem Wire.rbit_eq {v : BitVec 128} {b : Block} (wire : Wire v b) : rbit v = b.reverse := by
  have block : ofOctets (octets b) = b := by
    refine register_ext fun k inside => ?_
    rw [ofOctets,octet_pack _ inside,octets,List.getD_eq_getElem _ _ (by simp; omega)]
    simp only [List.getElem_map,List.getElem_range]
    congr 1
    omega
  rw [← block]
  refine rbit_block fun k inside => ?_
  rw [wire k inside,octets,List.getD_eq_getElem _ _ (by simpa using inside)]
  simp

/-- Back from it. -/
theorem wire_rbit (b : Block) : Wire (rbit b.reverse) b := by
  intro k inside
  apply octet_ext
  intro i small
  rw [rbit,octet_pack _ inside,BitVec.getLsbD_reverse,BitVec.getMsbD_eq_getLsbD,decide_eq_true small,Bool.true_and,
    bit_octet _ _ (by omega),BitVec.getLsbD_reverse,BitVec.getMsbD_eq_getLsbD,decide_eq_true
      (by omega),Bool.true_and,bit_octet _ _ small]
  congr 1
  omega

theorem Wire.octets {v : BitVec 128} {b : Block} (wire : Wire v b) : octets b = slice (octet v) 0 16 := by
  apply List.ext_getElem (by simp [Gcm.octets])
  intro k first second
  have inside : k < 16 := by simpa using second
  simp [Gcm.octets,slice,wire k inside]

/-! ### The block cipher -/

/-- A block cipher on registers. -/
def Enciphers (ciph : Block → Block) (rk : Nat → BitVec 128) : Prop := ∀ v b, Wire v b → Wire (aes_block1 rk v) (ciph b)

theorem roundWords_congr {key key' : Nat → UInt8} (keys : ∀ k < 16, key k = key' k) :
    roundWords key = roundWords key' := by
  have words (i : Nat) : keyExpansion key i = keyExpansion key' i := by
    induction i using Nat.strongRecOn with
    | ind i ih =>
      rw [keyExpansion.eq_def key i,keyExpansion.eq_def key' i]
      by_cases first : i < 4
      · rw [if_pos first,if_pos first]
        funext j
        exact keys _ (by omega)
      · rw [if_neg first,if_neg first,ih (i-1) (by omega),ih (i-4) (by omega)]
  funext round c
  exact words _

theorem enciphers {rk : Nat → BitVec 128} {key : List UInt8} (scheduled : Scheduled (ofBytes key) rk) :
    Enciphers (aes128 key) rk := by
  intro v b wire k inside
  rw [aes_block1_cipher scheduled v inside,aes128,octet_pack _ (by omega),cipher_congr _ wire,
    show 15 - (15 - k) = k by omega]

/-! ### Counter mode -/

/-- The block with this counter. -/
def counted (j : Block) (ctr : BitVec 32) : Block := j.extractLsb' 32 96 ++ ctr

theorem inc32_counted (j : Block) (ctr : BitVec 32) : inc32 (counted j ctr) = counted j (ctr + 1) := by
  rw [inc32,counted,BitVec.extractLsb'_append_eq_left,BitVec.extractLsb'_append_eq_right]
  rfl

theorem Wire.counted {v27 : BitVec 128} {j : Block} (wire : Wire v27 j) (ctr : BitVec 32) :
    Wire (gcm_ctr_block v27 ctr) (Gcm.counted j ctr) := by
  intro k inside
  by_cases low : k < 12
  · rw [gcm_ctr_block,octet_append_low _ _ (by omega),Gcm.counted,octet_append_high (j := 4) _ _ rfl (by omega),
      octet_inside _ (j := 0) rfl (by omega),wire _ (by omega),octet_inside _ (j := 4) rfl (by omega)]
    congr 1
    omega
  · rw [gcm_ctr_block,octet_append_high (j := 12) _ _ rfl (by omega),octet_rev32 _ (by omega),Gcm.counted,
      octet_append_low _ _ (by omega)]
    congr 1
    omega

theorem counterBlock_wire (m : Mem) (iv : Nat) : Wire (counterBlock m iv) (j0 (slice m iv 12)) := by
  intro k inside
  rw [counterBlock,octet_pack _ inside,j0,ofOctets,octet_pack _ (by omega),show 15 - (15 - k) = k by omega]
  by_cases low : k < 12
  · rw [if_pos low,List.getD_append _ _ _ _ (by simpa using low),slice_getD _ _ low]
  · rw [if_neg low,List.getD_append_right _ _ _ _ (by simpa using low),slice_length]
    obtain rfl | rfl | rfl | rfl : k = 12 ∨ k = 13 ∨ k = 14 ∨ k = 15 := by omega
    all_goals rfl

/-- The first block of the text. -/
theorem j0_counted (m : Mem) (iv : Nat) : inc32 (j0 (slice m iv 12)) = counted (j0 (slice m iv 12)) 2 := by
  have one : (j0 (slice m iv 12)).extractLsb' 0 32 = 1 := by
    refine word_ext 4 le_rfl fun k inside => ?_
    rw [octet_inside _ (j := 0) rfl (by omega),Nat.zero_add,j0,ofOctets,octet_pack _ (by omega),
      List.getD_append_right _ _ _ _ (by rw [slice_length]; omega),slice_length]
    obtain rfl | rfl | rfl | rfl : k = 0 ∨ k = 1 ∨ k = 2 ∨ k = 3 := by omega
    all_goals rfl
  rw [inc32,one]
  rfl

/-- Octet `i` of the keystream. -/
def keystream (rk : Nat → BitVec 128) (v27 : BitVec 128) (i : Nat) : UInt8 :=
  octet (aes_block1 rk (gcm_ctr_block v27 (BitVec.ofNat 32 (2 + i / 16)))) (i % 16)

/-- What is read at `src`, with the keystream. -/
def mixed (rk : Nat → BitVec 128) (v27 : BitVec 128) (m : Mem) (src : Nat) : Mem :=
  fun i => m (src + i) ^^^ keystream rk v27 i

/-- After the octets of the first blocks. -/
def Ctr.after (rk : Nat → BitVec 128) (v27 : BitVec 128) (m : Mem) (src dst b : Nat) : Ctr :=
  ⟨blit m dst (mixed rk v27 m src) (16 * b),src + 16 * b,dst + 16 * b,BitVec.ofNat 32 (2 + b)⟩

/-- No octet of one is an octet of the other. -/
def Apart (a n b k : Nat) : Prop := n = 0 ∨ k = 0 ∨ a + n ≤ b ∨ b + k ≤ a

/-- Exactly in place, or apart. -/
def Placed (src dst n : Nat) : Prop := dst = src ∨ Apart src n dst n

/-- Not above what is read, or apart. -/
def Behind (src dst n : Nat) : Prop := dst ≤ src ∨ Apart src n dst n

theorem Placed.behind {src dst n : Nat} (placed : Placed src dst n) : Behind src dst n := placed.imp_left Nat.le_of_eq

section
variable {rk : Nat → BitVec 128} {v27 : BitVec 128} {m : Mem} {src dst n : Nat}

/-- What is still to be read has not been written over. -/
theorem unread (placed : Behind src dst n) {done i : Nat} (below : done ≤ i) (inside : i < n) (f : Mem) :
    blit m dst f done (src + i) = m (src + i) := by
  rw [Behind,Apart] at placed
  exact blit_outside (by omega)

theorem blit_store (f : Mem) (k : Nat) : store (blit m dst f k) (dst + k) (f k) = blit m dst f (k+1) := by
  funext j
  by_cases here : j = dst + k
  · rw [here,store_same,blit_inside (by omega) (by omega),Nat.add_sub_cancel_left]
  · rw [store_other _ _ here]
    by_cases inside : dst ≤ j ∧ j < dst + k
    · rw [blit_inside inside.1 inside.2,blit_inside inside.1 (by omega)]
    · rw [blit_outside (by omega),blit_outside (by omega)]

theorem blit_st1 {f : Mem} {k : Nat} {v : BitVec 128} (octets : ∀ i < 16, octet v i = f (k + i)) :
    st1 (blit m dst f k) (dst + k) v = blit m dst f (k+16) := by
  funext j
  by_cases here : dst + k ≤ j ∧ j < dst + k + 16
  · rw [st1,blit_inside here.1 here.2,octets _ (by omega),blit_inside (by omega) (by omega)]
    congr 1
    omega
  · rw [st1_outside _ (by omega)]
    by_cases inside : dst ≤ j ∧ j < dst + k
    · rw [blit_inside inside.1 inside.2,blit_inside inside.1 (by omega)]
    · rw [blit_outside (by omega),blit_outside (by omega)]

/-- A block of keystream on a block of what is read. -/
theorem mixed_block (placed : Behind src dst n) {done b : Nat} (below : done ≤ 16 * b) (inside : 16 * (b+1) ≤ n)
    (f : Mem) :
    ∀ i < 16, octet
    (aes_block1 rk (gcm_ctr_block v27 (BitVec.ofNat 32 (2 + b))) ^^^ ld1 (blit m dst f done) (src + 16 * b)) i =
      mixed rk v27 m src (16 * b + i) := by
  intro i small
  rw [octet_xor,octet_ld1 _ _ small,Nat.add_assoc,unread placed (by omega) (by omega),mixed,keystream,UInt8.xor_comm,
    show (16 * b + i) / 16 = b by omega,show (16 * b + i) % 16 = i by omega]

theorem counter_add (b i : Nat) : BitVec.ofNat 32 (2 + b) + BitVec.ofNat 32 i = BitVec.ofNat 32 (2 + (b + i)) := by
  rw [← BitVec.ofNat_add,Nat.add_assoc]

theorem ctrBlock1_after (placed : Behind src dst n) {b : Nat} (inside : 16 * (b+1) ≤ n) :
    ctrBlock1 rk v27 (Ctr.after rk v27 m src dst b) = Ctr.after rk v27 m src dst (b+1) := by
  have written := @blit_st1 m dst _ _ _ (@mixed_block rk v27 m _ _ _ placed _ _ le_rfl inside (mixed rk v27 m src))
  rw [Ctr.after,ctrBlock1,written]
  exact congrArg (Ctr.mk _ _ _) (counter_add b 1)

/-- Block `i` of the four, as it is stored. -/
def stored (rk : Nat → BitVec 128) (v27 : BitVec 128) (m : Mem) (src dst b i : Nat) : BitVec 128 :=
  aes_block1 rk (gcm_ctr_block v27 (BitVec.ofNat 32 (2 + b) + BitVec.ofNat 32 i)) ^^^
    ld1 (blit m dst (mixed rk v27 m src) (16 * b)) (src + 16 * b + 16 * i)

theorem stored_next (placed : Behind src dst n) {b i : Nat} (inside : 16 * (b + (i+1)) ≤ n) :
    st1 (blit m dst (mixed rk v27 m src) (16 * (b + i))) (dst + 16 * b + 16 * i) (stored rk v27 m src dst b i) =
      blit m dst (mixed rk v27 m src) (16 * (b + (i+1))) := by
  have block := @mixed_block rk v27 m _ _ _ placed (16 * b) (b + i) (by omega) (by omega) (mixed rk v27 m src)
  rw [stored,counter_add,show src + 16 * b + 16 * i = src + 16 * (b + i) by omega,show dst + 16 * b + 16 * i =
    dst + 16 * (b + i) by omega]
  exact blit_st1 block

theorem ctrBlock4_after (placed : Behind src dst n) {b : Nat} (inside : 16 * (b+4) ≤ n) :
    ctrBlock4 rk v27 (Ctr.after rk v27 m src dst b) = Ctr.after rk v27 m src dst (b+4) := by
  let data := stored rk v27 m src dst b
  have written : st1 (st1 (st1 (st1 (blit m dst (mixed rk v27 m src) (16 * (b + 0))) (dst + 16 * b + 16 * 0) (data 0))
      (dst + 16 * b + 16 * 1) (data 1)) (dst + 16 * b + 16 * 2) (data 2)) (dst + 16 * b + 16 * 3) (data 3) =
        blit m dst (mixed rk v27 m src) (16 * (b + 4)) := by
    rw [stored_next placed (by omega),stored_next placed (by omega),stored_next placed (by omega),
      stored_next placed (by omega)]
  have first : gcm_ctr_block v27 (BitVec.ofNat 32 (2 + b)) = gcm_ctr_block v27
      (BitVec.ofNat 32 (2 + b) + BitVec.ofNat 32 0) := by
    rw [counter_add,Nat.add_zero]
  rw [ctrBlock4,aes_block4_each,Ctr.after]
  simp only
  rw [first]
  exact congrArg₂ (fun m c => Ctr.mk m (src + 16 * b + 64) (dst + 16 * b + 64) c) written (counter_add b 4)

theorem gcmCtr_mixed (placed : Behind src dst n) : gcmCtr rk v27 m src n dst = blit m dst (mixed rk v27 m src) n := by
  have four (k : Nat) (inside : 64 * k ≤ n) : (ctrBlock4 rk v27)^[k] (Ctr.after rk v27 m src dst 0) =
      Ctr.after rk v27 m src dst (4 * k) := by
    induction k with
    | zero => rfl
    | succ k ih => rw [Function.iterate_succ_apply',ih (by omega),ctrBlock4_after placed (by omega)]; rfl
  have one (b k : Nat) (inside : 16 * (b + k) ≤ n) : (ctrBlock1 rk v27)^[k] (Ctr.after rk v27 m src dst b) =
      Ctr.after rk v27 m src dst (b + k) := by
    induction k with
    | zero => rfl
    | succ k ih => rw [Function.iterate_succ_apply',ih (by omega),ctrBlock1_after placed (by omega)]; rfl
  have start : (⟨m,src,dst,2⟩ : Ctr) = Ctr.after rk v27 m src dst 0 := by
    rw [Ctr.after,Nat.mul_zero,blit_zero]
    rfl
  have tail (k : Nat) (inside : 16 * (n / 16) + k ≤ n) (small : k ≤ 16) :
      ctrTail (aes_block1 rk (gcm_ctr_block v27 (BitVec.ofNat 32 (2 + n / 16))))
        (blit m dst (mixed rk v27 m src) (16 * (n / 16)))
        (src + 16 * (n / 16)) (dst + 16 * (n / 16)) k = blit m dst (mixed rk v27 m src) (16 * (n / 16) + k) := by
    induction k with
    | zero => rfl
    | succ k ih =>
      have octet : blit m dst (mixed rk v27 m src) (16 * (n / 16) + k) (src + 16 * (n / 16) + k) ^^^
          octet (aes_block1 rk (gcm_ctr_block v27 (BitVec.ofNat 32 (2 + n / 16)))) k = mixed rk v27 m src
            (16 * (n / 16) + k) := by
        rw [Nat.add_assoc,unread placed le_rfl (by omega),mixed,keystream,show (16 * (n / 16) + k) / 16 = n / 16 by omega,
          show (16 * (n / 16) + k) % 16 = k by omega]
      rw [ctrTail,ih (by omega) (by omega),octet,Nat.add_assoc,blit_store]
      rfl
  rw [gcmCtr,start,four _ (by omega),one _ _ (by omega),show 4 * (n / 16 / 4) + n / 16 % 4 = n / 16 by omega]
  split
  next whole =>
    rw [Ctr.after,show 16 * (n / 16) = n by omega]
  next rest =>
    rw [Ctr.after]
    simp only
    rw [tail _ (by omega) (by omega),Nat.div_add_mod]

theorem zipWith_slice (m f : Mem) (a n k : Nat) :
    List.zipWith (· ^^^ ·) (slice m a n) (slice f 0 k) = slice (fun i => m (a + i) ^^^ f i) 0 (min n k) := by
  apply List.ext_getElem (by simp)
  intro i first second
  simp [slice]

/-- The keystream is the one of the mode. -/
theorem gctr_mixed {ciph : Block → Block} {j : Block} (works : Enciphers ciph rk) (wire : Wire v27 j) (b a n : Nat) :
    gctr ciph (counted j (BitVec.ofNat 32 (2 + b))) (slice m a n) =
      slice (fun i => m (a + i) ^^^ keystream rk v27 (16 * b + i)) 0 n := by
  induction n using Nat.strongRecOn generalizing a b with
  | ind n ih =>
    by_cases none : n = 0
    · subst none
      rw [slice_zero,gctr,if_pos rfl,slice_zero]
    · have some : slice m a n ≠ [] := by
        rw [Ne,← List.length_eq_zero_iff,slice_length]
        exact none
      have octets := (works _ _ (wire.counted (BitVec.ofNat 32 (2 + b)))).octets
      have rest : n = min n 16 + (n - 16) := by omega
      rw [gctr,if_neg some,octets,inc32_counted,zipWith_slice,slice_drop,
        show BitVec.ofNat 32 (2 + b) + 1 = BitVec.ofNat 32 (2 + (b + 1)) from counter_add b 1,ih (n - 16) (by omega)]
      conv => rhs; rw [rest,slice_add]
      refine congrArg₂ _ (slice_congr fun i inside => ?_) (slice_congr fun i inside => ?_)
      · rw [keystream,Nat.zero_add,show (16 * b + i) / 16 = b by omega,show (16 * b + i) % 16 = i by omega]
      · rw [show min n 16 = 16 by omega,Nat.zero_add,Nat.zero_add,show a + 16 + i = a + (16 + i) by omega,
          show 16 * (b + 1) + i = 16 * b + (16 + i) by omega]

end

/-! ### The context -/

/-- The 304 octets at `ctx` are those `aes_gcm_ctx_init` leaves for the key. -/
def Context (key : List UInt8) (m : Mem) (ctx : Nat) : Prop :=
  ∃ m0 x0, slice m0 x0 16 = key ∧ slice m ctx 304 = slice (aes_gcm_ctx_init m0 x0 ctx) ctx 304

section
variable (m : Mem) (x0 x1 : Nat)

theorem ctx_init_roundKey {round : Nat} (inside : round ≤ 10) :
    roundKey (aes_gcm_ctx_init m x0 x1) x1 round = roundKey (aes128_key_expand m x0 x1) x1 round := by
  simp (disch := omega) only [roundKey,aes_gcm_ctx_init,ld1_st1_apart]

theorem ctx_init_scheduled : Scheduled (ofBytes (slice m x0 16)) (roundKey (aes_gcm_ctx_init m x0 x1) x1) := by
  intro round inside
  rw [ctx_init_roundKey m x0 x1 inside,aes128_key_expand_scheduled m x0 x1 round inside]
  exact congrFun (roundWords_congr fun k small => (ofBytes_slice small).symm) round

theorem ctx_init_outside {i : Nat} (away : i < x1 ∨ x1 + 304 ≤ i) : aes_gcm_ctx_init m x0 x1 i = m i := by
  simp (disch := omega) only [aes_gcm_ctx_init,st1_outside,aes128_key_expand_outside]

/-- The subkeys are those of the cipher on the zero block. -/
theorem ctx_init_subkeys : contextSubkeys (aes_gcm_ctx_init m x0 x1) x1 =
    gcm_ghash_powers (rbit (aes_block1 (roundKey (aes128_key_expand m x0 x1) x1) 0)) := by
  rw [contextSubkeys,aes_gcm_ctx_init]
  simp (disch := omega) only [ld1_st1_apart,ld1_st1]

end

variable {key : List UInt8} {m : Mem} {ctx : Nat}

theorem Context.load (context : Context key m ctx) :
    ∃ m0 x0, slice m0 x0 16 = key ∧ ∀ k, k + 16 ≤ 304 → ld1 m (ctx + k) = ld1 (aes_gcm_ctx_init m0 x0 ctx) (ctx + k) := by
  obtain ⟨m0,x0,source,held⟩ := context
  refine ⟨m0,x0,source,fun k inside => ld1_congr fun i small => ?_⟩
  rw [Nat.add_assoc]
  exact slice_eq_iff.mp held (k + i) (by omega)

theorem Context.scheduled (context : Context key m ctx) : Scheduled (ofBytes key) (roundKey m ctx) := by
  obtain ⟨m0,x0,rfl,held⟩ := context.load
  intro round inside
  rw [roundKey,held _ (by omega)]
  exact ctx_init_scheduled m0 x0 ctx round inside

theorem Context.enciphers (context : Context key m ctx) : Enciphers (aes128 key) (roundKey m ctx) :=
  Gcm.enciphers context.scheduled

theorem Context.keyed (context : Context key m ctx) : Keyed (aes128 key 0) (contextSubkeys m ctx) := by
  obtain ⟨m0,x0,rfl,held⟩ := context.load
  have same : contextSubkeys m ctx = contextSubkeys (aes_gcm_ctx_init m0 x0 ctx) ctx := by
    rw [contextSubkeys,held 176 (by decide),held 192 (by decide),held 208 (by decide),held 224 (by decide),
      held 240 (by decide),held 256 (by decide),held 272 (by decide),held 288 (by decide)]
    rfl
  have expanded : Scheduled (ofBytes (slice m0 x0 16)) (roundKey (aes128_key_expand m0 x0 ctx) ctx) := fun round inside =>
    (congrArg words (ctx_init_roundKey m0 x0 ctx inside)).symm.trans (ctx_init_scheduled m0 x0 ctx round inside)
  have zero : Wire (0 : BitVec 128) (0 : Block) := fun k _ => (octet_zero k).trans (octet_zero (15 - k)).symm
  rw [same,ctx_init_subkeys]
  exact ⟨(Gcm.enciphers expanded _ _ zero).rbit_eq,gcm_ghash_powers_powers _⟩

/-! ### The tag -/

theorem gcmTag_wire {ciph : Block → Block} {k : Subkeys} {tagmask : BitVec 128} {j : Block} (keyed : Keyed (ciph 0) k)
    (mask : Wire tagmask (ciph j)) (m : Mem) (aad alen ct n : Nat) :
    Wire (gcmTag k tagmask m aad alen ct n) (digest ciph (slice m aad alen) (slice m ct n) ^^^ ciph j) := by
  have hashed : gcm_ghash_lengths k alen n (gcm_ghash_run k m ct n (gcm_ghash_run k m aad alen 0)) =
      (digest ciph (slice m aad alen) (slice m ct n)).reverse := by
    rw [gcm_ghash_strings keyed,digest,slice_length,slice_length]
  rw [gcmTag]
  exact Wire.xor (hashed ▸ wire_rbit _) mask

/-- The octets of a register add up to nothing only if they are nothing. -/
theorem uaddlv_zero (v : BitVec 128) : uaddlv v = 0 ↔ v = 0 := by
  have bound (n : Nat) : ((List.range n).map fun k => (octet v k).toNat).sum ≤ 255 * n := by
    induction n with
    | zero => simp
    | succ n ih =>
      have small := (octet v n).toNat_lt
      rw [List.range_succ,List.map_append,List.sum_append,List.map_singleton,List.sum_singleton]
      omega
  rw [uaddlv,← BitVec.toNat_inj,BitVec.toNat_ofNat,Nat.mod_eq_of_lt (by have := bound 16; omega)]
  constructor
  · intro none
    refine register_ext fun k inside => ?_
    have element := List.sum_eq_zero_iff.mp none _ (List.mem_map_of_mem (List.mem_range.mpr inside))
    exact (UInt8.toNat_inj.mp element).trans (octet_zero k).symm
  · rintro rfl
    refine List.sum_eq_zero fun x member => ?_
    obtain ⟨k,_,rfl⟩ := List.mem_map.mp member
    exact congrArg UInt8.toNat (octet_zero k)

theorem authTag_stored {m : Mem} {tag : Nat} {v : BitVec 128} {b : Block} (wire : Wire v b) :
    slice m tag 16 = octets b ↔ ld1 m tag = v := by
  rw [wire.octets,slice_eq_iff]
  refine ⟨fun same => register_ext fun k inside => ?_,fun same k inside => ?_⟩
  · rw [octet_ld1 _ _ inside,same k inside,Nat.zero_add]
  · rw [← same,Nat.zero_add,octet_ld1 _ _ inside]

section
variable {iv aad alen src n dst tag : Nat}

theorem gcmCtr_gctr (context : Context key m ctx) (placed : Behind src dst n) :
    slice (gcmCtr (roundKey m ctx) (counterBlock m iv) m src n dst) dst n =
        gctr (aes128 key) (inc32 (j0 (slice m iv 12))) (slice m src n) ∧
      ∀ i, i < dst ∨ dst + n ≤ i → gcmCtr (roundKey m ctx) (counterBlock m iv) m src n dst i = m i := by
  rw [gcmCtr_mixed placed,j0_counted]
  refine ⟨?_,fun i out => blit_outside out⟩
  rw [slice_blit_same]
  refine Eq.trans (slice_congr fun i inside => ?_) (gctr_mixed context.enciphers (counterBlock_wire m iv) 0 src n).symm
  rw [mixed,Nat.mul_zero,Nat.zero_add,Nat.zero_add]

/-- The tag the code computes over what is in memory. -/
theorem gcmTag_authTag (context : Context key m ctx) {m' : Mem} (aad alen ct n : Nat) :
    Wire (gcmTag (contextSubkeys m ctx) (aes_block1 (roundKey m ctx) (counterBlock m iv)) m' aad alen ct n)
      (digest (aes128 key) (slice m' aad alen) (slice m' ct n) ^^^ aes128 key (j0 (slice m iv 12))) :=
  gcmTag_wire context.keyed (context.enciphers _ _ (counterBlock_wire m iv)) m' aad alen ct n

theorem slice_kept {m m' : Mem} {a k : Nat} (kept : ∀ i, i < dst ∨ dst + n ≤ i → m' i = m i) (clear : Apart dst n a k) :
    slice m' a k = slice m a k := by
  rw [Apart] at clear
  exact slice_congr fun i inside => kept _ (by omega)

/-- Keys and subkeys are read as they were. -/
theorem contextSubkeys_kept {m m' : Mem} (kept : ∀ i, i < dst ∨ dst + n ≤ i → m' i = m i) (clear : Apart dst n ctx 304) :
    contextSubkeys m' ctx = contextSubkeys m ctx := by
  rw [Apart] at clear
  have load (k : Nat) (inside : k + 16 ≤ 304) : ld1 m' (ctx + k) = ld1 m (ctx + k) :=
    ld1_congr fun i small => kept _ (by omega)
  rw [contextSubkeys,load 176 (by decide),load 192 (by decide),load 208 (by decide),load 224 (by decide),
    load 240 (by decide),load 256 (by decide),load 272 (by decide),load 288 (by decide)]
  rfl

theorem encrypt_ctx_seals (context : Context key m ctx) (placed : Placed src dst n) (clearContext : Apart dst n ctx 304)
    (clearAad : Apart dst n aad alen) (clearTag : Apart tag 16 dst n) :
    let m' := aes_gcm_encrypt_ctx m ctx iv aad alen src n dst tag
    (slice m' dst n,slice m' tag 16) = encrypt (aes128 key) (slice m iv 12) (slice m aad alen) (slice m src n) ∧
      ∀ i, i < dst ∨ dst + n ≤ i → i < tag ∨ tag + 16 ≤ i → m' i = m i := by
  obtain ⟨text,kept⟩ := @gcmCtr_gctr _ _ _ iv _ _ _ context placed.behind
  rw [aes_gcm_encrypt_ctx]
  generalize gcmCtr (roundKey m ctx) (counterBlock m iv) m src n dst = m1 at text kept
  simp only
  rw [contextSubkeys_kept kept clearContext]
  refine ⟨?_,fun i out outTag => (st1_outside _ outTag).trans (kept i out)⟩
  have wire := @gcmTag_authTag _ _ _ iv context m1 aad alen dst n
  have written : slice
    (st1 m1 tag (gcmTag (contextSubkeys m ctx)
    (aes_block1 (roundKey m ctx) (counterBlock m iv)) m1 aad alen dst n)) dst n =
      slice m1 dst n := by
    rw [Apart] at clearTag
    exact slice_congr fun i inside => st1_outside _ (by omega)
  rw [written,(authTag_stored wire).mpr (ld1_st1 _ _ _),encrypt,text,slice_kept kept clearAad]
  rfl

theorem decrypt_ctx_opens (context : Context key m ctx) (placed : Behind src dst n) :
    match decrypt (aes128 key) (slice m iv 12) (slice m aad alen) (slice m src n) (slice m tag 16) with
    | some pt => ∃ m', aes_gcm_decrypt_ctx m ctx iv aad alen src n tag dst = (1,m') ∧ slice m' dst n = pt ∧
        ∀ i, i < dst ∨ dst + n ≤ i → m' i = m i
    | none => aes_gcm_decrypt_ctx m ctx iv aad alen src n tag dst = (0,m) := by
  have wire := @gcmTag_authTag _ _ _ iv context m aad alen src n
  rw [decrypt,aes_gcm_decrypt_ctx]
  split
  next pt right =>
    split at right
    next same =>
      cases right
      rw [if_neg (by rw [not_not,uaddlv_zero,(authTag_stored wire).mp same,BitVec.xor_self]; rfl)]
      exact ⟨_,rfl,gcmCtr_gctr context placed⟩
    next => cases right
  next wrong =>
    split at wrong
    next => cases wrong
    next other =>
      refine if_pos fun zero => other ((authTag_stored wire).mpr ?_)
      exact (BitVec.xor_eq_zero_iff.mp ((uaddlv_zero _).mp zero)).symm

end

/-- Sealing writes the ciphertext and the tag of the mode, in place or apart; opening what was
    sealed gives 1 and the plaintext; any other tag gives 0 and leaves the memory as it was.
    Lengths are those the registers hold. -/
theorem aes_gcm (context : Context key m ctx) (iv aad alen src n dst tag : Nat) (placed : Placed src dst n) :
    (Apart dst n ctx 304 → Apart dst n aad alen → Apart tag 16 dst n →
      let m' := aes_gcm_encrypt_ctx m ctx iv aad alen src n dst tag
      (slice m' dst n,slice m' tag 16) = encrypt (aes128 key) (slice m iv 12) (slice m aad alen) (slice m src n) ∧
        ∀ i, i < dst ∨ dst + n ≤ i → i < tag ∨ tag + 16 ≤ i → m' i = m i) ∧
    (∀ pt, (slice m src n,slice m tag 16) = encrypt (aes128 key) (slice m iv 12) (slice m aad alen) pt →
      ∃ m', aes_gcm_decrypt_ctx m ctx iv aad alen src n tag dst = (1,m') ∧ slice m' dst n = pt ∧
        ∀ i, i < dst ∨ dst + n ≤ i → m' i = m i) ∧
    (slice m tag 16 ≠ authTag (aes128 key) (slice m iv 12) (slice m aad alen) (slice m src n) →
      aes_gcm_decrypt_ctx m ctx iv aad alen src n tag dst = (0,m)) := by
  have opens := @decrypt_ctx_opens _ _ _ iv aad alen _ _ _ tag context placed.behind
  refine ⟨encrypt_ctx_seals context placed,fun pt sent => ?_,fun other => ?_⟩
  · have text := congrArg Prod.fst sent
    have right := congrArg Prod.snd sent
    simp only at text right
    rw [text,right,decrypt_encrypt] at opens
    exact opens
  · rw [decrypt,if_neg other] at opens
    exact opens

/-- A page in place, with the context the zero key gives. -/
theorem aes_gcm_inPlace :
    let m := aes_gcm_ctx_init (fun _ => 0) 0 1000
    let m' := aes_gcm_encrypt_ctx m 1000 2000 2100 5 3000 4096 3000 7096
    slice m' 3000 4096 =
      (encrypt (aes128 (slice (fun _ => 0) 0 16)) (slice m 2000 12) (slice m 2100 5) (slice m 3000 4096)).1 :=
  congrArg Prod.fst ((aes_gcm ⟨_,_,rfl,rfl⟩ 2000 2100 5 3000 4096 3000 7096 (.inl rfl)).1 (.inr (.inr (.inr (by decide))))
    (.inr (.inr (.inr (by decide)))) (.inr (.inr (.inr (by decide))))).1

/-! ### The hash by itself -/

/-- `ghash`: for any subkey at `x0`, the powers derived on the spot. -/
def ghash (m : Mem) (x0 x1 x2 x3 x4 x5 : Nat) : Mem :=
  let k := gcm_ghash_powers (rbit (ld1 m x0))
  let v20 := gcm_ghash_run k m x1 x2 0
  let v20 := gcm_ghash_run k m x3 x4 v20
  st1 m x5 (rbit (gcm_ghash_lengths k x2 x4 v20))

theorem ghash_keyed (m : Mem) (x0 : Nat) : Keyed (ofOctets (slice m x0 16)) (gcm_ghash_powers (rbit (ld1 m x0))) :=
  ⟨rbit_full m x0 le_rfl,gcm_ghash_powers_powers _⟩

/-- Whatever the subkey and the two strings, the hash the code stores is the one block by block;
    and so is the hash under the subkeys that a context keeps for a key, where the subkey is the
    cipher's value on the zero block. -/
theorem ghash_serial (m : Mem) (subkey aad alen ct n out key ctx : Nat) :
    (slice (ghash m subkey aad alen ct n out) out 16 =
        octets (Ghash.ghash (ofOctets (slice m subkey 16))
    (blocks (slice m aad alen) ++ blocks (slice m ct n) ++ [lengths alen n])) ∧
      ∀ i, i < out ∨ out + 16 ≤ i → ghash m subkey aad alen ct n out i = m i) ∧
    let m' := aes_gcm_ctx_init m key ctx
    slice (octet (gcmTag (contextSubkeys m' ctx) 0 m' aad alen ct n)) 0 16 =
      octets (Ghash.ghash (aes128 (slice m key 16) 0)
        (blocks (slice m' aad alen) ++ blocks (slice m' ct n) ++ [lengths alen n])) := by
  refine ⟨⟨?_,fun i outside => st1_outside _ outside⟩,?_⟩
  · have stored := gcm_ghash_strings (ghash_keyed m subkey) m aad alen ct n
    rw [ghash]
    exact (authTag_stored (wire_rbit _)).mpr ((ld1_st1 _ _ _).trans (congrArg rbit stored))
  · have context : Context (slice m key 16) (aes_gcm_ctx_init m key ctx) ctx := ⟨m,key,rfl,rfl⟩
    have hashed := gcm_ghash_strings context.keyed (aes_gcm_ctx_init m key ctx) aad alen ct n
    refine (Wire.octets ?_).symm
    rw [gcmTag,hashed,show (0 : BitVec 128) = 0#128 from rfl,BitVec.xor_zero]
    exact wire_rbit _

end Sarm.Gcm
