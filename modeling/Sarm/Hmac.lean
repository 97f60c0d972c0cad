import Sarm.Sha256

/-!
HMAC-SHA-256: RFC 2104 and the code for it, which keeps its scratch state on the stack.
-/
namespace Sarm.Hmac
open Sarm.Memory Sarm.Neon Sarm.Sha256

/-! ### RFC 2104 -/

/-- A key as one block of the hash. -/
def blockKey (key : List UInt8) : List UInt8 :=
  let key := if 64 < key.length then digest key else key
  key ++ List.replicate (64 - key.length) 0

def hmac (key text : List UInt8) : List UInt8 :=
  digest ((blockKey key).map (· ^^^ 0x5c) ++ digest ((blockKey key).map (· ^^^ 0x36) ++ text))

/-! ### The code -/

/-- The digest of a run of octets, through a context. -/
def hashKey (m : Mem) (ctx key keylen out : Nat) : Mem :=
  sha256_final (sha256_update (sha256_init m ctx) ctx key keylen) ctx out

/-- The digest of a block and what follows it. -/
def hashBlock (m : Mem) (ctx block data datalen out : Nat) : Mem :=
  sha256_final (sha256_update (sha256_update (sha256_init m ctx) ctx block 64) ctx data datalen) ctx out

/-- The block at `x0` xored with one octet. -/
def xor64 (m : Mem) (x0 : Nat) (w1 : UInt8) : Mem := blit m x0 (fun i => m (x0+i) ^^^ w1) 64

/-- Steps 2 to 4, with a key not longer than a block: `sp` is the frame, which holds the padded key
    at 80, a context at 144, the digest of a long key at 256 and the inner digest at 288. -/
def padAndHash (m : Mem) (sp key keylen data datalen out : Nat) : Mem :=
  let m := blit m (sp+80) (fun _ => 0) 64
  let m := copyBlocks 1 keylen m (sp+80) key
  let m := xor64 m (sp+80) 0x36
  let m := hashBlock m (sp+144) (sp+80) data datalen (sp+288)
  let m := xor64 m (sp+80) 0x6a
  hashBlock m (sp+144) (sp+80) (sp+288) 32 out

/-- `sp` is the stack pointer at the call. -/
def hmac_sha256 (m : Mem) (sp key keylen data datalen out : Nat) : Mem :=
  let sp := sp - 320
  if keylen ≤ 64 then padAndHash m sp key keylen data datalen out
  else padAndHash (hashKey m (sp+144) key keylen (sp+256)) sp (sp+256) 32 data datalen out

/-! ### The code computes the specification -/

theorem digest_length (l : List UInt8) : (digest l).length = 32 := by simp [digest,State.octets,be32]

section
variable {m : Mem} {ctx out : Nat}

theorem hashKey_digest {key keylen : Nat} (clear : ClearOf ctx key keylen) :
    slice (hashKey m ctx key keylen out) out 32 = digest (slice m key keylen) := by
  have absorbed := update_absorbs (init_absorbed m ctx) clear
  have unread : slice (sha256_init m ctx) key keylen = slice m key keylen :=
    slice_congr fun i inside => init_outside (by unfold ClearOf at clear; omega)
  rw [unread,List.nil_append] at absorbed
  exact final_digest absorbed out

theorem hashKey_changes {key keylen : Nat} (clear : ClearOf ctx key keylen) :
    ChangesOnly [(ctx,112),(out,32)] m (hashKey m ctx key keylen out) := by
  intro i outside
  have away := outside (ctx,112) (by simp)
  have unwritten := outside (out,32) (by simp)
  rw [hashKey,final_outside (update_absorbs (init_absorbed m ctx) clear) away unwritten,
    update_outside (init_absorbed m ctx) away,init_outside away]

theorem hashBlock_absorbed {block data datalen : Nat} (clearBlock : ClearOf ctx block 64)
    (clear : ClearOf ctx data datalen) :
    Absorbed (sha256_update (sha256_update (sha256_init m ctx) ctx block 64) ctx data datalen) ctx
      (slice m block 64 ++ slice m data datalen) := by
  have first := update_absorbs (init_absorbed m ctx) clearBlock
  have second := update_absorbs first clear
  have unread : slice (sha256_init m ctx) block 64 = slice m block 64 :=
    slice_congr fun i inside => init_outside (by unfold ClearOf at clearBlock; omega)
  have unread' : slice (sha256_update (sha256_init m ctx) ctx block 64) data datalen = slice m data datalen :=
    slice_congr fun i inside => by
      unfold ClearOf at clear
      rw [update_outside (init_absorbed m ctx) (by omega),init_outside (by omega)]
  rwa [unread,unread',List.nil_append] at second

theorem hashBlock_digest {block data datalen : Nat} (clearBlock : ClearOf ctx block 64)
    (clear : ClearOf ctx data datalen) :
    slice (hashBlock m ctx block data datalen out) out 32 = digest (slice m block 64 ++ slice m data datalen) :=
  final_digest (hashBlock_absorbed clearBlock clear) out

theorem hashBlock_changes {block data datalen : Nat} (clearBlock : ClearOf ctx block 64)
    (clear : ClearOf ctx data datalen) :
    ChangesOnly [(ctx,112),(out,32)] m (hashBlock m ctx block data datalen out) := by
  intro i outside
  have away := outside (ctx,112) (by simp)
  have unwritten := outside (out,32) (by simp)
  rw [hashBlock,final_outside (hashBlock_absorbed clearBlock clear) away unwritten,
    update_outside (update_absorbs (init_absorbed m ctx) clearBlock) away,update_outside (init_absorbed m ctx) away,
    init_outside away]

theorem xor64_slice (m : Mem) (a : Nat) (b : UInt8) : slice (xor64 m a b) a 64 = (slice m a 64).map (· ^^^ b) := by
  rw [xor64,slice_blit_same]
  simp [slice,List.range'_eq_map_range,Function.comp_def]

theorem xor64_changes (m : Mem) (a : Nat) (b : UInt8) : ChangesOnly [(a,64)] m (xor64 m a b) :=
  fun i outside => blit_outside (outside (a,64) (by simp))

/-- A key copied over zeros. -/
theorem padKey {k0 key keylen : Nat} (short : keylen ≤ 64) (clear : key + keylen ≤ k0 ∨ k0 + 64 ≤ key) :
    slice (copyBlocks 1 keylen (blit m k0 (fun _ => 0) 64) k0 key) k0 64 =
      slice m key keylen ++ List.replicate (64 - keylen) 0 := by
  have copied := copyBlocks_forward 1 keylen (blit m k0 (fun _ => 0) 64) k0 key (by omega)
  rw [Nat.one_mul] at copied
  obtain ⟨rest,split⟩ := Nat.exists_eq_add_of_le short
  have unread : slice (blit m k0 (fun _ => 0) 64) key keylen = slice m key keylen :=
    slice_congr fun i inside => blit_outside (by omega)
  have zeros : slice (blit m k0 (fun _ => 0) 64) (k0+keylen) rest = List.replicate rest 0 := by
    rw [← slice_zeros 0 rest]
    exact slice_congr fun i inside => blit_inside (by omega) (by omega)
  calc slice (copyBlocks 1 keylen (blit m k0 (fun _ => 0) 64) k0 key) k0 64
      = slice (blit m k0 (fun _ => 0) 64) key keylen ++ slice (blit m k0 (fun _ => 0) 64) (k0+keylen) rest := by
        rw [copied]
        conv => lhs; rw [split]
        rw [slice_add,slice_blit_same,slice_shift,slice_blit_after le_rfl,Nat.add_zero,← split]
    _ = slice m key keylen ++ List.replicate (64 - keylen) 0 := by
        rw [unread,zeros]
        congr 2
        omega

/-- The pads of the inner and of the outer hash differ by `0x6a`. -/
theorem ipad_opad (l : List UInt8) : (l.map (· ^^^ 0x36)).map (· ^^^ 0x6a) = l.map (· ^^^ (0x5c : UInt8)) := by
  rw [List.map_map]
  apply List.map_congr_left
  intro b _
  show b ^^^ 0x36 ^^^ 0x6a = b ^^^ 0x5c
  rw [UInt8.xor_assoc]
  rfl

theorem padAndHash_hmac (m : Mem) (sp key keylen data datalen out : Nat) (short : keylen ≤ 64)
    (clearKey : key + keylen ≤ sp + 80 ∨ sp + 144 ≤ key) (clearData : data + datalen ≤ sp ∨ sp + 320 ≤ data) :
    let block := slice m key keylen ++ List.replicate (64 - keylen) 0
    slice (padAndHash m sp key keylen data datalen out) out 32 =
        digest (block.map (· ^^^ 0x5c) ++ digest (block.map (· ^^^ 0x36) ++ slice m data datalen)) ∧
      ChangesOnly [(sp+80,240),(out,32)] m (padAndHash m sp key keylen data datalen out) := by
  intro block
  have padded : ChangesOnly [(sp+80,64)] m (copyBlocks 1 keylen (blit m (sp+80) (fun _ => 0) 64) (sp+80) key) := by
    intro i outside
    have := outside (sp+80,64) (by simp)
    rw [copyBlocks_outside _ _ _ _ _ _ (by omega),blit_outside (by omega)]
  have changes1 := padded.trans (xor64_changes _ _ 0x36)
  have inner1 :=
    (xor64_slice _ _ 0x36).trans (congrArg (List.map (· ^^^ (0x36 : UInt8))) (padKey (m := m) short clearKey))
  rw [padAndHash]
  generalize xor64 (copyBlocks 1 keylen (blit m (sp+80) (fun _ => 0) 64) (sp+80) key) (sp+80) 0x36 =
    m1 at changes1 inner1 ⊢
  have data1 : slice m1 data datalen = slice m data datalen := changes1.slice (by simp; omega)
  have clearBlock : ClearOf (sp+144) (sp+80) 64 := .inl (by omega)
  have clear1 : ClearOf (sp+144) data datalen := by unfold ClearOf; omega
  have clear2 : ClearOf (sp+144) (sp+288) 32 := .inr (by omega)
  have hashed := @hashBlock_digest m1 _ (sp+288) _ _ _ clearBlock clear1
  have changesHash := @hashBlock_changes m1 _ (sp+288) _ _ _ clearBlock clear1
  generalize hashBlock m1 (sp+144) (sp+80) data datalen (sp+288) = m2 at hashed changesHash ⊢
  have inner2 : slice (xor64 m2 (sp+80) 0x6a) (sp+288) 32 = digest (block.map (· ^^^ 0x36) ++ slice m data datalen) := by
    rw [(xor64_changes _ _ _).slice (by simp),hashed,inner1,data1]
  have outer2 : slice (xor64 m2 (sp+80) 0x6a) (sp+80) 64 = block.map (· ^^^ 0x5c) := by
    rw [xor64_slice,changesHash.slice (by simp),inner1,ipad_opad]
  refine ⟨?_,?_⟩
  · rw [hashBlock_digest clearBlock clear2,inner2,outer2]
  · have changes2 : ChangesOnly [(sp+80,240),(out,32)] m (xor64 m2 (sp+80) 0x6a) := by
      refine (changes1.mono ?_).trans ((changesHash.mono ?_).trans ((xor64_changes _ _ _).mono ?_))
      · simp
      · simp
      · simp
    refine changes2.trans ((hashBlock_changes clearBlock clear2).mono ?_)
    simp

/-- What the code writes is the authenticator of key and data. They may be anywhere but in the stack
    it uses: 368 octets from `base` on, 320 for its frame and 48 for a call. Of the frame it changes its
    scratch space, behind 80 octets of saved registers. -/
theorem hmac_sha256_hmac (m : Mem) (base key keylen data datalen out : Nat)
    (clearKey : key + keylen ≤ base ∨ base + 368 ≤ key)
    (clearData : data + datalen ≤ base ∨ base + 368 ≤ data) :
    slice (hmac_sha256 m (base+368) key keylen data datalen out) out 32 = hmac (slice m key keylen)
    (slice m data datalen) ∧
      ChangesOnly [(base+128,240),(out,32)] m (hmac_sha256 m (base+368) key keylen data datalen out) := by
  have frame : base + 368 - 320 = base + 48 := Nat.add_sub_assoc (by decide) base
  simp only [hmac_sha256,frame]
  split
  next short =>
    obtain ⟨written,changes⟩ := padAndHash_hmac m (base+48) key keylen data datalen out short (by omega) (by omega)
    refine ⟨written.trans ?_,changes.mono ?_⟩
    · simp only [hmac,blockKey,slice_length]
      rw [if_neg (by omega),slice_length]
    · simp
  next long =>
    have clear : ClearOf (base+48+144) key keylen := by unfold ClearOf; omega
    have changesKey := @hashKey_changes m _ (base+48+256) _ _ clear
    have keyed := @hashKey_digest m _ (base+48+256) _ _ clear
    generalize hashKey m (base+48+144) key keylen (base+48+256) = m1 at changesKey keyed ⊢
    obtain ⟨written,changes⟩ :=
      padAndHash_hmac m1 (base+48) (base+48+256) 32 data datalen out (by decide) (by omega) (by omega)
    have data' : slice m1 data datalen = slice m data datalen := changesKey.slice (by simp; omega)
    refine ⟨written.trans ?_,(changesKey.mono ?_).trans (changes.mono ?_)⟩
    · simp only [hmac,blockKey,slice_length]
      rw [if_pos (by omega),digest_length,keyed,data']
    · simp
    · simp

end

end Sarm.Hmac
