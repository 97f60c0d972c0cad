import Sarm.Hmac
import Sarm.HpackTables

/-!
HKDF on SHA-256: RFC 5869, the labels of RFC 8446, and the code for both. The code assembles
its inputs in buffers on the stack; `base` is the lowest address of the stack a call uses.
-/
namespace Sarm.Hkdf
open Sarm.Memory Sarm.Neon Sarm.Sha256 Sarm.Hmac
open Sarm.Hpack (ascii)

/-! ### RFC 5869 -/

/-- A string of the length of a hash, all zeros. -/
def zeros : List UInt8 := List.replicate 32 0

def extract (salt ikm : List UInt8) : List UInt8 := hmac salt ikm

/-- `T(i)`. -/
def block (prk info : List UInt8) : Nat → List UInt8
  | 0 => []
  | i+1 => hmac prk (block prk info i ++ info ++ [UInt8.ofNat (i+1)])

/-- `n` blocks behind `T(i)`. -/
def blocks (prk info : List UInt8) (i : Nat) : Nat → List UInt8
  | 0 => []
  | n+1 => block prk info (i+1) ++ blocks prk info (i+1) n

def expand (prk info : List UInt8) (length : Nat) : List UInt8 := (blocks prk info 0 ((length + 31) / 32)).take length

/-! ### RFC 8446 section 7.1 -/

/-- `HkdfLabel`. -/
def hkdfLabel (length : Nat) (label context : List UInt8) : List UInt8 :=
  [UInt8.ofNat (length / 256),UInt8.ofNat length] ++ UInt8.ofNat (6 + label.length) :: ascii "tls13 " ++ label ++
    UInt8.ofNat context.length :: context

def expandLabel (secret label context : List UInt8) (length : Nat) : List UInt8 :=
  expand secret (hkdfLabel length label context) length

/-! ### The code -/

/-- `sp` is the stack pointer at the call, as in the functions below. -/
def hkdf_extract (m : Mem) (sp salt saltlen ikm ikmlen out : Nat) : Mem :=
  if saltlen ≠ 0 then hmac_sha256 m sp salt saltlen ikm ikmlen out
  else
    let sp := sp - 48
    hmac_sha256 (blit m (sp+16) (fun _ => 0) 32) sp (sp+16) 32 ikm ikmlen out

/-- The block behind block `i`. The input of the authenticator is at 80 in the frame `sp`: 32 octets
    for the previous block, then `info` and the counter; the running block is at 720. -/
def expandRound (m : Mem) (sp prk prklen infolen i : Nat) : Mem :=
  let m := if i = 0 then m else copyBlocks 1 32 m (sp+80) (sp+720)
  let m := store m (sp+80+32+infolen) (UInt8.ofNat (i+1))
  if i = 0 then hmac_sha256 m sp prk prklen (sp+80+32) (infolen+1) (sp+720)
  else hmac_sha256 m sp prk prklen (sp+80) (infolen+1+32) (sp+720)

def expandLoop (m : Mem) (sp prk prklen infolen i okm remaining : Nat) : Mem :=
  let m := expandRound m sp prk prklen infolen i
  let copy := min 32 remaining
  let m := copyBlocks 1 copy m okm (sp+720)
  if remaining - copy = 0 then m else expandLoop m sp prk prklen infolen (i+1) (okm+copy) (remaining-copy)
  termination_by remaining

/-- Whether the call was accepted, and the memory. -/
def hkdf_expand (m : Mem) (sp prk prklen info infolen okm okmlen : Nat) : Bool × Mem :=
  if 607 < infolen then (false,m)
  else if 8160 < okmlen then (false,m)
  else if okmlen = 0 then (true,m)
  else
    let sp := sp - 768
    (true,expandLoop (copyBlocks 1 infolen m (sp+80+32) info) sp prk prklen infolen 0 okm okmlen)

/-- `HkdfLabel`, laid out at `buf`. -/
def writeLabel (m : Mem) (buf label labelLen context contextLen outlen : Nat) : Mem :=
  let m := blit m buf (ofBytes [UInt8.ofNat (outlen / 256),UInt8.ofNat outlen,UInt8.ofNat (labelLen + 6),
    0x74,0x6c,0x73,0x31,0x33,0x20]) 9
  let m := copyBlocks 1 labelLen m (buf+9) label
  let m := store m (buf+9+labelLen) (UInt8.ofNat contextLen)
  copyBlocks 1 contextLen m (buf+9+labelLen+1) context

def hkdf_expand_label (m : Mem) (sp secret label labelLen context contextLen out outlen : Nat) : Bool × Mem :=
  if 249 < labelLen then (false,m)
  else if 255 < contextLen then (false,m)
  else
    let sp := sp - 608
    hkdf_expand (writeLabel m (sp+80) label labelLen context contextLen outlen) sp secret 32 (sp+80)
      (labelLen+contextLen+10) out outlen

/-! ### Copies -/

theorem memcpy_slice {m : Mem} {n dst src : Nat} (apart : src + n ≤ dst ∨ dst + n ≤ src) :
    slice (copyBlocks 1 n m dst src) dst n = slice m src n := by
  have copied := copyBlocks_forward 1 n m dst src (by omega)
  rw [Nat.one_mul] at copied
  rw [copied,slice_blit_same,slice_shift,Nat.add_zero]

theorem memcpy_changes (m : Mem) (n dst src : Nat) : ChangesOnly [(dst,n)] m (copyBlocks 1 n m dst src) := by
  intro i outside
  have := outside (dst,n) (by simp)
  exact copyBlocks_outside _ _ _ _ _ _ (by omega)

theorem store_changes (m : Mem) (a : Nat) (b : UInt8) : ChangesOnly [(a,1)] m (store m a b) := by
  intro i outside
  have := outside (a,1) (by simp)
  exact store_other _ _ (by omega)

/-! ### Extract -/

/-- The salt of 32 zeros stands for one that is absent. -/
theorem hkdf_extract_extract (m : Mem) (base salt saltlen ikm ikmlen out : Nat)
    (clearSalt : saltlen = 0 ∨ salt + saltlen ≤ base ∨ base + 416 ≤ salt)
    (clearIkm : ikm + ikmlen ≤ base ∨ base + 416 ≤ ikm) :
    slice (hkdf_extract m (base+416) salt saltlen ikm ikmlen out) out 32 =
        extract (if saltlen = 0 then zeros else slice m salt saltlen) (slice m ikm ikmlen) ∧
      ChangesOnly [(base,416),(out,32)] m (hkdf_extract m (base+416) salt saltlen ikm ikmlen out) := by
  rw [hkdf_extract]
  split
  next given =>
    obtain ⟨written,changes⟩ := hmac_sha256_hmac m (base+48) salt saltlen ikm ikmlen out (by omega) (by omega)
    exact ⟨written,changes.mono (by simp; omega)⟩
  next absent =>
    have absent : saltlen = 0 := by omega
    have frame : base + 416 - 48 = base + 368 := Nat.add_sub_assoc (by decide) base
    have wiped : ChangesOnly [(base+384,32)] m (blit m (base+384) (fun _ => 0) 32) :=
      fun i outside => blit_outside (outside (base+384,32) (by simp))
    have salt : slice (blit m (base+384) (fun _ => 0) 32) (base+384) 32 = zeros := by
      rw [slice_blit_same,slice_zeros]; rfl
    simp only [frame,Nat.add_assoc,Nat.reduceAdd]
    obtain ⟨written,changes⟩ := hmac_sha256_hmac (blit m (base+384) (fun _ => 0) 32) base (base+384) 32 ikm ikmlen out
      (by omega) (by omega)
    refine ⟨written.trans ?_,(wiped.mono ?_).trans (changes.mono ?_)⟩
    · rw [salt,wiped.slice (by simp; omega),if_pos absent]
      rfl
    · simp
    · simp

/-! ### Expand -/

theorem block_length (prk info : List UInt8) (i : Nat) : (block prk info (i+1)).length = 32 := digest_length _

/-- The state of the loop behind block `i`. -/
structure Expanding (m : Mem) (base : Nat) (key info : List UInt8) (prk i : Nat) : Prop where
  keyed : slice m prk key.length = key
  described : slice m (base+480) info.length = info
  last : i = 0 ∨ slice m (base+1088) 32 = block key info i

theorem expandRound_block {m : Mem} {base prk i : Nat} {key info : List UInt8} (state : Expanding m base key info prk i)
    (clear : prk + key.length ≤ base ∨ base + 1136 ≤ prk) (fits : info.length ≤ 607) :
    Expanding (expandRound m (base+368) prk key.length info.length i) base key info prk (i+1) ∧
      ChangesOnly [(base+128,240),(base+448,672)] m (expandRound m (base+368) prk key.length info.length i) := by
  rw [expandRound]
  simp only [Nat.add_assoc,Nat.reduceAdd]
  -- The previous block in front of `info`, if there is one, and the counter behind it.
  have prepared : ∃ m1, ChangesOnly [(base+448,32)] m m1 ∧
    (if i = 0 then m else copyBlocks 1 32 m (base+448) (base+1088)) = m1 ∧
      (i = 0 ∨ slice m1 (base+448) 32 = block key info i) := by
    split
    next first => exact ⟨m,ChangesOnly.refl _ m,rfl,.inl first⟩
    next later =>
      refine ⟨_,memcpy_changes _ _ _ _,rfl,.inr ?_⟩
      rw [memcpy_slice (by omega)]
      exact state.last.resolve_left later
  obtain ⟨m1,copied,rfl,previous⟩ := prepared
  generalize (if i = 0 then m else copyBlocks 1 32 m (base+448) (base+1088)) = m1 at copied previous ⊢
  have counted := store_changes m1 (base+(480+info.length)) (UInt8.ofNat (i+1))
  have input : slice (store m1 (base+(480+info.length)) (UInt8.ofNat (i+1))) (base+480) (info.length+1) =
      info ++ [UInt8.ofNat (i+1)] := by
    rw [slice_add,counted.slice (by simp; omega),copied.slice (by simp),state.described,slice_succ,Nat.add_assoc,
      store_same]
    rfl
  have front : i = 0 ∨ slice (store m1 (base+(480+info.length)) (UInt8.ofNat (i+1))) (base+448) 32 = block key info i :=
    previous.imp_right fun held => by rw [counted.slice (by simp; omega),held]
  have changes2 : ChangesOnly [(base+128,240),(base+448,672)] m
      (store m1 (base+(480+info.length)) (UInt8.ofNat (i+1))) := by
    refine (copied.mono ?_).trans (counted.mono ?_)
    · simp
    · simp only [List.forall_mem_cons,List.exists_mem_cons_iff]
      simp
      omega
  have keyed : slice (store m1 (base+(480+info.length)) (UInt8.ofNat (i+1))) prk key.length = key := by
    rw [changes2.slice (by simp; omega),state.keyed]
  have kept : slice (store m1 (base+(480+info.length)) (UInt8.ofNat (i+1))) (base+480) info.length = info := by
    rw [counted.slice (by simp; omega),copied.slice (by simp),state.described]
  generalize store m1 (base+(480+info.length)) (UInt8.ofNat (i+1)) = m2 at input front changes2 keyed kept ⊢
  have data : ∃ data n, (if i = 0 then hmac_sha256 m2 (base+368) prk key.length (base+480) (info.length+1) (base+1088)
        else hmac_sha256 m2 (base+368) prk key.length (base+448) (info.length+33) (base+1088)) =
        hmac_sha256 m2 (base+368) prk key.length data n (base+1088) ∧ base + 368 ≤ data ∧
      slice m2 data n = block key info i ++ info ++ [UInt8.ofNat (i+1)] := by
    split
    next first =>
      refine ⟨base+480,info.length+1,rfl,by omega,?_⟩
      rw [input,first,block]
      rfl
    next later =>
      refine ⟨base+448,info.length+33,rfl,by omega,?_⟩
      rw [show info.length + 33 = 32 + (info.length + 1) by omega,slice_add,front.resolve_left later,Nat.add_assoc,input,
        List.append_assoc]
  obtain ⟨data,n,same,high,text⟩ := data
  rw [same]
  obtain ⟨written,changes⟩ := hmac_sha256_hmac m2 base prk key.length data n (base+1088) (by omega) (.inr high)
  rw [keyed,text] at written
  refine ⟨⟨?_,?_,.inr written⟩,changes2.trans (changes.mono (by simp))⟩
  · rw [changes.slice (by simp; omega),keyed]
  · rw [changes.slice (by simp; omega),kept]

theorem blocks_take (prk info : List UInt8) (i : Nat) {n : Nat} (nonzero : n ≠ 0) :
    (blocks prk info i ((n + 31) / 32)).take n =
      (block prk info (i+1)).take (min 32 n) ++ (blocks prk info (i+1) ((n - min 32 n + 31) / 32)).take
    (n - min 32 n) := by
  have length := block_length prk info i
  by_cases last : n ≤ 32
  · rw [show (n + 31) / 32 = 0 + 1 by omega,show (n - min 32 n + 31) / 32 = 0 by omega,Nat.min_eq_right last]
    simp [blocks]
  · have whole : (block prk info (i+1)).take n = block prk info (i+1) := List.take_of_length_le (by omega)
    have same : (block prk info (i+1)).take 32 = block prk info (i+1) := List.take_of_length_le (by omega)
    rw [show (n + 31) / 32 = (n - min 32 n + 31) / 32 + 1 by omega,Nat.min_eq_left (by omega),blocks,
      List.take_append,length,whole,same]

/-- The loop writes the blocks from `i` on. The output may lie over the key only where one round
    is all there is. -/
theorem expandLoop_blocks {m : Mem} {base prk i okm remaining : Nat} {key info : List UInt8}
    (state : Expanding m base key info prk i) (nonzero : remaining ≠ 0)
    (clear : prk + key.length ≤ base ∨ base + 1136 ≤ prk)
    (fits : info.length ≤ 607) (away : okm + remaining ≤ base ∨ base + 1136 ≤ okm)
    (unread : remaining ≤ 32 ∨ prk + key.length ≤ okm ∨ okm + remaining ≤ prk) :
    slice (expandLoop m (base+368) prk key.length info.length i okm remaining) okm remaining =
        (blocks key info i ((remaining + 31) / 32)).take remaining ∧
      ChangesOnly [(base+128,240),(base+448,672),(okm,remaining)] m
    (expandLoop m (base+368) prk key.length info.length i okm remaining) := by
  induction remaining using Nat.strong_induction_on generalizing m i okm with
  | h remaining ih =>
    obtain ⟨next,changes⟩ := expandRound_block state clear fits
    rw [expandLoop]
    simp only [Nat.add_assoc,Nat.reduceAdd]
    generalize expandRound m (base+368) prk key.length info.length i = m1 at next changes ⊢
    have copied := memcpy_changes m1 (min 32 remaining) okm (base+1088)
    have written : slice (copyBlocks 1 (min 32 remaining) m1 okm (base+1088)) okm (min 32 remaining) =
        (block key info (i+1)).take (min 32 remaining) := by
      obtain ⟨rest,split⟩ := Nat.exists_eq_add_of_le (Nat.min_le_left 32 remaining)
      have whole := next.last.resolve_left (by omega)
      conv at whole => lhs; rw [split,slice_add]
      rw [memcpy_slice (by omega),← whole,List.take_left' (slice_length _ _ _)]
    have changes2 : ChangesOnly [(base+128,240),(base+448,672),(okm,remaining)] m
        (copyBlocks 1 (min 32 remaining) m1 okm (base+1088)) := by
      refine (changes.mono (by simp)).trans (copied.mono ?_)
      simp only [List.forall_mem_cons,List.exists_mem_cons_iff]
      simp
    generalize copyBlocks 1 (min 32 remaining) m1 okm (base+1088) = m2 at copied written changes2 ⊢
    rw [blocks_take key info i nonzero]
    split
    next done =>
      have all : min 32 remaining = remaining := by omega
      rw [done,List.take_zero,List.append_nil]
      refine ⟨?_,changes2⟩
      rwa [all] at written ⊢
    next more =>
      have full : min 32 remaining = 32 := by omega
      rw [full] at written copied more ⊢
      have kept : Expanding m2 base key info prk (i+1) := by
        refine ⟨?_,?_,.inr ?_⟩
        · rw [copied.slice (by simp; omega),next.keyed]
        · rw [copied.slice (by simp; omega),next.described]
        · rw [copied.slice (by simp; omega),next.last.resolve_left (by omega)]
      obtain ⟨behind,rest⟩ := @ih (remaining-32) (by omega) _ _ (okm+32) kept more (by omega) (by omega)
      refine ⟨?_,changes2.trans (rest.mono ?_)⟩
      · obtain ⟨k,rfl⟩ := Nat.exists_eq_add_of_le (show 32 ≤ remaining by omega)
        rw [Nat.add_sub_cancel_left] at behind rest ⊢
        rw [slice_add,behind,rest.slice (by simp; omega),written]
      · simp only [List.forall_mem_cons,List.exists_mem_cons_iff]
        simp
        omega

/-- For every input the checks accept: `info` may lie anywhere outside the stack, under the output too. -/
theorem hkdf_expand_expand (m : Mem) (base prk prklen info infolen okm okmlen : Nat) (fits : infolen ≤ 607)
    (bounded : okmlen ≤ 8160)
    (clear : prk + prklen ≤ base ∨ base + 1136 ≤ prk) (clearInfo : info + infolen ≤ base ∨ base + 1136 ≤ info)
    (away : okmlen = 0 ∨ okm + okmlen ≤ base ∨ base + 1136 ≤ okm)
    (unread : okmlen ≤ 32 ∨ prk + prklen ≤ okm ∨ okm + okmlen ≤ prk) :
    (hkdf_expand m (base+1136) prk prklen info infolen okm okmlen).1 = true ∧
      slice (hkdf_expand m (base+1136) prk prklen info infolen okm okmlen).2 okm okmlen =
        expand (slice m prk prklen) (slice m info infolen) okmlen ∧
      ChangesOnly [(base+128,240),(base+448,672),(okm,okmlen)] m
    (hkdf_expand m (base+1136) prk prklen info infolen okm okmlen).2 := by
  have frame : base + 1136 - 768 = base + 368 := Nat.add_sub_assoc (by decide) base
  rw [hkdf_expand,if_neg (by omega),if_neg (by omega)]
  split
  next none =>
    subst none
    exact ⟨rfl,rfl,ChangesOnly.refl _ m⟩
  next nonzero =>
    simp only [frame,Nat.add_assoc,Nat.reduceAdd]
    have copied := memcpy_changes m infolen (base+480) info
    have snapshot : slice (copyBlocks 1 infolen m (base+480) info) (base+480) infolen = slice m info infolen :=
      memcpy_slice (by omega)
    generalize copyBlocks 1 infolen m (base+480) info = m1 at copied snapshot ⊢
    have state : Expanding m1 base (slice m prk prklen) (slice m info infolen) prk 0 := by
      refine ⟨?_,?_,.inl rfl⟩
      · rw [slice_length,copied.slice (by simp; omega)]
      · rw [slice_length,snapshot]
    have looped :=
      @expandLoop_blocks _ _ _ _ okm _ _ _ state nonzero (by rw [slice_length]; exact clear)
      (by rw [slice_length]; exact fits)
      (by omega) (by rw [slice_length]; exact unread)
    rw [slice_length,slice_length] at looped
    refine ⟨trivial,looped.1,(copied.mono ?_).trans looped.2⟩
    simp only [List.forall_mem_cons,List.exists_mem_cons_iff]
    simp
    omega

/-! ### Labels -/

theorem writeLabel_label {m : Mem} {buf label labelLen context contextLen : Nat} (outlen : Nat)
    (clearLabel : label + labelLen ≤ buf ∨ buf + (labelLen + contextLen + 10) ≤ label)
    (clearContext : contextLen = 0 ∨ context + contextLen ≤ buf ∨ buf + (labelLen + contextLen + 10) ≤ context) :
    slice (writeLabel m buf label labelLen context contextLen outlen) buf (labelLen + contextLen + 10) =
        hkdfLabel outlen (slice m label labelLen) (slice m context contextLen) ∧
      ChangesOnly [(buf,labelLen + contextLen + 10)] m (writeLabel m buf label labelLen context contextLen outlen) := by
  rw [writeLabel]
  have changes1 : ChangesOnly [(buf,9)] m
    (blit m buf (ofBytes [UInt8.ofNat (outlen / 256),UInt8.ofNat outlen,UInt8.ofNat (labelLen + 6),
      0x74,0x6c,0x73,0x31,0x33,0x20]) 9) := fun i outside => blit_outside (outside (buf,9) (by simp))
  have head : slice (blit m buf (ofBytes [UInt8.ofNat (outlen / 256),UInt8.ofNat outlen,UInt8.ofNat (labelLen + 6),
      0x74,0x6c,0x73,0x31,0x33,0x20]) 9) buf 9 =
        [UInt8.ofNat (outlen / 256),UInt8.ofNat outlen,UInt8.ofNat (labelLen + 6)] ++
        ascii "tls13 " := by
    rw [slice_blit_same]
    exact slice_ofBytes [_,_,_,0x74,0x6c,0x73,0x31,0x33,0x20]
  generalize blit m buf (ofBytes [UInt8.ofNat (outlen / 256),UInt8.ofNat outlen,UInt8.ofNat (labelLen + 6),
    0x74,0x6c,0x73,0x31,0x33,0x20]) 9 = m1 at changes1 head ⊢
  have changes2 := memcpy_changes m1 labelLen (buf+9) label
  have text : slice (copyBlocks 1 labelLen m1 (buf+9) label) (buf+9) labelLen = slice m label labelLen := by
    rw [memcpy_slice (by omega),changes1.slice (by simp; omega)]
  generalize copyBlocks 1 labelLen m1 (buf+9) label = m2 at changes2 text ⊢
  have changes3 := store_changes m2 (buf+9+labelLen) (UInt8.ofNat contextLen)
  have octet : store m2 (buf+9+labelLen) (UInt8.ofNat contextLen) (buf+9+labelLen) = UInt8.ofNat contextLen :=
    store_same _ _ _
  generalize store m2 (buf+9+labelLen) (UInt8.ofNat contextLen) = m3 at changes3 octet ⊢
  have changes4 := memcpy_changes m3 contextLen (buf+9+labelLen+1) context
  have hashed : slice (copyBlocks 1 contextLen m3 (buf+9+labelLen+1) context) (buf+9+labelLen+1) contextLen =
      slice m context contextLen := by
    rcases Nat.eq_zero_or_pos contextLen with rfl | nonzero
    · rfl
    · rw [memcpy_slice (by omega),changes3.slice (by simp; omega),changes2.slice (by simp; omega),
        changes1.slice (by simp; omega)]
  generalize copyBlocks 1 contextLen m3 (buf+9+labelLen+1) context = m4 at changes4 hashed ⊢
  refine ⟨?_,?_⟩
  · rw [show labelLen + contextLen + 10 = 9 + labelLen + 1 + contextLen by omega,slice_add,slice_add,slice_add]
    have head4 : slice m4 buf 9 = slice m1 buf 9 := by
      rw [changes4.slice (by simp; omega),changes3.slice (by simp),changes2.slice (by simp)]
    have text4 : slice m4 (buf+9) labelLen = slice m2 (buf+9) labelLen := by
      rw [changes4.slice (by simp),changes3.slice (by simp)]
    have octet4 : m4 (buf+9+labelLen) = m3 (buf+9+labelLen) := changes4 _ (by simp)
    simp only [← Nat.add_assoc]
    rw [head4,text4,hashed,head,text,slice_succ,slice_zero,octet4,octet,hkdfLabel,slice_length,slice_length,
      Nat.add_comm 6]
    simp
  · refine (changes1.mono ?_).trans ((changes2.mono ?_).trans ((changes3.mono ?_).trans (changes4.mono ?_)))
    · simp
    · simp; omega
    · simp; omega
    · simp; omega

/-- Behind the scratch space of an expansion lies the buffer of the label, 514 octets at most. -/
theorem hkdf_expand_label_within (m : Mem) (base secret label labelLen context contextLen out outlen : Nat)
    (shortLabel : labelLen ≤ 249) (shortContext : contextLen ≤ 255) (bounded : outlen ≤ 8160)
    (clear : secret + 32 ≤ base ∨ base + 1744 ≤ secret) (clearLabel : label + labelLen ≤ base ∨ base + 1744 ≤ label)
    (clearContext : contextLen = 0 ∨ context + contextLen ≤ base ∨ base + 1744 ≤ context)
    (away : outlen = 0 ∨ out + outlen ≤ base ∨ base + 1744 ≤ out)
    (unread : outlen ≤ 32 ∨ secret + 32 ≤ out ∨ out + outlen ≤ secret) :
    (hkdf_expand_label m (base+1744) secret label labelLen context contextLen out outlen).1 = true ∧
      slice (hkdf_expand_label m (base+1744) secret label labelLen context contextLen out outlen).2 out outlen =
        expandLabel (slice m secret 32) (slice m label labelLen) (slice m context contextLen) outlen ∧
      ChangesOnly [(base+128,240),(base+448,672),(base+1216,514),(out,outlen)] m
        (hkdf_expand_label m (base+1744) secret label labelLen context contextLen out outlen).2 := by
  have frame : base + 1744 - 608 = base + 1136 := Nat.add_sub_assoc (by decide) base
  rw [hkdf_expand_label,if_neg (by omega),if_neg (by omega)]
  simp only [frame,Nat.add_assoc base,Nat.reduceAdd]
  obtain ⟨laid,changes⟩ := @writeLabel_label m (base+1216) _ _ _ _ outlen
    (show label + labelLen ≤ base+1216 ∨ base+1216 + (labelLen + contextLen + 10) ≤ label by omega)
    (show contextLen = 0 ∨ context + contextLen ≤ base+1216 ∨ base+1216 + (labelLen + contextLen + 10) ≤ context by omega)
  generalize writeLabel m (base+1216) label labelLen context contextLen outlen = m1 at laid changes ⊢
  obtain ⟨accepted,written,changes'⟩ :=
    hkdf_expand_expand m1 base secret 32 (base+1216) (labelLen+contextLen+10) out outlen
    (by omega) bounded (by omega) (by omega) (by omega) unread
  refine ⟨accepted,?_,(changes.mono ?_).trans (changes'.mono ?_)⟩
  · rw [written,laid,changes.slice (by simp; omega)]
    rfl
  · simp; omega
  · simp

theorem hkdf_expand_label_expandLabel (m : Mem) (base secret label labelLen context contextLen out outlen : Nat)
    (shortLabel : labelLen ≤ 249) (shortContext : contextLen ≤ 255) (bounded : outlen ≤ 8160)
    (clear : secret + 32 ≤ base ∨ base + 1744 ≤ secret) (clearLabel : label + labelLen ≤ base ∨ base + 1744 ≤ label)
    (clearContext : contextLen = 0 ∨ context + contextLen ≤ base ∨ base + 1744 ≤ context)
    (away : outlen = 0 ∨ out + outlen ≤ base ∨ base + 1744 ≤ out)
    (unread : outlen ≤ 32 ∨ secret + 32 ≤ out ∨ out + outlen ≤ secret) :
    (hkdf_expand_label m (base+1744) secret label labelLen context contextLen out outlen).1 = true ∧
      slice (hkdf_expand_label m (base+1744) secret label labelLen context contextLen out outlen).2 out outlen =
        expandLabel (slice m secret 32) (slice m label labelLen) (slice m context contextLen) outlen ∧
      ChangesOnly [(base,1744),(out,outlen)] m
        (hkdf_expand_label m (base+1744) secret label labelLen context contextLen out outlen).2 := by
  obtain ⟨accepted,written,changes⟩ := hkdf_expand_label_within m base secret label labelLen context contextLen out outlen
    shortLabel shortContext bounded clear clearLabel clearContext away unread
  exact ⟨accepted,written,changes.mono (by simp)⟩

/-- A string that is too long for its octet is refused, and nothing written. -/
theorem hkdf_expand_label_refuses (m : Mem) (sp secret label labelLen context contextLen out outlen : Nat)
    (long : 249 < labelLen ∨ 255 < contextLen) :
    hkdf_expand_label m sp secret label labelLen context contextLen out outlen = (false,m) := by
  rw [hkdf_expand_label]
  split
  next => rfl
  next => rw [if_pos (by omega)]

theorem hkdf_expand_refuses (m : Mem) (sp prk prklen info infolen okm okmlen : Nat)
    (long : 607 < infolen ∨ 8160 < okmlen) :
    hkdf_expand m sp prk prklen info infolen okm okmlen = (false,m) := by
  rw [hkdf_expand]
  split
  next => rfl
  next => rw [if_pos (by omega)]

/-- An output that is too long is refused when the label has been laid out. -/
theorem hkdf_expand_label_output (m : Mem) (base secret label labelLen context contextLen out outlen : Nat)
    (shortLabel : labelLen ≤ 249) (shortContext : contextLen ≤ 255) (long : 8160 < outlen)
    (clearLabel : label + labelLen ≤ base ∨ base + 1744 ≤ label)
    (clearContext : contextLen = 0 ∨ context + contextLen ≤ base ∨ base + 1744 ≤ context) :
    (hkdf_expand_label m (base+1744) secret label labelLen context contextLen out outlen).1 = false ∧
      ChangesOnly [(base+1216,514)] m
    (hkdf_expand_label m (base+1744) secret label labelLen context contextLen out outlen).2 := by
  have frame : base + 1744 - 608 = base + 1136 := Nat.add_sub_assoc (by decide) base
  rw [hkdf_expand_label,if_neg (by omega),if_neg (by omega)]
  simp only [frame,Nat.add_assoc base,Nat.reduceAdd]
  rw [hkdf_expand_refuses _ _ _ _ _ _ _ _ (.inr long)]
  obtain ⟨_,changes⟩ := @writeLabel_label m (base+1216) _ _ _ _ outlen
    (show label + labelLen ≤ base+1216 ∨ base+1216 + (labelLen + contextLen + 10) ≤ label by omega)
    (show contextLen = 0 ∨ context + contextLen ≤ base+1216 ∨ base+1216 + (labelLen + contextLen + 10) ≤ context by omega)
  exact ⟨rfl,changes.mono (by simp; omega)⟩

/-! ### All of it -/

/-- Runs of memory that a call reads or writes lie outside the stack it uses. -/
def OffStack (base depth : Nat) (runs : List (Nat × Nat)) : Prop := ∀ r ∈ runs, r.1 + r.2 ≤ base ∨ base + depth ≤ r.1

instance (base depth : Nat) (runs : List (Nat × Nat)) : Decidable (OffStack base depth runs) :=
  inferInstanceAs (Decidable (∀ r ∈ runs, r.1 + r.2 ≤ base ∨ base + depth ≤ r.1))

/-- What is accepted is what the standards say, for keys, data and labels of every length the checks
    let through; what is refused leaves the output alone; and what is written beside the output is
    scratch space: of the frames of the authenticator (240 octets behind its saved registers), of an
    expansion (672) and of a labelled one (514). -/
theorem derivations_exact :
    (∀ m base key keylen data datalen out, OffStack base 368 [(key,keylen),(data,datalen)] →
      slice (hmac_sha256 m (base+368) key keylen data datalen out) out 32 = hmac (slice m key keylen)
    (slice m data datalen) ∧
        ChangesOnly [(base+128,240),(out,32)] m (hmac_sha256 m (base+368) key keylen data datalen out)) ∧
    (∀ m base prk prklen info infolen okm okmlen, OffStack base 1136 [(prk,prklen),(info,infolen),(okm,okmlen)] →
      okmlen ≤ 32 ∨ prk + prklen ≤ okm ∨ okm + okmlen ≤ prk →
        if infolen ≤ 607 ∧ okmlen ≤ 8160 then
          (hkdf_expand m (base+1136) prk prklen info infolen okm okmlen).1 = true ∧
            slice (hkdf_expand m (base+1136) prk prklen info infolen okm okmlen).2 okm okmlen =
              expand (slice m prk prklen) (slice m info infolen) okmlen ∧
            ChangesOnly [(base+128,240),(base+448,672),(okm,okmlen)] m
              (hkdf_expand m (base+1136) prk prklen info infolen okm okmlen).2
        else hkdf_expand m (base+1136) prk prklen info infolen okm okmlen = (false,m)) ∧
    ∀ m base secret label labelLen context contextLen out outlen,
      OffStack base 1744 [(secret,32),(label,labelLen),(context,contextLen),(out,outlen)] →
      outlen ≤ 32 ∨ secret + 32 ≤ out ∨ out + outlen ≤ secret →
        if labelLen ≤ 249 ∧ contextLen ≤ 255 ∧ outlen ≤ 8160 then
          (hkdf_expand_label m (base+1744) secret label labelLen context contextLen out outlen).1 = true ∧
            slice (hkdf_expand_label m (base+1744) secret label labelLen context contextLen out outlen).2 out outlen =
              expandLabel (slice m secret 32) (slice m label labelLen) (slice m context contextLen) outlen ∧
            ChangesOnly [(base+128,240),(base+448,672),(base+1216,514),(out,outlen)] m
              (hkdf_expand_label m (base+1744) secret label labelLen context contextLen out outlen).2
        else (hkdf_expand_label m (base+1744) secret label labelLen context contextLen out outlen).1 = false ∧
          ChangesOnly [(base+1216,514)] m
    (hkdf_expand_label m (base+1744) secret label labelLen context contextLen out outlen).2 := by
  refine ⟨?_,?_,?_⟩
  · intro m base key keylen data datalen out off
    exact hmac_sha256_hmac m base key keylen data datalen out (off (key,keylen) (by simp)) (off (data,datalen) (by simp))
  · intro m base prk prklen info infolen okm okmlen off unread
    split
    next accepted =>
      exact hkdf_expand_expand m base prk prklen info infolen okm okmlen accepted.1 accepted.2
        (off (prk,prklen) (by simp))
        (off (info,infolen) (by simp)) (.inr (off (okm,okmlen) (by simp))) unread
    next refused => exact hkdf_expand_refuses m _ prk prklen info infolen okm okmlen (by omega)
  · intro m base secret label labelLen context contextLen out outlen off unread
    have clearLabel := off (label,labelLen) (by simp)
    have clearContext := off (context,contextLen) (by simp)
    split
    next accepted =>
      exact hkdf_expand_label_within m base secret label labelLen context contextLen out outlen accepted.1 accepted.2.1 accepted.2.2
        (off (secret,32) (by simp)) clearLabel (.inr clearContext) (.inr (off (out,outlen) (by simp))) unread
    next refused =>
      by_cases long : 249 < labelLen ∨ 255 < contextLen
      · rw [hkdf_expand_label_refuses m _ secret label labelLen context contextLen out outlen long]
        exact ⟨rfl,ChangesOnly.refl _ m⟩
      · exact hkdf_expand_label_output m base secret label labelLen context contextLen out outlen (by omega)
          (by omega) (by omega)
          clearLabel (.inr clearContext)

/-- A secret of zeros at 0, a label at 32 and a context at 34; 40 octets of output over the label. -/
theorem derivations_exact_zeros :
    slice (hmac_sha256 (ofBytes []) 3368 0 32 32 2 100) 100 32 = hmac (slice (ofBytes []) 0 32)
    (slice (ofBytes []) 32 2) ∧
      slice (hkdf_expand (ofBytes []) 4136 0 32 32 2 32 40).2 32 40 = expand (slice (ofBytes []) 0 32)
    (slice (ofBytes []) 32 2) 40 ∧
        slice (hkdf_expand_label (ofBytes []) 4744 0 32 2 34 3 32 40).2 32 40 =
          expandLabel (slice (ofBytes []) 0 32) (slice (ofBytes []) 32 2) (slice (ofBytes []) 34 3) 40 := by
  obtain ⟨authenticator,expansion,labelled⟩ := derivations_exact
  have first := authenticator (ofBytes []) 3000 0 32 32 2 100 (by decide)
  have second := expansion (ofBytes []) 3000 0 32 32 2 32 40 (by decide) (by decide)
  have third := labelled (ofBytes []) 3000 0 32 2 34 3 32 40 (by decide) (by decide)
  rw [if_pos (by decide)] at second third
  exact ⟨first.1,second.2.1,third.2.1⟩

end Sarm.Hkdf
