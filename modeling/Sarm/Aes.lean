import Mathlib.Data.Fin.Basic
import Mathlib.Tactic.FinCases
import Sarm.Neon

/-!
AES-128: the cipher as FIPS 197 defines it, on a state of four rows and columns and a
schedule of words, and the code for it, which keeps the state in one register and the
schedule in memory.
-/
namespace Sarm.Aes
open Sarm.Memory Sarm.Neon

/-- The substitution table. -/
def sbox : List UInt8 :=
  [0x63,0x7c,0x77,0x7b,0xf2,0x6b,0x6f,0xc5,0x30,0x01,0x67,0x2b,0xfe,0xd7,0xab,0x76,
   0xca,0x82,0xc9,0x7d,0xfa,0x59,0x47,0xf0,0xad,0xd4,0xa2,0xaf,0x9c,0xa4,0x72,0xc0,
   0xb7,0xfd,0x93,0x26,0x36,0x3f,0xf7,0xcc,0x34,0xa5,0xe5,0xf1,0x71,0xd8,0x31,0x15,
   0x04,0xc7,0x23,0xc3,0x18,0x96,0x05,0x9a,0x07,0x12,0x80,0xe2,0xeb,0x27,0xb2,0x75,
   0x09,0x83,0x2c,0x1a,0x1b,0x6e,0x5a,0xa0,0x52,0x3b,0xd6,0xb3,0x29,0xe3,0x2f,0x84,
   0x53,0xd1,0x00,0xed,0x20,0xfc,0xb1,0x5b,0x6a,0xcb,0xbe,0x39,0x4a,0x4c,0x58,0xcf,
   0xd0,0xef,0xaa,0xfb,0x43,0x4d,0x33,0x85,0x45,0xf9,0x02,0x7f,0x50,0x3c,0x9f,0xa8,
   0x51,0xa3,0x40,0x8f,0x92,0x9d,0x38,0xf5,0xbc,0xb6,0xda,0x21,0x10,0xff,0xf3,0xd2,
   0xcd,0x0c,0x13,0xec,0x5f,0x97,0x44,0x17,0xc4,0xa7,0x7e,0x3d,0x64,0x5d,0x19,0x73,
   0x60,0x81,0x4f,0xdc,0x22,0x2a,0x90,0x88,0x46,0xee,0xb8,0x14,0xde,0x5e,0x0b,0xdb,
   0xe0,0x32,0x3a,0x0a,0x49,0x06,0x24,0x5c,0xc2,0xd3,0xac,0x62,0x91,0x95,0xe4,0x79,
   0xe7,0xc8,0x37,0x6d,0x8d,0xd5,0x4e,0xa9,0x6c,0x56,0xf4,0xea,0x65,0x7a,0xae,0x08,
   0xba,0x78,0x25,0x2e,0x1c,0xa6,0xb4,0xc6,0xe8,0xdd,0x74,0x1f,0x4b,0xbd,0x8b,0x8a,
   0x70,0x3e,0xb5,0x66,0x48,0x03,0xf6,0x0e,0x61,0x35,0x57,0xb9,0x86,0xc1,0x1d,0x9e,
   0xe1,0xf8,0x98,0x11,0x69,0xd9,0x8e,0x94,0x9b,0x1e,0x87,0xe9,0xce,0x55,0x28,0xdf,
   0x8c,0xa1,0x89,0x0d,0xbf,0xe6,0x42,0x68,0x41,0x99,0x2d,0x0f,0xb0,0x54,0xbb,0x16]

def subByte (b : UInt8) : UInt8 := sbox.getD b.toNat 0

/-- Times `x` in the field of 256 elements. -/
def xTime (b : UInt8) : UInt8 := if 0x80 ≤ b then b <<< 1 ^^^ 0x1b else b <<< 1

/-! ### FIPS 197 -/

/-- The state, by row and column. -/
abbrev State := Fin 4 → Fin 4 → UInt8

/-- A word of the key schedule. -/
abbrev Word := Fin 4 → UInt8

def State.ofOctets (input : Nat → UInt8) : State := fun r c => input (r + 4 * c)

def State.octets (s : State) : Nat → UInt8 := fun k => s (Fin.ofNat 4 k) (Fin.ofNat 4 (k / 4))

def subBytes (s : State) : State := fun r c => subByte (s r c)

def shiftRows (s : State) : State := fun r c => s r (c + r)

def mixColumns (s : State) : State := fun r c =>
  match r with
  | 0 => xTime (s 0 c) ^^^ (xTime (s 1 c) ^^^ s 1 c) ^^^ s 2 c ^^^ s 3 c
  | 1 => s 0 c ^^^ xTime (s 1 c) ^^^ (xTime (s 2 c) ^^^ s 2 c) ^^^ s 3 c
  | 2 => s 0 c ^^^ s 1 c ^^^ xTime (s 2 c) ^^^ (xTime (s 3 c) ^^^ s 3 c)
  | 3 => (xTime (s 0 c) ^^^ s 0 c) ^^^ s 1 c ^^^ s 2 c ^^^ xTime (s 3 c)

/-- `w` is the words of one round. -/
def addRoundKey (s : State) (w : Fin 4 → Word) : State := fun r c => s r c ^^^ w c r

def rotWord (w : Word) : Word := fun i => w (i + 1)

def subWord (w : Word) : Word := fun i => subByte (w i)

/-- The round constants, from round 1 on. -/
def rcons : List UInt8 := [0x01,0x02,0x04,0x08,0x10,0x20,0x40,0x80,0x1b,0x36]

def rcon (round : Nat) : Word := fun i => if i = 0 then rcons.getD (round - 1) 0 else 0

/-- Word `i` of the schedule. -/
def keyExpansion (key : Nat → UInt8) (i : Nat) : Word :=
  if i < 4 then fun j => key (4 * i + j)
  else
    let temp := keyExpansion key (i - 1)
    let temp := if i % 4 = 0 then fun j => subWord (rotWord temp) j ^^^ rcon (i / 4) j else temp
    fun j => keyExpansion key (i - 4) j ^^^ temp j
  termination_by i

/-- The words of a round. -/
def roundWords (key : Nat → UInt8) (round : Nat) : Fin 4 → Word := fun c => keyExpansion key (4 * round + c)

def cipher (key input : Nat → UInt8) : Nat → UInt8 :=
  let state := addRoundKey (State.ofOctets input) (roundWords key 0)
  let state := (List.range' 1 9).foldl
    (fun state round => addRoundKey (mixColumns (shiftRows (subBytes state))) (roundWords key round)) state
  (addRoundKey (shiftRows (subBytes state)) (roundWords key 10)).octets

/-! ### The instructions -/

/-- `aese`: the round key, then the substitution of each octet, each row moved up by its number. -/
def aese (v key : BitVec 128) : BitVec 128 :=
  pack fun k => subByte (octet (v ^^^ key) (k % 4 + 4 * ((k / 4 + k % 4) % 4)))

/-- `aesmc`: each column times the matrix. -/
def aesmc (v : BitVec 128) : BitVec 128 :=
  pack fun k =>
    let column (i : Nat) := octet v (4 * (k / 4) + (k + i) % 4)
    xTime (column 0) ^^^ (xTime (column 1) ^^^ column 1) ^^^ column 2 ^^^ column 3

/-! ### The code -/

/-- `.Laes128_tbl`. -/
def rotIndex : BitVec 128 :=
  pack fun k => [0x80,0x0e,0x80,0x80,0x80,0x80,0x0f,0x80,0x80,0x80,0x80,0x0c,0x0d,0x80,0x80,0x80].getD k 0

/-- One round of `aes128_key_expand`: the next round key from the last one. -/
def key_expand_round (v0 : BitVec 128) (rcon : UInt8) : BitVec 128 :=
  let w10 := lane (aese (tbl v0 rotIndex) 0) 3 ^^^ rcon.toBitVec.setWidth 32
  let w5 := lane v0 0 ^^^ w10
  let w6 := lane v0 1 ^^^ w5
  let w7 := lane v0 2 ^^^ w6
  let w8 := lane v0 3 ^^^ w7
  ofLanes w5 w6 w7 w8

/-- `.Lkey_expand_round`: a round for each constant left. -/
def keyExpandRounds : List UInt8 → Mem → Nat → BitVec 128 → Mem
  | [],m,_,_ => m
  | w11 :: rest,m,x1,v0 =>
    let v2 := key_expand_round v0 w11
    keyExpandRounds rest (st1 m x1 v2) (x1 + 16) v2

def aes128_key_expand (m : Mem) (x0 x1 : Nat) : Mem :=
  let v0 := ld1 m x0
  keyExpandRounds rcons (st1 m x1 v0) (x1 + 16) v0

/-- A round key of a schedule in memory. -/
def roundKey (m : Mem) (x1 round : Nat) : BitVec 128 := ld1 m (x1 + 16 * round)

/-- `aese`, `aesmc`. -/
def aesRound (v key : BitVec 128) : BitVec 128 := aesmc (aese v key)

/-- `aes_block1`: nine rounds, and one without `aesmc`. -/
def aes_block1 (rk : Nat → BitVec 128) (st : BitVec 128) : BitVec 128 :=
  aese ((List.range 9).foldl (fun st i => aesRound st (rk i)) st) (rk 9) ^^^ rk 10

def aes128_encrypt (m : Mem) (x0 x1 x2 : Nat) : Mem := st1 m x2 (aes_block1 (roundKey m x1) (ld1 m x0))

/-- The four states of `aes_block4`. -/
structure Four where
  v0 : BitVec 128
  v1 : BitVec 128
  v2 : BitVec 128
  v3 : BitVec 128

/-- `aes_round4`. -/
def aes_round4 (rk : BitVec 128) (f : Four) : Four :=
  ⟨aesmc (aese f.v0 rk),aesmc (aese f.v1 rk),aesmc (aese f.v2 rk),aesmc (aese f.v3 rk)⟩

def aes_block4 (rk : Nat → BitVec 128) (f : Four) : Four :=
  let f := (List.range 9).foldl (fun f i => aes_round4 (rk i) f) f
  ⟨aese f.v0 (rk 9) ^^^ rk 10,aese f.v1 (rk 9) ^^^ rk 10,aese f.v2 (rk 9) ^^^ rk 10,aese f.v3 (rk 9) ^^^ rk 10⟩

/-! ### The instructions and the steps of the cipher -/

/-- The state a register holds. -/
def state (v : BitVec 128) : State := State.ofOctets (octet v)

/-- The words a round key holds. -/
def words (v : BitVec 128) : Fin 4 → Word := fun c j => octet v (4 * c + j)

theorem octets_state (v : BitVec 128) {k : Nat} (inside : k < 16) : (state v).octets k = octet v k := by
  rw [State.octets,state,State.ofOctets]
  congr 1
  simp only [Fin.val_ofNat]
  omega

theorem state_xor (v key : BitVec 128) : state (v ^^^ key) = addRoundKey (state v) (words key) := by
  funext r c
  rw [state,State.ofOctets,octet_xor,addRoundKey,words,Nat.add_comm (4 * c.val)]
  rfl

theorem state_aese (v key : BitVec 128) :
    state (aese v key) = shiftRows (subBytes (addRoundKey (state v) (words key))) := by
  funext r c
  rw [← state_xor,shiftRows,subBytes,state,State.ofOctets,aese,octet_pack _ (by omega),state,State.ofOctets,Fin.val_add,
    show (r.val + 4 * c.val) % 4 = r by omega,show (r.val + 4 * c.val) / 4 = c by omega]

theorem state_aesmc (v : BitVec 128) : state (aesmc v) = mixColumns (state v) := by
  funext r c
  have column (i : Nat) : octet v (4 * ((r.val + 4 * c.val) / 4) + (r.val + 4 * c.val + i) % 4) = state v
      (Fin.ofNat 4 (r + i)) c := by
    rw [state,State.ofOctets,Fin.val_ofNat]
    congr 1
    omega
  rw [state,State.ofOctets,aesmc,octet_pack _ (by omega)]
  simp only [column]
  match r with
  | 0 => rfl
  | 1 =>
    change xTime (state v 1 c) ^^^ (xTime (state v 2 c) ^^^ state v 2 c) ^^^ state v 3 c ^^^ state v 0 c =
      state v 0 c ^^^ xTime (state v 1 c) ^^^ (xTime (state v 2 c) ^^^ state v 2 c) ^^^ state v 3 c
    ac_rfl
  | 2 =>
    change xTime (state v 2 c) ^^^ (xTime (state v 3 c) ^^^ state v 3 c) ^^^ state v 0 c ^^^ state v 1 c =
      state v 0 c ^^^ state v 1 c ^^^ xTime (state v 2 c) ^^^ (xTime (state v 3 c) ^^^ state v 3 c)
    ac_rfl
  | 3 =>
    change xTime (state v 3 c) ^^^ (xTime (state v 0 c) ^^^ state v 0 c) ^^^ state v 1 c ^^^ state v 2 c =
      xTime (state v 0 c) ^^^ state v 0 c ^^^ state v 1 c ^^^ state v 2 c ^^^ xTime (state v 3 c)
    ac_rfl

/-! ### A block -/

/-- The schedule a register file holds is the one of the key. -/
def Scheduled (key : Nat → UInt8) (rk : Nat → BitVec 128) : Prop := ∀ round ≤ 10, words (rk round) = roundWords key round

variable {key : Nat → UInt8} {rk : Nat → BitVec 128}

/-- The cipher's state after `n` rounds is the register's with the next round key added. -/
theorem rounds_agree (scheduled : Scheduled key rk) (v : BitVec 128) {n : Nat} (inside : n ≤ 10) :
    (List.range' 1 n).foldl (fun s round => addRoundKey (mixColumns (shiftRows (subBytes s))) (roundWords key round))
        (addRoundKey (state v) (roundWords key 0)) =
      addRoundKey (state ((List.range n).foldl (fun st i => aesRound st (rk i)) v)) (words (rk n)) := by
  induction n with
  | zero => rw [scheduled 0 (by omega)]; rfl
  | succ n ih =>
    rw [List.range'_1_concat,List.range_succ,List.foldl_append,List.foldl_append,ih (by omega)]
    simp only [List.foldl_cons,List.foldl_nil]
    rw [Nat.add_comm 1 n,← scheduled (n+1) inside,aesRound,state_aesmc,state_aese]

theorem aes_block1_cipher (scheduled : Scheduled key rk) (v : BitVec 128) {k : Nat} (inside : k < 16) :
    octet (aes_block1 rk v) k = cipher key (octet v) k := by
  rw [← octets_state _ inside,aes_block1,state_xor,state_aese,scheduled 10 (by omega),cipher,
    show State.ofOctets (octet v) = state v from rfl,rounds_agree scheduled v (by omega)]

/-- Four at once are four times one. -/
theorem aes_block4_each (rk : Nat → BitVec 128) (f : Four) :
    aes_block4 rk f = ⟨aes_block1 rk f.v0,aes_block1 rk f.v1,aes_block1 rk f.v2,aes_block1 rk f.v3⟩ := by
  have rounds (n : Nat) : (List.range n).foldl (fun f i => aes_round4 (rk i) f) f =
      let one (v : BitVec 128) := (List.range n).foldl (fun st i => aesRound st (rk i)) v
      ⟨one f.v0,one f.v1,one f.v2,one f.v3⟩ := by
    induction n with
    | zero => rfl
    | succ n ih =>
      simp only [List.range_succ,List.foldl_append,List.foldl_cons,List.foldl_nil]
      rw [ih]
      rfl
  rw [aes_block4,rounds 9]
  rfl

/-- A block takes round keys 0 to 10. -/
theorem aes_block1_congr {rk' : Nat → BitVec 128} (same : ∀ i < 11, rk i = rk' i) (v : BitVec 128) :
    aes_block1 rk v = aes_block1 rk' v := by
  have rounds : (List.range 9).foldl (fun st i => aesRound st (rk i)) v =
      (List.range 9).foldl (fun st i => aesRound st (rk' i)) v := by
    refine List.foldl_ext _ _ _ fun st i mem => ?_
    rw [same i ((List.mem_range.mp mem).trans (by decide))]
  rw [aes_block1,aes_block1,rounds,same 9 (by decide),same 10 (by decide)]

theorem cipher_congr (key : Nat → UInt8) {input input' : Nat → UInt8} (inputs : ∀ k < 16, input k = input' k) :
    cipher key input = cipher key input' := by
  have states : State.ofOctets input = State.ofOctets input' := by
    funext r c
    exact inputs _ (by omega)
  rw [cipher,cipher,states]

/-! ### The schedule -/

theorem keyExpansion_key (key : Nat → UInt8) {i : Nat} (first : i < 4) (j : Fin 4) :
    keyExpansion key i j = key (4 * i + j) := by
  rw [keyExpansion,if_pos first]

theorem keyExpansion_first (key : Nat → UInt8) (r : Nat) (j : Fin 4) :
    keyExpansion key (4 * (r+1)) j =
      keyExpansion key (4 * r) j ^^^ (subByte (keyExpansion key (4 * r + 3) (j + 1)) ^^^ rcon (r+1) j) := by
  rw [keyExpansion,if_neg (by omega),if_pos (by omega),show 4 * (r+1) - 4 = 4 * r by omega,
    show 4 * (r+1) - 1 = 4 * r + 3 by omega,show 4 * (r+1) / 4 = r + 1 by omega]
  rfl

theorem keyExpansion_next (key : Nat → UInt8) (r : Nat) {c : Nat} (inside : c < 3) (j : Fin 4) :
    keyExpansion key (4 * (r+1) + (c+1)) j =
      keyExpansion key (4 * r + (c+1)) j ^^^ keyExpansion key (4 * (r+1) + c) j := by
  rw [keyExpansion,if_neg (by omega),if_neg (by omega),show 4 * (r+1) + (c+1) - 4 = 4 * r + (c+1) by omega,
    show 4 * (r+1) + (c+1) - 1 = 4 * (r+1) + c by omega]

theorem octet_ofLanes (a b c d : BitVec 32) {j : Nat} (inside : j < 4) :
    octet (ofLanes a b c d) j = octet a j ∧ octet (ofLanes a b c d) (4+j) = octet b j ∧
      octet (ofLanes a b c d) (8+j) = octet c j ∧ octet (ofLanes a b c d) (12+j) = octet d j := by
  refine ⟨?_,?_,?_,?_⟩
  · rw [ofLanes,octet_append_low _ _ (by omega)]
  · rw [ofLanes,octet_append_high (j := 4) _ _ rfl (by omega),octet_append_low _ _ (by omega),Nat.add_sub_cancel_left]
  · rw [ofLanes,octet_append_high (j := 4) _ _ rfl (by omega),octet_append_high (j := 4) _ _ rfl (by omega),
      octet_append_low _ _ (by omega)]
    congr 1
    omega
  · rw [ofLanes,octet_append_high (j := 4) _ _ rfl (by omega),octet_append_high (j := 4) _ _ rfl (by omega),
      octet_append_high (j := 4) _ _ rfl (by omega)]
    congr 1
    omega

/-- `w10` of a round: the last word turned by an octet and substituted, and the constant. -/
theorem octet_w10 (v : BitVec 128) (con : UInt8) (j : Fin 4) :
    octet (lane (aese (tbl v rotIndex) 0) 3 ^^^ con.toBitVec.setWidth 32) j =
      subByte (octet v (12 + (j + 1 : Fin 4))) ^^^ (if j = 0 then con else 0) := by
  have picked : octet (tbl v rotIndex) (j + 4 * ((3 + j) % 4)) = octet v (12 + (j + 1 : Fin 4)) := by
    rw [tbl,octet_pack _ (by omega),rotIndex,octet_pack _ (by omega)]
    match j with
    | 0 => rfl
    | 1 => rfl
    | 2 => rfl
    | 3 => rfl
  have constant : octet (con.toBitVec.setWidth 32) j = if j = 0 then con else 0 := by
    apply octet_ext
    intro i small
    rw [bit_octet _ _ small,BitVec.getLsbD_setWidth,decide_eq_true (by omega),Bool.true_and]
    split
    next first => rw [first]; congr 1; simp
    next later =>
      have past : 8 ≤ 8 * j.val + i := by omega
      rw [BitVec.getLsbD_of_ge _ _ past]
      simp
  rw [octet_xor,constant,octet_lane _ _ (by omega),aese,octet_pack _ (by omega),octet_xor]
  rw [show (4 * 3 + j.val) % 4 = j by omega,show (4 * 3 + j.val) / 4 = 3 by omega,picked]
  rw [show octet (0 : BitVec 128) (j + 4 * ((3 + j) % 4)) = 0 from octet_zero _,UInt8.xor_zero]

/-- One round of the schedule. -/
theorem words_round {v : BitVec 128} {r : Nat} (held : words v = roundWords key r) :
    words (key_expand_round v (rcons.getD r 0)) = roundWords key (r+1) := by
  have word (c j : Fin 4) : octet v (4 * c + j) = keyExpansion key (4 * r + c) j := congrFun (congrFun held c) j
  have first (j : Fin 4) : octet
    (lane v 0 ^^^ (lane (aese (tbl v rotIndex) 0) 3 ^^^ (rcons.getD r 0).toBitVec.setWidth 32)) j =
      keyExpansion key (4 * (r+1)) j := by
    rw [keyExpansion_first,octet_xor,octet_w10,octet_lane _ _ (by omega),rcon,Nat.add_sub_cancel]
    exact congrArg₂ _ (word 0 j) (congrArg₂ _ (congrArg _ (word 3 (j+1))) rfl)
  have next {c : Nat} (inside : c < 3) {x : BitVec 32} (last : ∀ j : Fin 4, octet x j = keyExpansion key
    (4 * (r+1) + c) j)
      (j : Fin 4) : octet (lane v (c+1) ^^^ x) j = keyExpansion key (4 * (r+1) + (c+1)) j := by
    rw [keyExpansion_next key r inside,octet_xor,octet_lane _ _ (by omega),last]
    exact congrArg₂ _ (word ⟨c+1,by omega⟩ j) rfl
  have second := next (c := 0) (by decide) first
  have third := next (c := 1) (by decide) second
  have fourth := next (c := 2) (by decide) third
  funext c j
  rw [words,key_expand_round]
  match c with
  | 0 => exact ((congrArg _ (Nat.zero_add _)).trans (octet_ofLanes _ _ _ _ j.isLt).1).trans (first j)
  | 1 => exact (octet_ofLanes _ _ _ _ j.isLt).2.1.trans (second j)
  | 2 => exact (octet_ofLanes _ _ _ _ j.isLt).2.2.1.trans (third j)
  | 3 => exact (octet_ofLanes _ _ _ _ j.isLt).2.2.2.trans (fourth j)

/-- The rounds left fill the schedule behind the round keys that are there. -/
theorem keyExpandRounds_scheduled {x1 : Nat} (rest : List UInt8) {m : Mem} {r : Nat} {v0 : BitVec 128}
    (left : rest = rcons.drop r) (last : words v0 = roundWords key r)
    (before : ∀ i ≤ r, words (roundKey m x1 i) = roundWords key i) :
    Scheduled key (roundKey (keyExpandRounds rest m (x1 + 16 * (r+1)) v0) x1) := by
  induction rest generalizing m r v0 with
  | nil =>
    have beyond : rcons.length ≤ r := List.drop_eq_nil_iff.mp left.symm
    exact fun i inside => before i (inside.trans beyond)
  | cons w11 rest ih =>
    have more : r < rcons.length := by
      by_contra beyond
      rw [List.drop_eq_nil_of_le (by omega)] at left
      cases left
    rw [List.drop_eq_getElem_cons more,List.cons.injEq] at left
    have con : w11 = rcons.getD r 0 := left.1.trans (by simp [more])
    have made : words (key_expand_round v0 w11) = roundWords key (r+1) := by rw [con]; exact words_round last
    rw [keyExpandRounds]
    refine ih left.2 made fun i inside => ?_
    by_cases new : i = r + 1
    · rw [new,roundKey,ld1_st1,made]
    · rw [roundKey,ld1_st1_apart _ (by omega)]
      exact before i (by omega)

theorem keyExpandRounds_outside (rest : List UInt8) {m : Mem} {x1 i : Nat} (v0 : BitVec 128)
    (out : i < x1 ∨ x1 + 16 * rest.length ≤ i) : keyExpandRounds rest m x1 v0 i = m i := by
  induction rest generalizing m x1 v0 with
  | nil => rfl
  | cons w11 rest ih =>
    rw [List.length_cons] at out
    rw [keyExpandRounds,ih _ (by omega),st1_outside _ (by omega)]

theorem aes128_key_expand_scheduled (m : Mem) (x0 x1 : Nat) :
    Scheduled (shift m x0) (roundKey (aes128_key_expand m x0 x1) x1) := by
  have first : words (ld1 m x0) = roundWords (shift m x0) 0 := by
    funext c j
    rw [words,octet_ld1 _ _ (by omega),roundWords,Nat.mul_zero,Nat.zero_add,keyExpansion_key _ c.isLt]
    rfl
  refine keyExpandRounds_scheduled (r := 0) rcons rfl first fun i inside => ?_
  rw [Nat.le_zero.mp inside,roundKey,Nat.mul_zero,Nat.add_zero,ld1_st1,first]

theorem aes128_key_expand_outside (m : Mem) (x0 : Nat) {x1 i : Nat} (out : i < x1 ∨ x1 + 176 ≤ i) :
    aes128_key_expand m x0 x1 i = m i := by
  have length : rcons.length = 10 := rfl
  rw [aes128_key_expand,keyExpandRounds_outside rcons _ (by omega),st1_outside _ (by omega)]

end Sarm.Aes
