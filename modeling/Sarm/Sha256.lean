import Mathlib.Data.Nat.NthRoot.Defs
import Sarm.Neon

/-!
SHA-256: the hash as FIPS 180-4 defines it, and the code for it, which compresses blocks
with the vector instructions and keeps what it has absorbed in a context.
-/
namespace Sarm.Sha256
open Sarm.Memory Sarm.Neon

abbrev Word := BitVec 32

/-! ### FIPS 180-4 -/

def ch (x y z : Word) : Word := (x &&& y) ^^^ (~~~x &&& z)

def maj (x y z : Word) : Word := (x &&& y) ^^^ (x &&& z) ^^^ (y &&& z)

def bigSigma0 (x : Word) : Word := x.rotateRight 2 ^^^ x.rotateRight 13 ^^^ x.rotateRight 22

def bigSigma1 (x : Word) : Word := x.rotateRight 6 ^^^ x.rotateRight 11 ^^^ x.rotateRight 25

def sigma0 (x : Word) : Word := x.rotateRight 7 ^^^ x.rotateRight 18 ^^^ x >>> 3

def sigma1 (x : Word) : Word := x.rotateRight 17 ^^^ x.rotateRight 19 ^^^ x >>> 10

/-- The first sixty-four primes. -/
def primes : List Nat :=
  [2,3,5,7,11,13,17,19,23,29,31,37,41,43,47,53,59,61,67,71,73,79,83,89,97,101,103,107,109,113,127,131,
   137,139,149,151,157,163,167,173,179,181,191,193,197,199,211,223,227,229,233,239,241,251,257,263,269,
   271,277,281,283,293,307,311]

/-- The first 32 bits of the fractional part of the cube root of a prime. -/
def constant (t : Nat) : Word := BitVec.ofNat 32 (Nat.nthRoot 3 (primes.getD t 0 * 2^96))

/-- The same of a square root. -/
def initialWord (i : Nat) : Word := BitVec.ofNat 32 (Nat.nthRoot 2 (primes.getD i 0 * 2^64))

/-- The working variables, and the hash value. -/
@[ext] structure State where
  a : Word
  b : Word
  c : Word
  d : Word
  e : Word
  f : Word
  g : Word
  h : Word
  deriving DecidableEq

def initial : State :=
  ⟨initialWord 0,initialWord 1,initialWord 2,initialWord 3,initialWord 4,initialWord 5,initialWord 6,initialWord 7⟩

/-- Word `t` of a block, most significant octet first. -/
def message (block : Mem) (t : Nat) : Word :=
  (block (4*t)).toBitVec ++ (block (4*t+1)).toBitVec ++ (block (4*t+2)).toBitVec ++ (block (4*t+3)).toBitVec

/-- The message schedule. -/
def schedule (block : Mem) (t : Nat) : Word :=
  if t < 16 then message block t
  else sigma1 (schedule block (t-2)) + schedule block (t-7) + sigma0 (schedule block (t-15)) + schedule block (t-16)
  termination_by t

def round (k w : Word) (s : State) : State :=
  let t1 := s.h + bigSigma1 s.e + ch s.e s.f s.g + k + w
  let t2 := bigSigma0 s.a + maj s.a s.b s.c
  ⟨t1 + t2,s.a,s.b,s.c,s.d + t1,s.e,s.f,s.g⟩

/-- The first `n` rounds of a block. -/
def rounds (block : Mem) (s : State) : Nat → State
  | 0 => s
  | t+1 => round (constant t) (schedule block t) (rounds block s t)

/-- The hash value after a block. -/
def compress (s : State) (block : Mem) : State :=
  let r := rounds block s 64
  ⟨s.a + r.a,s.b + r.b,s.c + r.c,s.d + r.d,s.e + r.e,s.f + r.f,s.g + r.g,s.h + r.h⟩

/-- The hash value after so many blocks of 64 octets. -/
def chain (s : State) : Nat → List UInt8 → State
  | 0, _ => s
  | n+1, l => chain (compress s (ofBytes l)) n (l.drop 64)

/-- Eight octets, most significant first. -/
def be64 (v : BitVec 64) : List UInt8 := (List.range 8).map fun k => octet v (7 - k)

/-- What is put behind a message of `n` octets: the bit one, the fewest zeros that reach 448
    bits modulo 512, and the length in bits. -/
def padding (n : Nat) : List UInt8 := 0x80 :: List.replicate ((119 - n % 64) % 64) 0 ++ be64 (BitVec.ofNat 64 (8 * n))

/-- Four octets, most significant first. -/
def be32 (v : Word) : List UInt8 := [octet v 3,octet v 2,octet v 1,octet v 0]

def State.octets (s : State) : List UInt8 :=
  be32 s.a ++ be32 s.b ++ be32 s.c ++ be32 s.d ++ be32 s.e ++ be32 s.f ++ be32 s.g ++ be32 s.h

/-- The digest of a message. -/
def digest (l : List UInt8) : List UInt8 :=
  let padded := l ++ padding l.length
  (chain initial (padded.length / 64) padded).octets

/-! ### The instructions -/

/-- A register as its four words. -/
@[ext] structure Quad where
  x0 : Word
  x1 : Word
  x2 : Word
  x3 : Word
  deriving DecidableEq

def Quad.add (p q : Quad) : Quad := ⟨p.x0 + q.x0,p.x1 + q.x1,p.x2 + q.x2,p.x3 + q.x3⟩

/-- `rev32` of each word. -/
def Quad.rev (q : Quad) : Quad := ⟨rev32 q.x0,rev32 q.x1,rev32 q.x2,rev32 q.x3⟩

def choose (x y z : Word) : Word := ((y ^^^ z) &&& x) ^^^ z

def majority (x y z : Word) : Word := (x &&& y) ||| ((x ||| y) &&& z)

/-- One of the four steps of a hash instruction, with the rotation of both registers by a word. -/
def hashStep (s : Quad × Quad) (w : Word) : Quad × Quad :=
  let (x,y) := s
  let t := y.x3 + bigSigma1 y.x0 + choose y.x0 y.x1 y.x2 + w
  (⟨t + bigSigma0 x.x0 + majority x.x0 x.x1 x.x2,x.x0,x.x1,x.x2⟩,⟨t + x.x3,y.x0,y.x1,y.x2⟩)

def sha256hash (x y w : Quad) : Quad × Quad := hashStep (hashStep (hashStep (hashStep (x,y) w.x0) w.x1) w.x2) w.x3

def sha256h (d n m : Quad) : Quad := (sha256hash d n m).1

def sha256h2 (d n m : Quad) : Quad := (sha256hash n d m).2

def sha256su0 (d n : Quad) : Quad :=
  ⟨sigma0 d.x1 + d.x0,sigma0 d.x2 + d.x1,sigma0 d.x3 + d.x2,sigma0 n.x0 + d.x3⟩

def sha256su1 (d n m : Quad) : Quad :=
  let e0 := sigma1 m.x2 + d.x0 + n.x1
  let e1 := sigma1 m.x3 + d.x1 + n.x2
  ⟨e0,e1,sigma1 e0 + d.x2 + n.x3,sigma1 e1 + d.x3 + m.x0⟩

/-- `ld1` of four words. -/
def ldq (m : Mem) (a : Nat) : Quad := ⟨ldr 32 m a,ldr 32 m (a+4),ldr 32 m (a+8),ldr 32 m (a+12)⟩

/-- `st1` of four words. -/
def stq (m : Mem) (a : Nat) (q : Quad) : Mem := str (str (str (str m a q.x0) (a+4) q.x1) (a+8) q.x2) (a+12) q.x3

/-! ### The code -/

def k256 : List Word :=
  [0x428a2f98,0x71374491,0xb5c0fbcf,0xe9b5dba5,0x3956c25b,0x59f111f1,0x923f82a4,0xab1c5ed5,
   0xd807aa98,0x12835b01,0x243185be,0x550c7dc3,0x72be5d74,0x80deb1fe,0x9bdc06a7,0xc19bf174,
   0xe49b69c1,0xefbe4786,0x0fc19dc6,0x240ca1cc,0x2de92c6f,0x4a7484aa,0x5cb0a9dc,0x76f988da,
   0x983e5152,0xa831c66d,0xb00327c8,0xbf597fc7,0xc6e00bf3,0xd5a79147,0x06ca6351,0x14292967,
   0x27b70a85,0x2e1b2138,0x4d2c6dfc,0x53380d13,0x650a7354,0x766a0abb,0x81c2c92e,0x92722c85,
   0xa2bfe8a1,0xa81a664b,0xc24b8b70,0xc76c51a3,0xd192e819,0xd6990624,0xf40e3585,0x106aa070,
   0x19a4c116,0x1e376c08,0x2748774c,0x34b0bcb5,0x391c0cb3,0x4ed8aa4a,0x5b9cca4f,0x682e6ff3,
   0x748f82ee,0x78a5636f,0x84c87814,0x8cc70208,0x90befffa,0xa4506ceb,0xbef9a3f7,0xc67178f2]

def sha256_h256 : Quad × Quad :=
  (⟨0x6a09e667,0xbb67ae85,0x3c6ef372,0xa54ff53a⟩,⟨0x510e527f,0x9b05688c,0x1f83d9ab,0x5be0cd19⟩)

/-- Four words of the table. -/
def k256At (x4 : Nat) : Quad := ⟨k256.getD x4 0,k256.getD (x4+1) 0,k256.getD (x4+2) 0,k256.getD (x4+3) 0⟩

/-- The registers a block is compressed in. -/
structure Vectors where
  v0 : Quad
  v1 : Quad
  v4 : Quad
  v5 : Quad
  v6 : Quad
  v7 : Quad

/-- The rounds of a group: `v16` its constants, `w` its words. -/
def group (v16 w : Quad) (v : Quad × Quad) : Quad × Quad :=
  let v18 := v16.add w
  let v19 := v.1
  (sha256h v.1 v.2 v18,sha256h2 v.2 v19 v18)

/-- Four groups, through the window of message words. -/
def groups (x4 : Nat) (v : Vectors) : Vectors :=
  let h := group (k256At x4) v.v4 (v.v0,v.v1)
  let v4 := sha256su1 (sha256su0 v.v4 v.v5) v.v6 v.v7
  let h := group (k256At (x4+4)) v.v5 h
  let v5 := sha256su1 (sha256su0 v.v5 v.v6) v.v7 v4
  let h := group (k256At (x4+8)) v.v6 h
  let v6 := sha256su1 (sha256su0 v.v6 v.v7) v4 v5
  let h := group (k256At (x4+12)) v.v7 h
  let v7 := sha256su1 (sha256su0 v.v7 v4) v5 v6
  ⟨h.1,h.2,v4,v5,v6,v7⟩

/-- The block loop. -/
def blockLoop (m : Mem) : Nat → Nat → Quad × Quad → Quad × Quad
  | 0, _, v => v
  | x2+1, x1, v =>
    let r := groups 48 (groups 32 (groups 16 (groups 0
      ⟨v.1,v.2,(ldq m x1).rev,(ldq m (x1+16)).rev,(ldq m (x1+32)).rev,(ldq m (x1+48)).rev⟩)))
    blockLoop m x2 (x1+64) (r.v0.add v.1,r.v1.add v.2)

def sha256 (m : Mem) (x0 x1 x2 : Nat) : Mem :=
  if x2 = 0 then m
  else
    let v := blockLoop m x2 x1 (ldq m x0,ldq m (x0+16))
    stq (stq m x0 v.1) (x0+16) v.2

/-! A context has the hash value in its first 32 octets, the bits absorbed at 32, a buffer of 64
octets at 40 and how many of them are in use at 104: 112 octets. -/

def sha256_init (m : Mem) (x0 : Nat) : Mem :=
  let m := stq (stq m x0 sha256_h256.1) (x0+16) sha256_h256.2
  let m := str m (x0+32) (0 : BitVec 64)
  let m := blit m (x0+40) (fun _ => 0) 64
  str m (x0+104) (0 : BitVec 64)

/-- `bitlen += n * 8`. -/
def addBits (m : Mem) (ctx n : Nat) : Mem := str m (ctx+32) (ldr 64 m (ctx+32) + BitVec.ofNat 64 (8 * n))

/-- `n` octets put behind the `buflen` in the buffer. -/
def bufferMore (m : Mem) (ctx buflen data n : Nat) : Mem :=
  let m := copyBlocks 1 n m (ctx+40+buflen) data
  let m := str m (ctx+104) (BitVec.ofNat 64 (buflen+n))
  addBits m ctx n

/-- Whole blocks from the input, then the rest into the buffer. -/
def updateBlocks (m : Mem) (ctx data len : Nat) : Mem :=
  if len < 64 then
    if len = 0 then m else bufferMore m ctx 0 data len
  else updateBlocks (addBits (sha256 m ctx data 1) ctx 64) ctx (data+64) (len-64)
  termination_by len

def sha256_update (m : Mem) (ctx data len : Nat) : Mem :=
  if len = 0 then m
  else
    let buflen := (ldr 64 m (ctx+104)).toNat
    if buflen = 0 then updateBlocks m ctx data len
    else
      let n := min (64 - buflen) len
      let m := bufferMore m ctx buflen data n
      if buflen + n ≠ 64 then m
      else
        let m := sha256 m ctx (ctx+40) 1
        let m := str m (ctx+104) (0 : BitVec 64)
        updateBlocks m ctx (data+n) (len-n)

/-- The end of the padding, from `buflen` on: zeros and the length. -/
def padLength (m : Mem) (ctx buflen : Nat) : Mem :=
  let m := blit m (ctx+40+buflen) (fun _ => 0) (56-buflen)
  str m (ctx+96) (rev64 (ldr 64 m (ctx+32)))

def sha256_final (m : Mem) (ctx out : Nat) : Mem :=
  let buflen := (ldr 64 m (ctx+104)).toNat
  let m := store m (ctx+40+buflen) 0x80
  let buflen := buflen + 1
  let m :=
    if buflen ≤ 56 then padLength m ctx buflen
    else padLength (sha256 (blit m (ctx+40+buflen) (fun _ => 0) (64-buflen)) ctx (ctx+40) 1) ctx 0
  let m := sha256 m ctx (ctx+40) 1
  stq (stq m out (ldq m ctx).rev) (out+16) (ldq m (ctx+16)).rev

/-! ### The instructions compute the rounds -/

def State.abcd (s : State) : Quad := ⟨s.a,s.b,s.c,s.d⟩

def State.efgh (s : State) : Quad := ⟨s.e,s.f,s.g,s.h⟩

/-- The registers that hold a hash value. -/
def State.quads (s : State) : Quad × Quad := (s.abcd,s.efgh)

/-- Words `t` to `t + 3` of the schedule. -/
def scheduleQuad (block : Mem) (t : Nat) : Quad :=
  ⟨schedule block t,schedule block (t+1),schedule block (t+2),schedule block (t+3)⟩

theorem choose_ch (x y z : Word) : choose x y z = ch x y z := by
  apply BitVec.eq_of_getLsbD_eq
  intro i inside
  simp only [choose,ch,BitVec.getLsbD_xor,BitVec.getLsbD_and,BitVec.getLsbD_not,decide_eq_true inside,Bool.true_and]
  cases x.getLsbD i <;> cases y.getLsbD i <;> cases z.getLsbD i <;> rfl

theorem majority_maj (x y z : Word) : majority x y z = maj x y z := by
  apply BitVec.eq_of_getLsbD_eq
  intro i inside
  simp only [majority,maj,BitVec.getLsbD_xor,BitVec.getLsbD_and,BitVec.getLsbD_or]
  cases x.getLsbD i <;> cases y.getLsbD i <;> cases z.getLsbD i <;> rfl

theorem hashStep_round (k w : Word) (s : State) : hashStep s.quads (k + w) = (round k w s).quads := by
  simp only [hashStep,State.quads,State.abcd,State.efgh,round,choose_ch,majority_maj,Prod.mk.injEq,Quad.mk.injEq,and_true]
  constructor
  · ac_rfl
  · ac_rfl

theorem k256_constant : ∀ t < 64, k256.getD t 0 = constant t := by decide +kernel

theorem sha256_h256_initial : sha256_h256 = initial.quads := by decide +kernel

theorem group_rounds (block : Mem) (s : State) {t : Nat} (inside : t + 4 ≤ 64) :
    group (k256At t) (scheduleQuad block t) (rounds block s t).quads = (rounds block s (t+4)).quads := by
  rw [group,k256At,k256_constant t (by omega),k256_constant (t+1) (by omega),k256_constant (t+2) (by omega),
    k256_constant (t+3) (by omega)]
  simp only [sha256h,sha256h2,sha256hash,Quad.add,scheduleQuad,Prod.mk.eta,hashStep_round]
  rfl

theorem schedule_next (block : Mem) (t : Nat) :
    schedule block (t+16) =
      sigma1 (schedule block (t+14)) + schedule block (t+9) + sigma0 (schedule block (t+1)) + schedule block t := by
  rw [schedule,if_neg (by omega)]
  rfl

theorem scheduleQuad_next (block : Mem) (t : Nat) :
    sha256su1 (sha256su0 (scheduleQuad block t) (scheduleQuad block (t+4))) (scheduleQuad block (t+8))
      (scheduleQuad block (t+12)) = scheduleQuad block (t+16) := by
  have word (t : Nat) : sigma1 (schedule block (t+14)) + (sigma0 (schedule block (t+1)) + schedule block t) +
      schedule block (t+9) = schedule block (t+16) := by
    rw [schedule_next]
    ac_rfl
  rw [sha256su1,sha256su0]
  simp only [scheduleQuad,Nat.add_assoc,Nat.reduceAdd]
  have first := word t
  have second := word (t+1)
  have third := word (t+2)
  have fourth := word (t+3)
  simp only [Nat.add_assoc,Nat.reduceAdd] at first second third fourth
  rw [first,second,third,fourth]

/-- The registers after `t` rounds, the window on the next sixteen words of the schedule. -/
def vectors (block : Mem) (s : State) (t : Nat) : Vectors :=
  ⟨(rounds block s t).abcd,(rounds block s t).efgh,scheduleQuad block t,scheduleQuad block (t+4),
    scheduleQuad block (t+8),scheduleQuad block (t+12)⟩

theorem groups_vectors (block : Mem) (s : State) {t : Nat} (inside : t + 16 ≤ 64) :
    groups t (vectors block s t) = vectors block s (t+16) := by
  have first := group_rounds block s (t := t) (by omega)
  have second := group_rounds block s (t := t+4) (by omega)
  have third := group_rounds block s (t := t+8) (by omega)
  have fourth := group_rounds block s (t := t+12) (by omega)
  have next := scheduleQuad_next block t
  have next4 := scheduleQuad_next block (t+4)
  have next8 := scheduleQuad_next block (t+8)
  have next12 := scheduleQuad_next block (t+12)
  simp only [Nat.add_assoc,Nat.reduceAdd] at second third fourth next4 next8 next12
  simp only [State.quads] at first second third fourth
  simp only [groups,vectors,Nat.add_assoc,Nat.reduceAdd,next,next4,next8,next12,first,second,third,fourth]

/-! ### Blocks in memory -/

theorem octet_toBitVec (b : UInt8) : octet b.toBitVec 0 = b := by
  apply octet_ext
  intro i small
  rw [bit_octet _ _ small,Nat.mul_zero,Nat.zero_add]

theorem rev32_ldr (m : Mem) (a t : Nat) : rev32 (ldr 32 m (a + 4*t)) = message (shift m a) t := by
  apply word_ext 4 le_rfl
  intro k inside
  rw [octet_rev32 _ inside,octet_ldr _ _ (by omega) (by omega),message,Nat.add_assoc]
  match k,inside with
  | 0,_ => exact ((octet_append_low _ _ le_rfl).trans (octet_toBitVec _)).symm
  | 1,_ =>
    rw [octet_append_high (j := 1) _ _ rfl le_rfl]
    exact ((octet_append_low _ _ le_rfl).trans (octet_toBitVec _)).symm
  | 2,_ =>
    rw [octet_append_high (j := 1) _ _ rfl (by decide),octet_append_high (j := 1) _ _ rfl le_rfl]
    exact ((octet_append_low _ _ le_rfl).trans (octet_toBitVec _)).symm
  | 3,_ =>
    rw [octet_append_high (j := 1) _ _ rfl (by decide),octet_append_high (j := 1) _ _ rfl (by decide),
      octet_append_high (j := 1) _ _ rfl le_rfl]
    exact (octet_toBitVec _).symm

theorem message_congr {block block' : Mem} (same : ∀ i < 64, block i = block' i) {t : Nat} (inside : t < 16) :
    message block t = message block' t := by
  rw [message,message,same (4*t) (by omega),same (4*t+1) (by omega),same (4*t+2) (by omega),same (4*t+3) (by omega)]

theorem schedule_congr {block block' : Mem} (same : ∀ i < 64, block i = block' i) (t : Nat) :
    schedule block t = schedule block' t := by
  induction t using Nat.strong_induction_on with
  | h t ih =>
    by_cases first : t < 16
    · rw [schedule,if_pos first,schedule,if_pos first,message_congr same first]
    · obtain ⟨t,rfl⟩ := Nat.exists_eq_add_of_le' (Nat.le_of_not_lt first)
      rw [schedule_next,schedule_next,ih (t+14) (by omega),ih (t+9) (by omega),ih (t+1) (by omega),ih t (by omega)]

theorem rounds_congr {block block' : Mem} (same : ∀ i < 64, block i = block' i) (s : State) (n : Nat) :
    rounds block s n = rounds block' s n := by
  induction n with
  | zero => rfl
  | succ n ih => rw [rounds,rounds,ih,schedule_congr same]

/-- Only the first 64 octets count. -/
theorem compress_congr {block block' : Mem} (same : ∀ i < 64, block i = block' i) (s : State) :
    compress s block = compress s block' := by
  rw [compress,compress,rounds_congr same]

theorem chain_add (s : State) (a b : Nat) (l : List UInt8) : chain s (a+b) l = chain (chain s a l) b (l.drop (64*a)) := by
  induction a generalizing s l with
  | zero => rw [Nat.zero_add]; rfl
  | succ a ih => rw [show a+1+b = a+b+1 by omega,chain,chain,ih,List.drop_drop,Nat.mul_succ,Nat.add_comm 64]

theorem chain_append (s : State) {n : Nat} {l : List UInt8} (rest : List UInt8) (length : 64 * n ≤ l.length) :
    chain s n (l ++ rest) = chain s n l := by
  induction n generalizing s l with
  | zero => rfl
  | succ n ih =>
    have first : compress s (ofBytes (l ++ rest)) = compress s (ofBytes l) :=
      compress_congr (fun i inside => by simp [ofBytes,List.getElem?_append_left (show i < l.length by omega)]) s
    rw [chain,chain,first,List.drop_append_of_le_length (by omega)]
    exact ih _ (by rw [List.length_drop]; omega)

theorem scheduleQuad_message (m : Mem) (a : Nat) :
    (ldq m a).rev = scheduleQuad (shift m a) 0 ∧ (ldq m (a+16)).rev = scheduleQuad (shift m a) 4 ∧
      (ldq m (a+32)).rev = scheduleQuad (shift m a) 8 ∧ (ldq m (a+48)).rev = scheduleQuad (shift m a) 12 := by
  have word (t : Nat) (first : t < 16) : rev32 (ldr 32 m (a + 4*t)) = schedule (shift m a) t := by
    rw [rev32_ldr,schedule,if_pos first]
  refine ⟨?_,?_,?_,?_⟩
  · exact Quad.ext (word 0 (by decide)) (word 1 (by decide)) (word 2 (by decide)) (word 3 (by decide))
  · exact Quad.ext (word 4 (by decide)) (word 5 (by decide)) (word 6 (by decide)) (word 7 (by decide))
  · exact Quad.ext (word 8 (by decide)) (word 9 (by decide)) (word 10 (by decide)) (word 11 (by decide))
  · exact Quad.ext (word 12 (by decide)) (word 13 (by decide)) (word 14 (by decide)) (word 15 (by decide))

theorem blockLoop_chain (m : Mem) (n : Nat) (x1 : Nat) (s : State) :
    blockLoop m n x1 s.quads = (chain s n (slice m x1 (64*n))).quads := by
  induction n generalizing x1 s with
  | zero => rfl
  | succ n ih =>
    obtain ⟨first,second,third,fourth⟩ := scheduleQuad_message m x1
    have start :
      (⟨s.quads.1,s.quads.2,(ldq m x1).rev,(ldq m (x1+16)).rev,(ldq m (x1+32)).rev,(ldq m (x1+48)).rev⟩ : Vectors) =
        vectors (shift m x1) s 0 := by
      rw [first,second,third,fourth]
      rfl
    have block : compress s (ofBytes (slice m x1 (64*(n+1)))) = compress s (shift m x1) :=
      compress_congr (fun i inside => ofBytes_slice (by omega)) s
    have behind : (slice m x1 (64*(n+1))).drop 64 = slice m (x1+64) (64*n) := by
      rw [show 64*(n+1) = 64 + 64*n by omega,slice_add]
      exact List.drop_left' (slice_length m x1 64)
    rw [blockLoop,start,groups_vectors _ _ (by decide),groups_vectors _ _ (by decide),groups_vectors _ _ (by decide),
      groups_vectors _ _ (by decide),chain,block,behind,← ih]
    simp only [vectors,State.quads,State.abcd,State.efgh,Quad.add,compress,add_comm]

/-! ### The hash value in memory -/

theorem stq_outside {m : Mem} {a i : Nat} (q : Quad) (out : i < a ∨ a + 16 ≤ i) : stq m a q i = m i := by
  rw [stq,str_outside _ (by omega),str_outside _ (by omega),str_outside _ (by omega),str_outside _ (by omega)]

theorem ldq_congr {m m' : Mem} {a a' : Nat} (same : ∀ k < 16, m (a+k) = m' (a'+k)) : ldq m a = ldq m' a' := by
  have word (j : Nat) (inside : j + 4 ≤ 16) : ldr 32 m (a+j) = ldr 32 m' (a'+j) :=
    ldr_congr 4 rfl (by decide) fun k small => by
      rw [Nat.add_assoc,Nat.add_assoc]
      exact same (j+k) (by omega)
  exact Quad.ext (word 0 (by decide)) (word 4 (by decide)) (word 8 (by decide)) (word 12 (by decide))

theorem ldq_stq (m : Mem) (a : Nat) (q : Quad) : ldq (stq m a q) a = q := by
  apply Quad.ext
  · show ldr 32 (stq m a q) a = q.x0
    rw [stq,ldr_str_apart 4 rfl (by decide) _ (by omega),ldr_str_apart 4 rfl (by decide) _ (by omega),
      ldr_str_apart 4 rfl (by decide) _ (by omega),ldr_str 4 rfl (by decide)]
  · show ldr 32 (stq m a q) (a+4) = q.x1
    rw [stq,ldr_str_apart 4 rfl (by decide) _ (by omega),ldr_str_apart 4 rfl (by decide) _ (by omega),
      ldr_str 4 rfl (by decide)]
  · show ldr 32 (stq m a q) (a+8) = q.x2
    rw [stq,ldr_str_apart 4 rfl (by decide) _ (by omega),ldr_str 4 rfl (by decide)]
  · show ldr 32 (stq m a q) (a+12) = q.x3
    rw [stq,ldr_str 4 rfl (by decide)]

/-- The hash value at an address. -/
def HashAt (m : Mem) (a : Nat) (s : State) : Prop := (ldq m a,ldq m (a+16)) = s.quads

theorem HashAt.congr {m m' : Mem} {a : Nat} {s : State} (held : HashAt m a s) (same : ∀ k < 32, m' (a+k) = m (a+k)) :
    HashAt m' a s := by
  have low : ldq m' a = ldq m a := ldq_congr fun k inside => same k (by omega)
  have high : ldq m' (a+16) = ldq m (a+16) := ldq_congr fun k inside => by
    rw [Nat.add_assoc]
    exact same (16+k) (by omega)
  rw [HashAt,low,high]
  exact held

theorem hashAt_store (m : Mem) (a : Nat) (s : State) : HashAt (stq (stq m a s.quads.1) (a+16) s.quads.2) a s := by
  have low : ldq (stq (stq m a s.quads.1) (a+16) s.quads.2) a = s.quads.1 := by
    rw [← ldq_stq m a s.quads.1]
    exact ldq_congr fun k inside => by rw [stq_outside _ (by omega),ldq_stq]
  rw [HashAt,low,ldq_stq]

theorem sha256_outside {m : Mem} {x0 i : Nat} (x1 x2 : Nat) (out : i < x0 ∨ x0 + 32 ≤ i) : sha256 m x0 x1 x2 i = m i := by
  rw [sha256]
  split
  · rfl
  · rw [stq_outside _ (by omega),stq_outside _ (by omega)]

theorem sha256_hash {m : Mem} {x0 : Nat} {s : State} (held : HashAt m x0 s) (x1 n : Nat) :
    HashAt (sha256 m x0 x1 n) x0 (chain s n (slice m x1 (64*n))) := by
  rw [sha256]
  split
  next none =>
    subst none
    exact held
  next =>
    rw [held,blockLoop_chain]
    exact hashAt_store _ _ _

/-! ### The context -/

theorem chain_block (s : State) {whole block : List UInt8} (blocks : whole.length % 64 = 0) (full : block.length = 64) :
    chain s ((whole ++ block).length / 64) (whole ++ block) = chain (chain s (whole.length / 64) whole) 1 block := by
  have length : 64 * (whole.length / 64) = whole.length := by omega
  rw [List.length_append,full,Nat.add_div_right _ (by decide),chain_add,chain_append _ _ length.le,length,List.drop_left]

/-- A context that has absorbed whole blocks, and then `tail`, which is in the buffer. -/
structure Buffered (m : Mem) (ctx : Nat) (whole tail : List UInt8) : Prop where
  blocks : whole.length % 64 = 0
  short : tail.length ≤ 64
  hash : HashAt m ctx (chain initial (whole.length / 64) whole)
  bitlen : ldr 64 m (ctx+32) = BitVec.ofNat 64 (8 * (whole.length + tail.length))
  buffer : slice m (ctx+40) tail.length = tail
  buflen : ldr 64 m (ctx+104) = BitVec.ofNat 64 tail.length

/-- A context that has absorbed a message. -/
def Absorbed (m : Mem) (ctx : Nat) (l : List UInt8) : Prop :=
  ∃ whole tail, l = whole ++ tail ∧ tail.length < 64 ∧ Buffered m ctx whole tail

/-- Octets apart from a context. -/
def ClearOf (ctx data len : Nat) : Prop := data + len ≤ ctx ∨ ctx + 112 ≤ data

section
variable {m : Mem} {ctx : Nat} {whole tail : List UInt8}

theorem addBits_outside {i : Nat} (n : Nat) (out : i < ctx + 32 ∨ ctx + 40 ≤ i) : addBits m ctx n i = m i :=
  str_outside _ (by omega)

theorem addBits_bitlen (m : Mem) (ctx n : Nat) :
    ldr 64 (addBits m ctx n) (ctx+32) = ldr 64 m (ctx+32) + BitVec.ofNat 64 (8 * n) :=
  ldr_str 8 rfl (by decide) _ _ _

theorem bufferMore_outside {buflen data n i : Nat} (fits : buflen + n ≤ 64) (out : i < ctx ∨ ctx + 112 ≤ i) :
    bufferMore m ctx buflen data n i = m i := by
  rw [bufferMore,addBits_outside _ (by omega),str_outside _ (by omega),copyBlocks_outside _ _ _ _ _ _ (by omega)]

theorem updateBlocks_outside {data len i : Nat} (out : i < ctx ∨ ctx + 112 ≤ i) :
    updateBlocks m ctx data len i = m i := by
  induction len using Nat.strong_induction_on generalizing m data with
  | h len ih =>
    rw [updateBlocks]
    split
    next small =>
      split
      · rfl
      · exact bufferMore_outside (by omega) out
    next => rw [ih _ (by omega),addBits_outside _ (by omega),sha256_outside _ _ (by omega)]

theorem Buffered.more (held : Buffered m ctx whole tail) {data n : Nat} (fits : tail.length + n ≤ 64)
    (clear : ClearOf ctx data n) :
    Buffered (bufferMore m ctx tail.length data n) ctx whole (tail ++ slice m data n) := by
  have copied : copyBlocks 1 n m (ctx+40+tail.length) data = blit m (ctx+40+tail.length) (shift m data) n := by
    have forward := copyBlocks_forward 1 n m (ctx+40+tail.length) data (by unfold ClearOf at clear; omega)
    rwa [Nat.one_mul] at forward
  have length : (tail ++ slice m data n).length = tail.length + n := by rw [List.length_append,slice_length]
  have kept {i : Nat} (out : i < ctx + 32) : bufferMore m ctx tail.length data n i = m i := by
    rw [bufferMore,addBits_outside _ (by omega),str_outside _ (by omega),copied,blit_outside (by omega)]
  refine ⟨held.blocks,by omega,held.hash.congr fun k inside => kept (by omega),?_,?_,?_⟩
  · have before : ldr 64
      (str (copyBlocks 1 n m (ctx+40+tail.length) data) (ctx+104) (BitVec.ofNat 64 (tail.length+n))) (ctx+32) =
        ldr 64 m (ctx+32) := by
      rw [copied,ldr_str_apart 8 rfl (by decide) _ (by omega)]
      exact ldr_congr 8 rfl (by decide) fun k inside => blit_outside (by omega)
    rw [bufferMore,addBits_bitlen,before,held.bitlen,length,← BitVec.ofNat_add]
    congr 1
    omega
  · have buffered : slice (bufferMore m ctx tail.length data n) (ctx+40) (tail.length + n) =
        slice (blit m (ctx+40+tail.length) (shift m data) n) (ctx+40) (tail.length + n) :=
      slice_congr fun i inside => by
        rw [bufferMore,addBits_outside _ (by omega),str_outside _ (by omega),copied]
    rw [length,buffered,slice_add,slice_blit_before (by omega),slice_blit_same,slice_shift,held.buffer,Nat.add_zero]
  · rw [bufferMore,length]
    have kept : ldr 64
      (addBits (str (copyBlocks 1 n m (ctx+40+tail.length) data) (ctx+104) (BitVec.ofNat 64 (tail.length+n))) ctx n)
        (ctx+104) = _ := ldr_str_apart 8 rfl (by decide) _ (by omega)
    rw [kept,ldr_str 8 rfl (by decide)]

/-- The buffer is full. -/
theorem Buffered.flush (held : Buffered m ctx whole tail) (full : tail.length = 64) :
    Buffered (str (sha256 m ctx (ctx+40) 1) (ctx+104) (0 : BitVec 64)) ctx (whole ++ tail) [] := by
  have hash := sha256_hash held.hash (ctx+40) 1
  have block : slice m (ctx+40) (64*1) = tail := by rw [Nat.mul_one,← full,held.buffer]
  refine ⟨?_,Nat.zero_le _,?_,?_,rfl,ldr_str 8 rfl (by decide) _ _ _⟩
  · rw [List.length_append,full,Nat.add_mod_right,held.blocks]
  · rw [chain_block _ held.blocks full,← block]
    exact hash.congr fun k inside => str_outside _ (by omega)
  · rw [ldr_str_apart 8 rfl (by decide) _ (by omega),List.length_append,List.length_nil,
      add_zero (whole.length + tail.length),← held.bitlen]
    exact ldr_congr 8 rfl (by decide) fun k inside => sha256_outside _ _ (by omega)

/-- A block from the input. -/
theorem Buffered.block (held : Buffered m ctx whole []) (data : Nat) :
    Buffered (addBits (sha256 m ctx data 1) ctx 64) ctx (whole ++ slice m data 64) [] := by
  have full : (slice m data 64).length = 64 := slice_length m data 64
  have hash := sha256_hash held.hash data 1
  refine ⟨?_,Nat.zero_le _,?_,?_,rfl,?_⟩
  · rw [List.length_append,full,Nat.add_mod_right,held.blocks]
  · rw [chain_block _ held.blocks full]
    exact hash.congr fun k inside => addBits_outside _ (by omega)
  · have before : ldr 64 (sha256 m ctx data 1) (ctx+32) = ldr 64 m (ctx+32) :=
      ldr_congr 8 rfl (by decide) fun k inside => sha256_outside _ _ (by omega)
    rw [addBits_bitlen,before,held.bitlen,List.length_append,full,← BitVec.ofNat_add]
    rfl
  · rw [← held.buflen]
    exact ldr_congr 8 rfl (by decide) fun k inside => by
      rw [addBits_outside _ (by omega),sha256_outside _ _ (by omega)]

theorem updateBlocks_absorbs {data len : Nat} (held : Buffered m ctx whole []) (clear : ClearOf ctx data len) :
    Absorbed (updateBlocks m ctx data len) ctx (whole ++ slice m data len) := by
  induction len using Nat.strong_induction_on generalizing m data whole with
  | h len ih =>
    rw [updateBlocks]
    split
    next small =>
      split
      next none =>
        subst none
        exact ⟨whole,[],rfl,by decide,held⟩
      next =>
        have more := @Buffered.more _ _ _ _ held data len (by simp only [List.length_nil]; omega) clear
        exact ⟨whole,slice m data len,rfl,by rw [slice_length]; exact small,more⟩
    next large =>
      obtain ⟨rest,rfl⟩ := Nat.exists_eq_add_of_le (Nat.le_of_not_lt large)
      have unread : slice (addBits (sha256 m ctx data 1) ctx 64) (data+64) rest = slice m (data+64) rest :=
        slice_congr fun i inside => by
          unfold ClearOf at clear
          rw [addBits_outside _ (by omega),sha256_outside _ _ (by omega)]
      have remaining := @ih rest (by omega) _ _ (data+64) (held.block data) (by unfold ClearOf at clear ⊢; omega)
      rw [unread,List.append_assoc,← slice_add] at remaining
      rwa [Nat.add_sub_cancel_left]

theorem init_outside {i : Nat} (out : i < ctx ∨ ctx + 112 ≤ i) : sha256_init m ctx i = m i := by
  rw [sha256_init,str_outside _ (by omega),blit_outside (by omega),str_outside _ (by omega),stq_outside _ (by omega),
    stq_outside _ (by omega)]

theorem init_absorbed (m : Mem) (ctx : Nat) : Absorbed (sha256_init m ctx) ctx [] := by
  refine ⟨[],[],rfl,by decide,rfl,Nat.zero_le _,?_,?_,rfl,ldr_str 8 rfl (by decide) _ _ _⟩
  · rw [sha256_init,sha256_h256_initial]
    exact (hashAt_store m ctx initial).congr fun k inside => by
      rw [str_outside _ (by omega),blit_outside (by omega),str_outside _ (by omega)]
  · have kept : ldr 64 (sha256_init m ctx) (ctx+32) =
        ldr 64 (str (stq (stq m ctx sha256_h256.1) (ctx+16) sha256_h256.2) (ctx+32) (0 : BitVec 64)) (ctx+32) :=
      ldr_congr 8 rfl (by decide) fun k inside => by
        rw [sha256_init,str_outside _ (by omega),blit_outside (by omega)]
    exact kept.trans (ldr_str 8 rfl (by decide) _ _ _)

theorem Buffered.buflen_toNat (held : Buffered m ctx whole tail) : (ldr 64 m (ctx+104)).toNat = tail.length := by
  have short := held.short
  rw [held.buflen,BitVec.toNat_ofNat]
  omega

theorem update_outside {l : List UInt8} (held : Absorbed m ctx l) {data len i : Nat} (out : i < ctx ∨ ctx + 112 ≤ i) :
    sha256_update m ctx data len i = m i := by
  obtain ⟨whole,tail,-,short,buffered⟩ := held
  rw [sha256_update]
  split
  · rfl
  · simp only [buffered.buflen_toNat]
    split
    · exact updateBlocks_outside out
    · split
      · exact bufferMore_outside (by omega) out
      · rw [updateBlocks_outside out,str_outside _ (by omega),sha256_outside _ _ (by omega),
          bufferMore_outside (by omega) out]

/-- An update absorbs its input, however what came before was split. -/
theorem update_absorbs {l : List UInt8} (held : Absorbed m ctx l) {data len : Nat} (clear : ClearOf ctx data len) :
    Absorbed (sha256_update m ctx data len) ctx (l ++ slice m data len) := by
  obtain ⟨whole,tail,rfl,short,buffered⟩ := id held
  rw [sha256_update]
  split
  next none =>
    subst none
    rwa [slice_zero,List.append_nil]
  next =>
    simp only [buffered.buflen_toNat]
    split
    next empty =>
      have := List.length_eq_zero_iff.mp empty
      subst this
      rw [List.append_nil]
      exact updateBlocks_absorbs buffered clear
    next used =>
      have topped :=
        @Buffered.more _ _ _ _ buffered data (min (64 - tail.length) len) (by omega)
        (by unfold ClearOf at clear ⊢; omega)
      have length : (tail ++ slice m data (min (64 - tail.length) len)).length = tail.length + min
          (64 - tail.length) len := by
        rw [List.length_append,slice_length]
      split
      next partly =>
        have all : min (64 - tail.length) len = len := by omega
        rw [all] at topped length ⊢
        exact ⟨whole,_,List.append_assoc _ _ _,by omega,topped⟩
      next filled =>
        obtain ⟨n,rest,fill,rfl⟩ : ∃ n rest, min (64 - tail.length) len = n ∧ len = n + rest :=
          ⟨_,len - min (64 - tail.length) len,rfl,by omega⟩
        rw [fill] at topped length filled ⊢
        have flushed := topped.flush (by omega)
        have unread (k : Nat) (inside : k < rest) :
            str (sha256 (bufferMore m ctx tail.length data n) ctx (ctx+40) 1) (ctx+104) (0 : BitVec 64) (data+n+k) =
              m (data+n+k) := by
          unfold ClearOf at clear
          rw [str_outside _ (by omega),sha256_outside _ _ (by omega),bufferMore_outside (by omega) (by omega)]
        have remaining := @updateBlocks_absorbs _ _ _ (data+n) rest flushed (by unfold ClearOf at clear ⊢; omega)
        rw [slice_congr unread,List.append_assoc,List.append_assoc,← slice_add] at remaining
        rw [Nat.add_sub_cancel_left]
        rwa [List.append_assoc]

/-! ### The digest -/

theorem slice_zeros (a n : Nat) : slice (fun _ => 0) a n = List.replicate n 0 := by simp [slice]

theorem slice_rev64 (m : Mem) (a : Nat) (v : BitVec 64) : slice (str m a (rev64 v)) a 8 = be64 v := by
  apply List.ext_getElem (by simp [be64])
  intro i inside _
  have small : i < 8 := by simpa using inside
  have stored : str m a (rev64 v) (a+i) = octet v (7 - i) := by
    rw [str,blit_inside (by omega) (by omega),Nat.add_sub_cancel_left,octet_rev64 _ small]
  simpa [slice,be64] using stored

/-- Four octets of a register that was byte-reversed before it was stored. -/
theorem slice_rev32 {m : Mem} {a : Nat} {x : Word} (stored : ldr 32 m a = rev32 x) : slice m a 4 = be32 x := by
  have octets (k : Nat) (inside : k < 4) : m (a+k) = octet x (3-k) := by
    rw [← octet_ldr (w := 32) m a (by omega) (by omega),stored,octet_rev32 _ inside]
  rw [slice_succ,slice_succ,slice_succ,slice_succ,slice_zero,Nat.add_assoc,Nat.add_assoc]
  exact congrArg₂ _ (octets 0 (by decide)) (congrArg₂ _ (octets 1 (by decide)) (congrArg₂ _ (octets 2 (by decide))
    (congrArg₂ _ (octets 3 (by decide)) rfl)))

theorem slice_rev {m : Mem} {a : Nat} {q : Quad} (stored : ldq m a = q.rev) :
    slice m a 16 = be32 q.x0 ++ be32 q.x1 ++ be32 q.x2 ++ be32 q.x3 := by
  rw [show 16 = 4 + 4 + 4 + 4 from rfl,slice_add,slice_add,slice_add,slice_rev32 (congrArg Quad.x0 stored),
    slice_rev32 (congrArg Quad.x1 stored),slice_rev32 (congrArg Quad.x2 stored),slice_rev32 (congrArg Quad.x3 stored)]

theorem slice_hash (m : Mem) (a : Nat) (s : State) :
    slice (stq (stq m a s.abcd.rev) (a+16) s.efgh.rev) a 32 = s.octets := by
  have low : ldq (stq (stq m a s.abcd.rev) (a+16) s.efgh.rev) a = s.abcd.rev := by
    rw [← ldq_stq m a s.abcd.rev]
    exact ldq_congr fun k inside => by rw [stq_outside _ (by omega),ldq_stq]
  rw [show 32 = 16 + 16 from rfl,slice_add,slice_rev low,slice_rev (ldq_stq _ _ _),State.octets]
  simp only [State.abcd,State.efgh,List.append_assoc]

theorem padLength_outside {buflen i : Nat} (fits : buflen ≤ 56) (out : i < ctx + 40 + buflen ∨ ctx + 104 ≤ i) :
    padLength m ctx buflen i = m i := by
  rw [padLength,str_outside _ (by omega),blit_outside (by omega)]

theorem padLength_block {buflen : Nat} (fits : buflen ≤ 56) {front : List UInt8}
    (held : slice m (ctx+40) buflen = front) :
    slice (padLength m ctx buflen) (ctx+40) 64 = front ++ List.replicate (56-buflen) 0 ++ be64 (ldr 64 m (ctx+32)) := by
  have bits : ldr 64 (blit m (ctx+40+buflen) (fun _ => 0) (56-buflen)) (ctx+32) = ldr 64 m (ctx+32) :=
    ldr_congr 8 rfl (by decide) fun k inside => blit_outside (by omega)
  have zeros : slice (padLength m ctx buflen) (ctx+40) 56 = slice (blit m (ctx+40+buflen) (fun _ => 0) (56-buflen))
    (ctx+40) 56 :=
    slice_congr fun i inside => str_outside _ (by omega)
  have length : slice (padLength m ctx buflen) (ctx+40+56) 8 = be64 (ldr 64 m (ctx+32)) := by
    rw [padLength,bits]
    exact slice_rev64 _ (ctx+96) _
  obtain ⟨rest,split⟩ := Nat.exists_eq_add_of_le fits
  calc slice (padLength m ctx buflen) (ctx+40) (56+8)
      = slice (blit m (ctx+40+buflen) (fun _ => 0) (56-buflen)) (ctx+40) 56 ++ be64 (ldr 64 m (ctx+32)) := by
        rw [slice_add,length,zeros]
    _ = front ++ List.replicate (56-buflen) 0 ++ be64 (ldr 64 m (ctx+32)) := by
        rw [split,slice_add,slice_blit_before (by omega),Nat.add_sub_cancel_left,slice_blit_same,slice_zeros,held]

/-- The padding behind a message that ends so far into a block. -/
theorem padding_eq {n t : Nat} (position : n % 64 = t) :
    padding n = if t < 56 then [0x80] ++ List.replicate (55-t) 0 ++ be64 (BitVec.ofNat 64 (8*n))
      else [0x80] ++ List.replicate (63-t) 0 ++ List.replicate 56 0 ++ be64 (BitVec.ofNat 64 (8*n)) := by
  split
  next early =>
    rw [padding,position,show (119 - t) % 64 = 55 - t by omega]
    rfl
  next late =>
    rw [padding,position,show (119 - t) % 64 = 63 - t + 56 by omega,List.replicate_add]
    simp

theorem digest_one {block : List UInt8} (blocks : whole.length % 64 = 0) (full : block.length = 64)
    (padded : tail ++ padding (whole ++ tail).length = block) :
    digest (whole ++ tail) = (chain (chain initial (whole.length / 64) whole) 1 block).octets := by
  simp only [digest]
  rw [List.append_assoc,padded,chain_block _ blocks full]

theorem digest_two {first second : List UInt8} (blocks : whole.length % 64 = 0) (fullFirst : first.length = 64)
    (fullSecond : second.length = 64) (padded : tail ++ padding (whole ++ tail).length = first ++ second) :
    digest (whole ++ tail) =
      (chain (chain (chain initial (whole.length / 64) whole) 1 first) 1 second).octets := by
  simp only [digest]
  rw [List.append_assoc,padded,← List.append_assoc,
    chain_block _
      (by rw [List.length_append,fullFirst,Nat.add_mod_right,blocks]) fullSecond,chain_block _ blocks fullFirst]

/-- Finishing a context writes the digest of what it absorbed. -/
theorem final_digest {l : List UInt8} (held : Absorbed m ctx l) (out : Nat) :
    slice (sha256_final m ctx out) out 32 = digest l := by
  obtain ⟨whole,tail,rfl,short,buffered⟩ := held
  have position : (whole ++ tail).length % 64 = tail.length := by
    have blocks := buffered.blocks
    rw [List.length_append]
    omega
  have written (m : Mem) (s : State) (hash : HashAt m ctx s) :
      slice (stq (stq m out (ldq m ctx).rev) (out+16) (ldq m (ctx+16)).rev) out 32 = s.octets := by
    rw [show ldq m ctx = s.abcd from congrArg Prod.fst hash,show ldq m (ctx+16) = s.efgh from congrArg Prod.snd hash]
    exact slice_hash m out s
  -- The buffer with the bit one behind it.
  have marked : slice (store m (ctx+40+tail.length) 0x80) (ctx+40) (tail.length+1) = tail ++ [0x80] := by
    have before : slice (store m (ctx+40+tail.length) 0x80) (ctx+40) tail.length = slice m (ctx+40) tail.length :=
      slice_congr fun i inside => store_other _ _ (by omega)
    rw [slice_add,before,buffered.buffer,slice_succ,slice_zero,store_same]
  have hash : HashAt (store m (ctx+40+tail.length) 0x80) ctx (chain initial (whole.length / 64) whole) :=
    buffered.hash.congr fun k inside => store_other _ _ (by omega)
  have bits : ldr 64 (store m (ctx+40+tail.length) 0x80) (ctx+32) = BitVec.ofNat 64 (8 * (whole ++ tail).length) := by
    rw [List.length_append,← buffered.bitlen]
    exact ldr_congr 8 rfl (by decide) fun k inside => store_other _ _ (by omega)
  simp only [sha256_final,buffered.buflen_toNat]
  generalize store m (ctx+40+tail.length) 0x80 = m at marked hash bits ⊢
  split
  next early =>
    have block := padLength_block early marked
    have kept : HashAt (padLength m ctx (tail.length+1)) ctx (chain initial (whole.length / 64) whole) :=
      hash.congr fun k inside => padLength_outside early (by omega)
    have hashed := sha256_hash kept (ctx+40) 1
    rw [written _ _ hashed,Nat.mul_one]
    refine (digest_one buffered.blocks (slice_length _ _ _) ?_).symm
    rw [block,bits,padding_eq position,if_pos (by omega),show 55 - tail.length = 56 - (tail.length + 1) by omega]
    simp only [List.append_assoc]
  next late =>
    have zeroed : slice (blit m (ctx+40+(tail.length+1)) (fun _ => 0) (64-(tail.length+1))) (ctx+40) 64 =
        tail ++ [0x80] ++ List.replicate (63-tail.length) 0 := by
      obtain ⟨rest,split⟩ := Nat.exists_eq_add_of_le (show tail.length+1 ≤ 64 by omega)
      rw [split,slice_add,slice_blit_before (by omega),marked,Nat.add_sub_cancel_left,slice_blit_same,slice_zeros]
      congr 2
      omega
    have kept : HashAt (blit m (ctx+40+(tail.length+1)) (fun _ => 0) (64-(tail.length+1))) ctx
        (chain initial (whole.length / 64) whole) := hash.congr fun k inside => blit_outside (by omega)
    have first := sha256_hash kept (ctx+40) 1
    rw [Nat.mul_one,zeroed] at first
    have unread : ldr 64 (sha256 (blit m (ctx+40+(tail.length+1)) (fun _ => 0) (64-(tail.length+1))) ctx (ctx+40) 1)
      (ctx+32) =
        ldr 64 m (ctx+32) :=
      ldr_congr 8 rfl (by decide) fun k inside => by rw [sha256_outside _ _ (by omega),blit_outside (by omega)]
    generalize sha256 (blit m (ctx+40+(tail.length+1)) (fun _ => 0) (64-(tail.length+1))) ctx (ctx+40) 1 =
      m1 at first unread ⊢
    have block := padLength_block (Nat.zero_le 56) (slice_zero m1 (ctx+40))
    have again : HashAt (padLength m1 ctx 0) ctx _ :=
      first.congr fun k inside => padLength_outside (Nat.zero_le 56) (by omega)
    have hashed := sha256_hash again (ctx+40) 1
    rw [written _ _ hashed,Nat.mul_one]
    refine (digest_two buffered.blocks ?_ (slice_length _ _ _) ?_).symm
    · simp only [List.length_append,List.length_replicate,List.length_cons,List.length_nil]
      omega
    · rw [block,unread,bits,padding_eq position,if_neg (by omega)]
      simp only [List.append_assoc,List.nil_append,Nat.sub_zero]

theorem final_outside {l : List UInt8} (held : Absorbed m ctx l) {out i : Nat} (away : i < ctx ∨ ctx + 112 ≤ i)
    (unwritten : i < out ∨ out + 32 ≤ i) : sha256_final m ctx out i = m i := by
  obtain ⟨whole,tail,rfl,short,buffered⟩ := held
  simp only [sha256_final,buffered.buflen_toNat]
  rw [stq_outside _ (by omega),stq_outside _ (by omega),sha256_outside _ _ (by omega)]
  split
  · rw [padLength_outside (by omega) (by omega),store_other _ _ (by omega)]
  · rw [padLength_outside (by omega) (by omega),sha256_outside _ _ (by omega),blit_outside (by omega),
      store_other _ _ (by omega)]

end

end Sarm.Sha256
