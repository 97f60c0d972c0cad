import Sarm.X25519Octets

/-!
The Montgomery ladder of X25519 against the function of RFC 7748: the ladder starts after the swap for the
highest bit, which is set, and ends with doublings alone, since the lowest three bits are clear.
-/
namespace Sarm.X25519
open Sarm.Memory Sarm.Limbs

/-! ### The code -/

def x25519_fe_recip (z : Fe) : Fe :=
  let a := x25519_fe_sqr z
  let t0 := x25519_fe_sqr_times a 2
  let b := x25519_fe_mul t0 z
  let a := x25519_fe_mul b a
  let t0 := x25519_fe_sqr a
  let b := x25519_fe_mul t0 b
  let t0 := x25519_fe_sqr_times b 5
  let b := x25519_fe_mul t0 b
  let t0 := x25519_fe_sqr_times b 10
  let c := x25519_fe_mul t0 b
  let t0 := x25519_fe_sqr_times c 20
  let t0 := x25519_fe_mul t0 c
  let t0 := x25519_fe_sqr_times t0 10
  let b := x25519_fe_mul t0 b
  let t0 := x25519_fe_sqr_times b 50
  let c := x25519_fe_mul t0 b
  let t0 := x25519_fe_sqr_times c 100
  let t0 := x25519_fe_mul t0 c
  let t0 := x25519_fe_sqr_times t0 50
  let b := x25519_fe_mul t0 b
  let b := x25519_fe_sqr_times b 5
  x25519_fe_mul b a

/-- `csetm`, and a swap through the difference. -/
def swapLimbs (iswap : Nat) (x qpx : Limb) : Limb × Limb :=
  let x9 : Limb := if iswap = 0 then 0 else -1
  let x15 := (x ^^^ qpx) &&& x9
  (x ^^^ x15,qpx ^^^ x15)

def x25519_swap_conditional (x qpx : Fe) (iswap : Nat) : Fe × Fe :=
  let (x3,x10) := swapLimbs iswap x.l0 qpx.l0
  let (x4,x11) := swapLimbs iswap x.l1 qpx.l1
  let (x5,x12) := swapLimbs iswap x.l2 qpx.l2
  let (x6,x13) := swapLimbs iswap x.l3 qpx.l3
  let (x7,x14) := swapLimbs iswap x.l4 qpx.l4
  (⟨x3,x4,x5,x6,x7⟩,⟨x10,x11,x12,x13,x14⟩)

structure Ladder where
  nqx : Fe
  nqz : Fe
  nqpqx : Fe
  nqpqz : Fe
  lastbit : Nat

/-- The scalar as it is clamped on the stack. -/
def clamped (m : Mem) (x1 : Nat) (i : Nat) : UInt8 :=
  if i = 0 then m x1 &&& 0xf8
  else if i = 31 then m (x1 + 31) &&& 0x7f ||| 0x40
  else m (x1 + i)

def bitOf (e : Nat → UInt8) (i : Nat) : Nat := ((e (i / 8)).toNat >>> (i % 8)) &&& 1

/-- What both loops do to the first point. -/
def doubleStep (nqx nqz : Fe) : Fe × Fe :=
  let qx := x25519_fe_add nqx nqz
  let nqz := x25519_fe_sub nqx nqz
  let qx := x25519_fe_sqr qx
  let nqz := x25519_fe_sqr nqz
  let nqx := x25519_fe_mul qx nqz
  let nqz := x25519_fe_sub qx nqz
  let zzz := x25519_fe_scalar_product nqz 121665
  let zzz := x25519_fe_add zzz qx
  (nqx,x25519_fe_mul nqz zzz)

/-- What the main loop does to the second one. -/
def addStep (q nqx nqz nqpqx nqpqz : Fe) : Fe × Fe :=
  let qx := x25519_fe_add nqx nqz
  let nqz := x25519_fe_sub nqx nqz
  let qpqx := x25519_fe_add nqpqx nqpqz
  let nqpqz := x25519_fe_sub nqpqx nqpqz
  let nqpqx := x25519_fe_mul qpqx nqz
  let nqpqz := x25519_fe_mul qx nqpqz
  let qqx := x25519_fe_add nqpqx nqpqz
  let nqpqz := x25519_fe_sub nqpqx nqpqz
  let nqpqz := x25519_fe_sqr nqpqz
  let nqpqx := x25519_fe_sqr qqx
  (nqpqx,x25519_fe_mul nqpqz q)

/-- A pass of `.Lx25519_main`. -/
def mainStep (q : Fe) (e : Nat → UInt8) (l : Ladder) (i : Nat) : Ladder :=
  let (nqpqx,nqpqz) := addStep q l.nqx l.nqz l.nqpqx l.nqpqz
  let (nqx,nqz) := doubleStep l.nqx l.nqz
  let bit := bitOf e i
  let (nqx,nqpqx) := x25519_swap_conditional nqx nqpqx (bit ^^^ l.lastbit)
  let (nqz,nqpqz) := x25519_swap_conditional nqz nqpqz (bit ^^^ l.lastbit)
  ⟨nqx,nqz,nqpqx,nqpqz,bit⟩

/-- As many passes, the last one for bit 2. -/
def mainLoop (q : Fe) (e : Nat → UInt8) (n : Nat) (l : Ladder) : Ladder :=
  (List.range n).reverse.foldl (fun l i => mainStep q e l (i + 2)) l

/-- `.Lx25519_dbl`. -/
def doubleLoop (n : Nat) (nqx nqz : Fe) : Fe × Fe := (fun p => doubleStep p.1 p.2)^[n] (nqx,nqz)

def feOne : Fe := ⟨1,0,0,0,0⟩

def feZero : Fe := ⟨0,0,0,0,0⟩

def x25519 (m : Mem) (x0 x1 x2 : Nat) : Mem :=
  let q := x25519_fe_frombytes m x2
  let l := mainLoop q (clamped m x1) 252 ⟨q,feOne,feOne,feZero,1⟩
  let (nqx,nqz) := doubleLoop 3 l.nqx l.nqz
  x25519_fe_tobytes m x0 (x25519_fe_mul nqx (x25519_fe_recip nqz))

/-! ### RFC 7748 -/

def decodeUCoordinate (u : List UInt8) : Nat := leValue (u.set 31 (u.getD 31 0 &&& 127))

def decodeScalar25519 (k : List UInt8) : Nat :=
  let k := k.set 0 (k.getD 0 0 &&& 248)
  let k := k.set 31 (k.getD 31 0 &&& 127)
  leValue (k.set 31 (k.getD 31 0 ||| 64))

def encodeUCoordinate (u : Nat) : List UInt8 := (List.range 32).map fun i => UInt8.ofNat (u / 256^i % 256)

structure Points where
  x_2 : ZMod prime
  z_2 : ZMod prime
  x_3 : ZMod prime
  z_3 : ZMod prime

def cswap (swap : Bool) (p : Points) : Points := if swap then ⟨p.x_3,p.z_3,p.x_2,p.z_2⟩ else p

def a24 : ZMod prime := 121665

/-- The body of the loop after the swap. -/
def formulas (x_1 : ZMod prime) (p : Points) : Points :=
  let A := p.x_2 + p.z_2
  let AA := A^2
  let B := p.x_2 - p.z_2
  let BB := B^2
  let E := AA - BB
  let C := p.x_3 + p.z_3
  let D := p.x_3 - p.z_3
  let DA := D * A
  let CB := C * B
  ⟨AA * BB,E * (AA + a24 * E),(DA + CB)^2,x_1 * (DA - CB)^2⟩

def ladderStep (x_1 : ZMod prime) (k : Nat) (s : Points × Bool) (t : Nat) : Points × Bool :=
  let k_t := k.testBit t
  (formulas x_1 (cswap (s.2 ^^ k_t) s.1),k_t)

/-- The function of section 5. -/
def rfcX25519 (k u : List UInt8) : List UInt8 :=
  let x_1 : ZMod prime := decodeUCoordinate u
  let (p,swap) := (List.range 255).reverse.foldl (ladderStep x_1 (decodeScalar25519 k)) (⟨1,0,x_1,1⟩,false)
  let p := cswap swap p
  encodeUCoordinate (p.x_2 * p.z_2^(prime - 2)).val

/-! ### Inversion -/

theorem Holds.powers_mul {a b : Fe} {x : ZMod prime} {i j : Nat} (first : Holds tight a (x^i))
    (second : Holds tight b (x^j)) :
    Holds tight (x25519_fe_mul a b) (x^(i + j)) := (first.loosen.mul second.loosen).of_eq (pow_add x i j).symm

theorem Holds.pow_sqr_times {a : Fe} {x : ZMod prime} {i : Nat} (holds : Holds tight a (x^i)) (count : Nat) :
    Holds tight (x25519_fe_sqr_times a (count + 1)) (x^(i * 2^(count + 1))) :=
  (holds.loosen.sqr_times count).of_eq (pow_mul x i _).symm

theorem recip_holds {z : Fe} {x : ZMod prime} (holds : Holds tight z x) :
    Holds tight (x25519_fe_recip z) (x^(prime - 2)) := by
  have z1 := holds.of_eq (pow_one x).symm
  have a2 := z1.pow_sqr_times 0
  have b9 := (a2.pow_sqr_times 1).powers_mul z1
  have a11 := b9.powers_mul a2
  have b5 := (a11.pow_sqr_times 0).powers_mul b9
  have b10 := (b5.pow_sqr_times 4).powers_mul b5
  have c20 := (b10.pow_sqr_times 9).powers_mul b10
  have t40 := (c20.pow_sqr_times 19).powers_mul c20
  have b50 := (t40.pow_sqr_times 9).powers_mul b10
  have c100 := (b50.pow_sqr_times 49).powers_mul b50
  have t200 := (c100.pow_sqr_times 99).powers_mul c100
  have b250 := (t200.pow_sqr_times 49).powers_mul b50
  have out := (b250.pow_sqr_times 4).powers_mul a11
  exact out.of_eq (congrArg (x^·) (by decide))

/-! ### Swaps -/

theorem swapLimbs_eq (iswap : Nat) (x qpx : Limb) :
    swapLimbs iswap x qpx = if iswap = 0 then (x,qpx) else (qpx,x) := by
  rw [swapLimbs]
  split
  · next none =>
    simp
  · next swapped =>
    have mask (u : Limb) : u &&& -1 = u := BitVec.and_allOnes
    rw [mask,← BitVec.xor_assoc,BitVec.xor_self,BitVec.zero_xor,BitVec.xor_comm x qpx,← BitVec.xor_assoc,
      BitVec.xor_self,BitVec.zero_xor]

theorem swap_conditional_eq (x qpx : Fe) (iswap : Nat) :
    x25519_swap_conditional x qpx iswap = if iswap = 0 then (x,qpx) else (qpx,x) := by
  simp only [x25519_swap_conditional,swapLimbs_eq]
  split <;> rfl

/-! ### Steps -/

/-- What the registers of the ladder hold. -/
structure Stands (l : Ladder) (p : Points) (bit : Bool) : Prop where
  nqx : Holds tight l.nqx p.x_2
  nqz : Holds tight l.nqz p.z_2
  nqpqx : Holds tight l.nqpqx p.x_3
  nqpqz : Holds tight l.nqpqz p.z_3
  lastbit : l.lastbit = bit.toNat

theorem doubleStep_holds {nqx nqz : Fe} (x_1 : ZMod prime) (p : Points) (first : Holds tight nqx p.x_2)
    (second : Holds tight nqz p.z_2) :
    Holds tight (doubleStep nqx nqz).1 (formulas x_1 p).x_2 ∧
    Holds tight (doubleStep nqx nqz).2 (formulas x_1 p).z_2 := by
  have AA := (first.add second).sqr
  have BB := (first.sub second).sqr
  have x_2 := AA.loosen.mul BB.loosen
  have E := AA.sub BB
  have scaled := E.scalar_product 121665 (by decide)
  have sum := scaled.add AA
  have z_2 := E.mul sum
  refine ⟨x_2.of_eq ?_,z_2.of_eq ?_⟩
  · simp only [formulas]
    ring
  · have same : ((121665 : Limb).toNat : ZMod prime) = a24 := rfl
    rw [same]
    simp only [formulas]
    ring

theorem addStep_holds {q : Fe} {l : Ladder} {x_1 : ZMod prime} {p : Points} {bit : Bool} (point : Holds tight q x_1)
    (stands : Stands l p bit) :
    Holds tight (addStep q l.nqx l.nqz l.nqpqx l.nqpqz).1 (formulas x_1 p).x_3 ∧
      Holds tight (addStep q l.nqx l.nqz l.nqpqx l.nqpqz).2 (formulas x_1 p).z_3 := by
  have A := stands.nqx.add stands.nqz
  have B := stands.nqx.sub stands.nqz
  have C := stands.nqpqx.add stands.nqpqz
  have D := stands.nqpqx.sub stands.nqpqz
  have CB := C.mul B
  have DA := A.mul D
  have x_3 := (CB.add DA).sqr
  have z_3 := (CB.sub DA).sqr.loosen.mul point.loosen
  refine ⟨x_3.of_eq ?_,z_3.of_eq ?_⟩
  · simp only [formulas]
    ring
  · simp only [formulas]
    ring

theorem bitOf_eq (e : Nat → UInt8) (i : Nat) : bitOf e i = ((e (i / 8)).toNat.testBit (i % 8)).toNat := by
  rw [bitOf,Nat.testBit,Nat.and_comm]
  rcases Nat.mod_two_eq_zero_or_one ((e (i / 8)).toNat >>> (i % 8)) with even | odd
  · simp [Nat.one_and_eq_mod_two,even]
  · simp [Nat.one_and_eq_mod_two,odd]

theorem swap_toNat (b c : Bool) : b.toNat ^^^ c.toNat = (b ^^ c).toNat := by
  cases b <;> cases c <;> rfl

/-- A pass ends with the swap that the standard starts the next one with. -/
theorem mainStep_stands {q : Fe} {e : Nat → UInt8} {l : Ladder} {x_1 : ZMod prime} {p : Points} {bit next : Bool}
    {i : Nat}
    (point : Holds tight q x_1) (stands : Stands l p bit) (read : bitOf e i = next.toNat) :
    Stands (mainStep q e l i) (cswap (bit ^^ next) (formulas x_1 p)) next := by
  obtain ⟨x_2,z_2⟩ := doubleStep_holds x_1 p stands.nqx stands.nqz
  obtain ⟨x_3,z_3⟩ := addStep_holds point stands
  simp only [mainStep,read,stands.lastbit,swap_conditional_eq,swap_toNat,Bool.xor_comm next]
  cases bit ^^ next with
  | false => exact ⟨x_2,z_2,x_3,z_3,rfl⟩
  | true => exact ⟨x_3,z_3,x_2,z_2,rfl⟩

section
variable {q : Fe} {e : Nat → UInt8} {x_1 : ZMod prime} {k : Nat}

theorem foldl_descending {α : Type} (f : α → Nat → α) (a : α) (n : Nat) :
    (List.range (n + 1)).reverse.foldl f a = (List.range n).reverse.foldl f (f a n) := by
  rw [List.range_succ,List.reverse_append]
  rfl

/-- The loops stay in step until bit 2. -/
theorem mainLoop_stands (point : Holds tight q x_1) (read : ∀ i, 2 ≤ i → i < 254 → bitOf e i = (k.testBit i).toNat) :
    ∀ (n : Nat) (l : Ladder) (s : Points × Bool), n ≤ 252 →
      Stands l (cswap (s.2 ^^ k.testBit (n + 2)) s.1) (k.testBit (n + 2)) →
      ∃ s' : Points × Bool, (List.range (n + 3)).reverse.foldl (ladderStep x_1 k) s =
          (List.range 3).reverse.foldl (ladderStep x_1 k) s' ∧
        Stands (mainLoop q e n l) (cswap (s'.2 ^^ k.testBit 2) s'.1) (k.testBit 2) := by
  intro n
  induction n with
  | zero =>
    intro l s _ stands
    rw [Nat.zero_add] at stands
    exact ⟨s,rfl,stands⟩
  | succ n ih =>
    intro l s inside stands
    have next := mainStep_stands point stands (read (n + 2) (by omega) (by omega))
    have stepped : ladderStep x_1 k s (n + 3) =
        (formulas x_1 (cswap (s.2 ^^ k.testBit (n + 1 + 2)) s.1),k.testBit (n + 1 + 2)) := rfl
    obtain ⟨s',same,last⟩ :=
      ih (mainStep q e l (n + 2)) (ladderStep x_1 k s (n + 3)) (by omega) (by rw [stepped]; exact next)
    have passed : mainLoop q e (n + 1) l = mainLoop q e n (mainStep q e l (n + 2)) := foldl_descending _ _ _
    rw [passed]
    exact ⟨s',(foldl_descending _ _ (n + 3)).trans same,last⟩

theorem doubleLoop_holds (n : Nat) {nqx nqz : Fe} (p : Points) (first : Holds tight nqx p.x_2)
    (second : Holds tight nqz p.z_2) :
    Holds tight (doubleLoop n nqx nqz).1 ((formulas x_1)^[n] p).x_2 ∧
      Holds tight (doubleLoop n nqx nqz).2 ((formulas x_1)^[n] p).z_2 := by
  induction n generalizing nqx nqz p with
  | zero => exact ⟨first,second⟩
  | succ n ih =>
    obtain ⟨x,z⟩ := doubleStep_holds x_1 p first second
    rw [doubleLoop,Function.iterate_succ_apply,Function.iterate_succ_apply]
    exact ih _ x z

/-- The last three steps swap nothing. -/
theorem foldl_clear {s : Points × Bool} (clear : (k.testBit 0 = false ∧ k.testBit 1 = false) ∧ k.testBit 2 = false) :
    (List.range 3).reverse.foldl (ladderStep x_1 k) s =
      ((formulas x_1)^[3] (cswap (s.2 ^^ k.testBit 2) s.1),false) := by
  obtain ⟨⟨c0,c1⟩,c2⟩ := clear
  have three : (List.range 3).reverse = [2,1,0] := rfl
  have still (p : Points) : cswap false p = p := rfl
  rw [three,List.foldl_cons,List.foldl_cons,List.foldl_cons,List.foldl_nil,ladderStep,ladderStep,ladderStep]
  simp only [c0,c1,c2,Bool.xor_false,still]
  rfl

end

/-! ### The octets -/

theorem leValue_testBit (xs : List UInt8) (i : Nat) :
    (leValue xs).testBit i = (xs.getD (i / 8) 0).toNat.testBit (i % 8) := by
  induction xs generalizing i with
  | nil => simp [leValue]
  | cons x xs ih =>
    rw [leValue,Nat.add_comm,show 256 = 2^8 from rfl,Nat.testBit_two_pow_mul_add _ x.toNat_lt]
    split
    · next low =>
      rw [Nat.div_eq_of_lt low,Nat.mod_eq_of_lt low,List.getD_cons_zero]
    · next high =>
      have next : i / 8 = (i - 8) / 8 + 1 := by omega
      have same : (i - 8) % 8 = i % 8 := by omega
      rw [ih,next,same,List.getD_cons_succ]

theorem getD_set {xs : List UInt8} {i k : Nat} (octet : UInt8) (inside : i < xs.length) :
    (xs.set k octet).getD i 0 = if k = i then octet else xs.getD i 0 := by
  rw [List.getD_eq_getElem?_getD,List.getD_eq_getElem?_getD,List.getElem?_set]
  split
  · next here =>
    rw [if_pos (here ▸ inside),Option.getD_some]
  · rfl

/-- The octets of the clamped scalar are those that the standard decodes. -/
theorem decodeScalar25519_testBit (m : Mem) (x1 : Nat) {i : Nat} (inside : i < 256) :
    (decodeScalar25519 (slice m x1 32)).testBit i = (clamped m x1 (i / 8)).toNat.testBit (i % 8) := by
  have octet (k : Nat) (low : k < 32) : (slice m x1 32).getD k 0 = m (x1 + k) := slice_getD m x1 low
  have length : (slice m x1 32).length = 32 := slice_length ..
  have low : i / 8 < 32 := by omega
  rw [decodeScalar25519,leValue_testBit,clamped]
  simp (disch := simp only [List.length_set,length]; omega) only [getD_set]
  by_cases first : i / 8 = 0
  · rw [first]
    rfl
  by_cases last : i / 8 = 31
  · rw [last]
    rfl
  rw [if_neg (Ne.symm last),if_neg (Ne.symm last),if_neg (Ne.symm first),if_neg first,if_neg last,octet _ low]

/-- The highest bit of a scalar is set, and the lowest three are not. -/
theorem clamped_bits (m : Mem) (x1 : Nat) : (decodeScalar25519 (slice m x1 32)).testBit 254 = true ∧
    ((decodeScalar25519 (slice m x1 32)).testBit 0 = false ∧ (decodeScalar25519 (slice m x1 32)).testBit 1 = false) ∧
    (decodeScalar25519 (slice m x1 32)).testBit 2 = false := by
  have lowest : ∀ octet : UInt8, ∀ i < 3, (octet &&& 0xf8).toNat.testBit i = false := by
    intro octet i low
    rw [UInt8.toNat_and,Nat.testBit_and]
    have clear : ∀ i < 3, (248 : UInt8).toNat.testBit i = false := by decide
    rw [clear i low,Bool.and_false]
  have highest : ∀ octet : UInt8, (octet ||| 0x40).toNat.testBit 6 = true := by
    intro octet
    rw [UInt8.toNat_or,Nat.testBit_or]
    exact Bool.or_true _
  have bit (i : Nat) (low : i < 3) : (decodeScalar25519 (slice m x1 32)).testBit i = false := by
    rw [decodeScalar25519_testBit m x1 (by omega),Nat.div_eq_of_lt (by omega),Nat.mod_eq_of_lt (by omega)]
    exact lowest _ i low
  refine ⟨?_,⟨bit 0 (by decide),bit 1 (by decide)⟩,bit 2 (by decide)⟩
  rw [decodeScalar25519_testBit m x1 (by decide)]
  exact highest _

/-- The top bit of a coordinate is dropped. -/
theorem decodeUCoordinate_mod (m : Mem) (x2 : Nat) :
    decodeUCoordinate (slice m x2 32) = leValue (slice m x2 32) % 2^255 := by
  have length : (slice m x2 32).length = 32 := slice_length ..
  refine Nat.eq_of_testBit_eq fun i => ?_
  rw [decodeUCoordinate,Nat.testBit_mod_two_pow,leValue_testBit,leValue_testBit]
  by_cases inside : i < 256
  · rw [getD_set _ (by omega)]
    split
    · next last =>
      have seven : (127 : UInt8).toNat.testBit (i % 8) = decide (i < 255) := by
        rw [show (127 : UInt8).toNat = 2^7 - 1 from rfl,Nat.testBit_two_pow_sub_one]
        exact decide_eq_decide.mpr (by omega)
      rw [UInt8.toNat_and,Nat.testBit_and,seven,last,Bool.and_comm]
    · next other =>
      have low : i < 255 := by omega
      rw [decide_eq_true low,Bool.true_and]
  · have outside : (slice m x2 32).length ≤ i / 8 := by omega
    have high : ¬i < 255 := by omega
    rw [decide_eq_false high,Bool.false_and,List.getD_eq_getElem?_getD,
      List.getElem?_eq_none (by rwa [List.length_set])]
    exact Nat.zero_testBit _

theorem leValue_digits (n count : Nat) :
    leValue ((List.range count).map fun i => UInt8.ofNat (n / 256^i % 256)) = n % 256^count := by
  induction count with
  | zero => simp [leValue,Nat.mod_one]
  | succ count ih =>
    rw [List.range_succ,List.map_append,leValue_append,ih,Nat.mod_pow_succ]
    simp [leValue]

instance : NeZero prime := ⟨by decide⟩

theorem encoded {m : Mem} {x0 : Nat} {x : ZMod prime} (value : leValue (slice m x0 32) = x.val) :
    slice m x0 32 = encodeUCoordinate x.val := by
  refine leValue_inj (by simp [encodeUCoordinate]) ?_
  have small : x.val < 256^32 := (ZMod.val_lt x).trans (by decide)
  rw [value,encodeUCoordinate,leValue_digits,Nat.mod_eq_of_lt small]

/-- The initial points after the swap for the highest bit. -/
theorem initial_stands {q : Fe} {x_1 : ZMod prime} (point : Holds tight q x_1) :
    Stands ⟨q,feOne,feOne,feZero,1⟩ (cswap true ⟨1,0,x_1,1⟩) true := by
  have one : Holds tight feOne 1 := ⟨by constructor <;> decide,by simp [Fe.value,feOne]⟩
  have zero : Holds tight feZero 0 := ⟨by constructor <;> decide,by simp [Fe.value,feZero]⟩
  exact ⟨point,one,one,zero,rfl⟩

theorem tobytes_changes (m : Mem) (x0 : Nat) (a : Fe) : ChangesOnly [(x0,32)] m (x25519_fe_tobytes m x0 a) :=
  storeLimbs_changes (n := 4) rfl m x0

/-- For every scalar and every coordinate the result is that of the standard, and nothing else is
    written. -/
theorem x25519_rfc7748 (m : Mem) (x0 x1 x2 : Nat) :
    slice (x25519 m x0 x1 x2) x0 32 = rfcX25519 (slice m x1 32) (slice m x2 32) ∧
      ChangesOnly [(x0,32)] m (x25519 m x0 x1 x2) := by
  have point := frombytes_holds m x2
  rw [← decodeUCoordinate_mod] at point
  obtain ⟨top,clear⟩ := clamped_bits m x1
  have read : ∀ i, 2 ≤ i → i < 254 →
      bitOf (clamped m x1) i = ((decodeScalar25519 (slice m x1 32)).testBit i).toNat := by
    intro i _ inside
    rw [bitOf_eq,decodeScalar25519_testBit m x1 (by omega)]
  rw [x25519,rfcX25519]
  generalize decodeScalar25519 (slice m x1 32) = k at *
  generalize ((decodeUCoordinate (slice m x2 32) : Nat) : ZMod prime) = x_1 at *
  generalize x25519_fe_frombytes m x2 = q at *
  have start : Stands ⟨q,feOne,feOne,feZero,1⟩ (cswap (false ^^ k.testBit (252 + 2)) ⟨1,0,x_1,1⟩)
      (k.testBit (252 + 2)) := by
    rw [top]
    exact initial_stands point
  obtain ⟨s,same,stands⟩ := mainLoop_stands point read 252 _ (⟨1,0,x_1,1⟩,false) (Nat.le_refl _) start
  rw [same,foldl_clear clear]
  generalize mainLoop q (clamped m x1) 252 ⟨q,feOne,feOne,feZero,1⟩ = l at *
  obtain ⟨x,z⟩ := @doubleLoop_holds x_1 3 _ _ _ stands.nqx stands.nqz
  have quotient := x.loosen.mul (recip_holds z).loosen
  exact ⟨encoded (tobytes_value m x0 quotient),tobytes_changes m x0 _⟩

end Sarm.X25519
