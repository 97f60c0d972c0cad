import Sarm.Watch
import Sarm.X25519

/-!
The arithmetic of X25519 one operation at a time. Every operation that could run out of its
word is noted with its operands, and every routine with what it comes to: limbs stay so short
that nothing wraps, so that a routine does in registers what it is to do in the field.
-/
namespace Sarm.X25519
open Sarm.Memory Sarm.Watch
open Sarm.Limbs (Limb)

/-! ### Operations -/

/-- A routine and its operands. -/
inductive Routine where
  | add (a b : Fe)
  | sub (a b : Fe)
  | mul (a b : Fe)
  | sqr_times (a : Fe) (count : Nat)
  | scalar_product (a : Fe) (scalar : Limb)

/-- What a routine is to come to. -/
def Routine.field : Routine → ZMod prime
  | .add a b => a.value + b.value
  | .sub a b => a.value - b.value
  | .mul a b => a.value * b.value
  | .sqr_times a count => a.value^2^count
  | .scalar_product a scalar => a.value * scalar.toNat

inductive Op where
  | sum (a b : Limb)
  | difference (a b : Limb)
  /-- A constant is added to a difference, which may be negative. -/
  | raise (d k : Limb)
  | scale (a : Limb)
  | twice (a : Limb)
  /-- `adds` and `adcs`. -/
  | accumulate (t u : BitVec 128)
  /-- What is above the digit goes to one register. -/
  | carry (t : BitVec 128)
  | returns (routine : Routine) (out : Fe)

/-- Nothing is lost: what the operation comes to as one on numbers fits the word, and what
    a routine comes to is what it is to come to. -/
def Op.Exact : Op → Prop
  | .sum a b => a.toNat + b.toNat < 2^64
  | .difference a b => -2^63 ≤ (a.toNat : Int) - b.toNat ∧ (a.toNat : Int) - b.toNat < 2^63
  | .raise d k => 0 ≤ d.toInt + k.toNat ∧ d.toInt + k.toNat < 2^64
  | .scale a => 19 * a.toNat < 2^64
  | .twice a => 2 * a.toNat < 2^64
  | .accumulate t u => t.toNat + u.toNat < 2^128
  | .carry t => t.toNat / 2^51 < 2^64
  | .returns routine out => (out.value : ZMod prime) = routine.field

namespace Watched

abbrev ArithM := Noting Op Empty Unit

def sum (a b : Limb) : ArithM Limb := do
  note fun _ => .sum a b
  pure (a + b)

def difference (a b : Limb) : ArithM Limb := do
  note fun _ => .difference a b
  pure (a - b)

def raise (d k : Limb) : ArithM Limb := do
  note fun _ => .raise d k
  pure (d + k)

def scale (a : Limb) : ArithM Limb := do
  note fun _ => .scale a
  pure (a * 19)

def twice (a : Limb) : ArithM Limb := do
  note fun _ => .twice a
  pure (a <<< 1)

def accumulate (t u : BitVec 128) : ArithM (BitVec 128) := do
  note fun _ => .accumulate t u
  pure (t + u)

def carryOut (t : BitVec 128) : ArithM Limb := do
  note fun _ => .carry t
  pure (carry t)

/-- A routine is noted when it returns. -/
def called (routine : Routine) (body : ArithM Fe) : ArithM Fe := do
  let out ← body
  note fun _ => .returns routine out
  pure out

/-! ### Routines -/

def x25519_fe_add (a b : Fe) : ArithM Fe := called (.add a b) do
  let l0 ← sum a.l0 b.l0
  let l1 ← sum a.l1 b.l1
  let l2 ← sum a.l2 b.l2
  let l3 ← sum a.l3 b.l3
  let l4 ← sum a.l4 b.l4
  pure ⟨l0,l1,l2,l3,l4⟩

def x25519_fe_sub (a b : Fe) : ArithM Fe := called (.sub a b) do
  let x13 : Limb := 0x3FFFFFFFFFFF68
  let x14 : Limb := 0x3FFFFFFFFFFFF8
  let d ← difference a.l0 b.l0
  let l0 ← raise d x13
  let d ← difference a.l1 b.l1
  let l1 ← raise d x14
  let d ← difference a.l2 b.l2
  let l2 ← raise d x14
  let d ← difference a.l3 b.l3
  let l3 ← raise d x14
  let d ← difference a.l4 b.l4
  let l4 ← raise d x14
  pure ⟨l0,l1,l2,l3,l4⟩

def carryColumns (t0 t1 t2 t3 t4 : BitVec 128) : ArithM Fe := do
  let c ← carryOut t0
  let t1 ← accumulate t1 (c.setWidth 128)
  let c ← carryOut t1
  let t2 ← accumulate t2 (c.setWidth 128)
  let c ← carryOut t2
  let t3 ← accumulate t3 (c.setWidth 128)
  let c ← carryOut t3
  let t4 ← accumulate t4 (c.setWidth 128)
  let c ← carryOut t4
  let c ← scale c
  let r0 ← sum (digit t0) c
  let r1 ← sum (digit t1) (r0 >>> 51)
  pure ⟨r0 &&& m51,r1,digit t2,digit t3,digit t4⟩

def x25519_fe_mul (s r : Fe) : ArithM Fe := called (.mul s r) do
  let t1 ← accumulate (product r.l0 s.l1) (product r.l1 s.l0)
  let t2 ← accumulate (product r.l0 s.l2) (product r.l2 s.l0)
  let t2 ← accumulate t2 (product r.l1 s.l1)
  let t3 ← accumulate (product r.l0 s.l3) (product r.l3 s.l0)
  let t3 ← accumulate t3 (product r.l1 s.l2)
  let t3 ← accumulate t3 (product r.l2 s.l1)
  let t4 ← accumulate (product r.l0 s.l4) (product r.l4 s.l0)
  let t4 ← accumulate t4 (product r.l3 s.l1)
  let t4 ← accumulate t4 (product r.l1 s.l3)
  let t4 ← accumulate t4 (product r.l2 s.l2)
  let r1 ← scale r.l1
  let r2 ← scale r.l2
  let r3 ← scale r.l3
  let r4 ← scale r.l4
  let t0 ← accumulate (product r.l0 s.l0) (product r4 s.l1)
  let t0 ← accumulate t0 (product r1 s.l4)
  let t0 ← accumulate t0 (product r2 s.l3)
  let t0 ← accumulate t0 (product r3 s.l2)
  let t1 ← accumulate t1 (product r4 s.l2)
  let t1 ← accumulate t1 (product r2 s.l4)
  let t1 ← accumulate t1 (product r3 s.l3)
  let t2 ← accumulate t2 (product r4 s.l3)
  let t2 ← accumulate t2 (product r3 s.l4)
  let t3 ← accumulate t3 (product r4 s.l4)
  carryColumns t0 t1 t2 t3 t4

/-- Multiples of limbs are worked out again for every column that has them. -/
def sqrOnce (r : Fe) : ArithM Fe := do
  let d0 ← twice r.l0
  let d1 ← twice r.l1
  let n2 ← scale r.l2
  let d2 ← twice n2
  let n3 ← scale r.l3
  let n4 ← scale r.l4
  let d4 ← twice n4
  let t0 ← accumulate (product r.l0 r.l0) (product d4 r.l1)
  let t0 ← accumulate t0 (product d2 r.l3)
  let t1 ← accumulate (product d0 r.l1) (product d4 r.l2)
  let t1 ← accumulate t1 (product r.l3 n3)
  let t2 ← accumulate (product d0 r.l2) (product r.l1 r.l1)
  let t2 ← accumulate t2 (product d4 r.l3)
  let t3 ← accumulate (product d0 r.l3) (product d1 r.l2)
  let t3 ← accumulate t3 (product r.l4 n4)
  let t4 ← accumulate (product d0 r.l4) (product d1 r.l3)
  let t4 ← accumulate t4 (product r.l2 r.l2)
  carryColumns t0 t1 t2 t3 t4

def sqrLoop (r : Fe) : Nat → ArithM Fe
  | 0 => pure r
  | count+1 => do
    let r ← sqrOnce r
    sqrLoop r count

def x25519_fe_sqr_times (r : Fe) (count : Nat) : ArithM Fe := called (.sqr_times r count) (sqrLoop r count)

def x25519_fe_sqr (r : Fe) : ArithM Fe := x25519_fe_sqr_times r 1

def x25519_fe_scalar_product (a : Fe) (scalar : Limb) : ArithM Fe := called (.scalar_product a scalar) do
  let t0 := product a.l0 scalar
  let c ← carryOut t0
  let t1 ← accumulate (product a.l1 scalar) (c.setWidth 128)
  let c ← carryOut t1
  let t2 ← accumulate (product a.l2 scalar) (c.setWidth 128)
  let c ← carryOut t2
  let t3 ← accumulate (product a.l3 scalar) (c.setWidth 128)
  let c ← carryOut t3
  let t4 ← accumulate (product a.l4 scalar) (c.setWidth 128)
  let c ← carryOut t4
  let c ← scale c
  let l0 ← sum (digit t0) c
  pure ⟨l0,digit t1,digit t2,digit t3,digit t4⟩

/-! ### The ladder -/

def x25519_fe_recip (z : Fe) : ArithM Fe := do
  let a ← x25519_fe_sqr z
  let t0 ← x25519_fe_sqr_times a 2
  let b ← x25519_fe_mul t0 z
  let a ← x25519_fe_mul b a
  let t0 ← x25519_fe_sqr a
  let b ← x25519_fe_mul t0 b
  let t0 ← x25519_fe_sqr_times b 5
  let b ← x25519_fe_mul t0 b
  let t0 ← x25519_fe_sqr_times b 10
  let c ← x25519_fe_mul t0 b
  let t0 ← x25519_fe_sqr_times c 20
  let t0 ← x25519_fe_mul t0 c
  let t0 ← x25519_fe_sqr_times t0 10
  let b ← x25519_fe_mul t0 b
  let t0 ← x25519_fe_sqr_times b 50
  let c ← x25519_fe_mul t0 b
  let t0 ← x25519_fe_sqr_times c 100
  let t0 ← x25519_fe_mul t0 c
  let t0 ← x25519_fe_sqr_times t0 50
  let b ← x25519_fe_mul t0 b
  let b ← x25519_fe_sqr_times b 5
  x25519_fe_mul b a

def doubleStep (nqx nqz : Fe) : ArithM (Fe × Fe) := do
  let qx ← x25519_fe_add nqx nqz
  let nqz ← x25519_fe_sub nqx nqz
  let qx ← x25519_fe_sqr qx
  let nqz ← x25519_fe_sqr nqz
  let nqx ← x25519_fe_mul qx nqz
  let nqz ← x25519_fe_sub qx nqz
  let zzz ← x25519_fe_scalar_product nqz 121665
  let zzz ← x25519_fe_add zzz qx
  let nqz ← x25519_fe_mul nqz zzz
  pure (nqx,nqz)

def addStep (q nqx nqz nqpqx nqpqz : Fe) : ArithM (Fe × Fe) := do
  let qx ← x25519_fe_add nqx nqz
  let nqz ← x25519_fe_sub nqx nqz
  let qpqx ← x25519_fe_add nqpqx nqpqz
  let nqpqz ← x25519_fe_sub nqpqx nqpqz
  let nqpqx ← x25519_fe_mul qpqx nqz
  let nqpqz ← x25519_fe_mul qx nqpqz
  let qqx ← x25519_fe_add nqpqx nqpqz
  let nqpqz ← x25519_fe_sub nqpqx nqpqz
  let nqpqz ← x25519_fe_sqr nqpqz
  let nqpqx ← x25519_fe_sqr qqx
  let nqpqz ← x25519_fe_mul nqpqz q
  pure (nqpqx,nqpqz)

def mainStep (q : Fe) (e : Nat → UInt8) (l : Ladder) (i : Nat) : ArithM Ladder := do
  let added ← addStep q l.nqx l.nqz l.nqpqx l.nqpqz
  let doubled ← doubleStep l.nqx l.nqz
  let bit := bitOf e i
  let xs := x25519_swap_conditional doubled.1 added.1 (bit ^^^ l.lastbit)
  let zs := x25519_swap_conditional doubled.2 added.2 (bit ^^^ l.lastbit)
  pure ⟨xs.1,zs.1,xs.2,zs.2,bit⟩

def mainLoop (q : Fe) (e : Nat → UInt8) : Nat → Ladder → ArithM Ladder
  | 0, l => pure l
  | n+1, l => do
    let l ← mainStep q e l (n + 2)
    mainLoop q e n l

def doubleLoop : Nat → Fe × Fe → ArithM (Fe × Fe)
  | 0, p => pure p
  | n+1, p => do
    let p ← doubleStep p.1 p.2
    doubleLoop n p

def carry51 (t : Fe) : ArithM Fe := do
  let t1 ← sum t.l1 (t.l0 >>> 51)
  let t2 ← sum t.l2 (t1 >>> 51)
  let t3 ← sum t.l3 (t2 >>> 51)
  let t4 ← sum t.l4 (t3 >>> 51)
  pure ⟨t.l0 &&& m51,t1 &&& m51,t2 &&& m51,t3 &&& m51,t4⟩

def carry51_full (t : Fe) : ArithM Fe := do
  let t ← carry51 t
  let c ← scale (t.l4 >>> 51)
  let l0 ← sum t.l0 c
  pure ⟨l0,t.l1,t.l2,t.l3,t.l4 &&& m51⟩

def carry51_final (t : Fe) : ArithM Fe := do
  let t ← carry51 t
  pure ⟨t.l0,t.l1,t.l2,t.l3,t.l4 &&& m51⟩

def contract (a : Fe) : ArithM Fe := do
  let a ← carry51_full a
  let a ← carry51_full a
  let l0 ← sum a.l0 19
  let a ← carry51_full ⟨l0,a.l1,a.l2,a.l3,a.l4⟩
  let x11 : Limb := 0x7FFFFFFFFFFED
  let l0 ← sum a.l0 x11
  let l1 ← sum a.l1 m51
  let l2 ← sum a.l2 m51
  let l3 ← sum a.l3 m51
  let l4 ← sum a.l4 m51
  carry51_final ⟨l0,l1,l2,l3,l4⟩

def x25519 (m : Mem) (x0 x1 x2 : Nat) : ArithM Mem := do
  let q := x25519_fe_frombytes m x2
  let l ← mainLoop q (clamped m x1) 252 ⟨q,feOne,feOne,feZero,1⟩
  let p ← doubleLoop 3 (l.nqx,l.nqz)
  let z ← x25519_fe_recip p.2
  let out ← x25519_fe_mul p.1 z
  let out ← contract out
  pure (Limbs.storeLimbs m x0 (packed out))

/-! ### Operations that fit -/

section
variable {α : Type} {Post : α → Unit → Prop} {x : EStateM Empty Unit α} {s : Unit}

theorem op_does {op : Op} {β : Type} {v : β} {k : β → ArithM α} (fits : op.Exact)
    (rest : Does Op.Exact Post (k v) x s) :
    Does Op.Exact Post ((note (fun _ => op) >>= fun _ => pure v) >>= k) x s := by
  have value : Does Op.Exact (fun _ _ => True) (note (fun _ => op) >>= fun _ => pure v : ArithM β) (pure v) s :=
    note_does (t := fun _ => op) fits (pure_does trivial)
  exact value_does value fun _ => rest

theorem sum_does {a b : Limb} {k : Limb → ArithM α} (fits : a.toNat + b.toNat < 2^64)
    (rest : (a + b).toNat = a.toNat + b.toNat → Does Op.Exact Post (k (a + b)) x s) :
    Does Op.Exact Post (sum a b >>= k) x s := by
  refine op_does (show (Op.sum a b).Exact from fits) (rest ?_)
  rw [BitVec.toNat_add,Nat.mod_eq_of_lt fits]

theorem scale_does {a : Limb} {k : Limb → ArithM α} (fits : 19 * a.toNat < 2^64)
    (rest : (a * 19).toNat = 19 * a.toNat → Does Op.Exact Post (k (a * 19)) x s) :
    Does Op.Exact Post (scale a >>= k) x s := by
  refine op_does (show (Op.scale a).Exact from fits) (rest ?_)
  rw [BitVec.toNat_mul,show (19 : Limb).toNat = 19 from rfl]
  omega

theorem twice_does {a : Limb} {k : Limb → ArithM α} (small : a.toNat < 2^63)
    (rest : (a <<< 1).toNat = 2 * a.toNat → Does Op.Exact Post (k (a <<< 1)) x s) :
    Does Op.Exact Post (twice a >>= k) x s := by
  have fits : (Op.twice a).Exact := by
    rw [Op.Exact]
    omega
  exact op_does fits (rest (doubled rfl small))

/-- A difference is above the negative of the constant. -/
theorem difference_does {a b c : Limb} {k : Limb → ArithM α} (low : b.toNat ≤ a.toNat + c.toNat)
    (small : a.toNat < 2^62) (small' : b.toNat < 2^62) (small'' : c.toNat < 2^62)
    (rest : Does Op.Exact Post (k (a - b + c)) x s) :
    Does Op.Exact Post (difference a b >>= fun d => raise d c >>= k) x s := by
  have signed : (a - b).toInt = (a.toNat : Int) - b.toNat := by
    rw [BitVec.toInt_eq_toNat_cond,BitVec.toNat_sub]
    split <;> omega
  have fits : (Op.difference a b).Exact := by
    rw [Op.Exact]
    omega
  have raised : (Op.raise (a - b) c).Exact := by
    rw [Op.Exact,signed]
    omega
  exact op_does fits (op_does raised rest)

theorem accumulate_does {t u : BitVec 128} {n n' v v' : Nat} {k : BitVec 128 → ArithM α} (first : Column t n v)
    (second : Column u n' v') (room : n + n' ≤ 77)
    (rest : Column (t + u) (n + n') (v + v') → Does Op.Exact Post (k (t + u)) x s) :
    Does Op.Exact Post (accumulate t u >>= k) x s := by
  have small := first.small (by omega)
  have small' := second.small (by omega)
  have fits : (Op.accumulate t u).Exact := by
    rw [Op.Exact]
    omega
  exact op_does fits (rest (first.add second room))

/-- A column goes to the next one by its carry. -/
theorem carried_does {t u : BitVec 128} {k : BitVec 128 → ArithM α} (small : t.toNat < 2^115)
    (small' : u.toNat < 2^115)
    (rest : (u + (carry t).setWidth 128).toNat = u.toNat + t.toNat / 2^51 →
      Does Op.Exact Post (k (u + (carry t).setWidth 128)) x s) :
    Does Op.Exact Post (carryOut t >>= fun c => accumulate u (c.setWidth 128) >>= k) x s := by
  have fits : (Op.carry t).Exact := by
    rw [Op.Exact]
    omega
  have out : (carry t).toNat < 2^64 := (carry t).isLt
  have wide : ((carry t).setWidth 128).toNat < 2^64 := by
    rw [BitVec.toNat_setWidth,Nat.mod_eq_of_lt (by omega)]
    exact out
  have next : (Op.accumulate u ((carry t).setWidth 128)).Exact := by
    rw [Op.Exact]
    omega
  exact op_does fits (op_does next (rest (carried_toNat t u small small')))

theorem carryOut_does {t : BitVec 128} {k : Limb → ArithM α} (small : t.toNat < 2^115)
    (rest : (carry t).toNat = t.toNat / 2^51 → Does Op.Exact Post (k (carry t)) x s) :
    Does Op.Exact Post (carryOut t >>= k) x s := by
  have fits : (Op.carry t).Exact := by
    rw [Op.Exact]
    omega
  exact op_does fits (rest (carry_toNat small))

end

/-! ### Routines that fit -/

section
variable {s : Unit} {a b : Fe}

/-- A routine whose operations fit, and which comes to what it is to. -/
theorem called_does {routine : Routine} {body : ArithM Fe} {out : Fe} {n : Nat}
    (does : Does Op.Exact (fun _ _ => True) body (pure out) s) (holds : Holds n out routine.field) :
    Does Op.Exact (fun out _ => Below n out) (called routine body) (pure out) s := by
  refine value_does does fun _ => ?_
  refine note_does (t := fun _ => Op.returns routine out) holds.same ?_
  exact pure_does holds.below

theorem add_does (first : Below tight a) (second : Below tight b) :
    Does Op.Exact (fun out _ => Below loose out) (x25519_fe_add a b) (pure (X25519.x25519_fe_add a b)) s := by
  refine called_does ?_ (Holds.add ⟨first,rfl⟩ ⟨second,rfl⟩)
  obtain ⟨a0,a1,a2,a3,a4⟩ := first
  obtain ⟨b0,b1,b2,b3,b4⟩ := second
  rw [tight] at *
  refine sum_does (by omega) fun _ => ?_
  refine sum_does (by omega) fun _ => ?_
  refine sum_does (by omega) fun _ => ?_
  refine sum_does (by omega) fun _ => ?_
  refine sum_does (by omega) fun _ => ?_
  exact pure_does trivial

theorem sub_does (first : Below tight a) (second : Below tight b) :
    Does Op.Exact (fun out _ => Below loose out) (x25519_fe_sub a b) (pure (X25519.x25519_fe_sub a b)) s := by
  refine called_does ?_ (Holds.sub ⟨first,rfl⟩ ⟨second,rfl⟩)
  obtain ⟨a0,a1,a2,a3,a4⟩ := first
  obtain ⟨b0,b1,b2,b3,b4⟩ := second
  have k0 : (0x3FFFFFFFFFFF68 : Limb).toNat = 0x3FFFFFFFFFFF68 := rfl
  have k1 : (0x3FFFFFFFFFFFF8 : Limb).toNat = 0x3FFFFFFFFFFFF8 := rfl
  rw [tight] at *
  refine difference_does (by omega) (by omega) (by omega) (by omega) ?_
  refine difference_does (by omega) (by omega) (by omega) (by omega) ?_
  refine difference_does (by omega) (by omega) (by omega) (by omega) ?_
  refine difference_does (by omega) (by omega) (by omega) (by omega) ?_
  refine difference_does (by omega) (by omega) (by omega) (by omega) ?_
  exact pure_does trivial

theorem carryColumns_does {t0 t1 t2 t3 t4 : BitVec 128} (columns : Columns t0 t1 t2 t3 t4) :
    Does Op.Exact (fun _ _ => True) (carryColumns t0 t1 t2 t3 t4) (pure (X25519.carryColumns t0 t1 t2 t3 t4)) s := by
  have masked := digit_toNat
  obtain ⟨small0,small1,small2,small3,small4⟩ := columns
  refine carried_does (by omega) (by omega) fun v1 => ?_
  refine carried_does (by omega) (by omega) fun v2 => ?_
  refine carried_does (by omega) (by omega) fun v3 => ?_
  refine carried_does (by omega) (by omega) fun v4 => ?_
  refine carryOut_does (by omega) fun c => ?_
  refine scale_does (by omega) fun n => ?_
  refine sum_does ?_ fun r0 => ?_
  · rw [masked]
    omega
  refine sum_does ?_ fun r1 => ?_
  · rw [masked,shifted]
    omega
  exact pure_does trivial

theorem mul_does (first : Below loose a) (second : Below loose b) :
    Does Op.Exact (fun out _ => Below tight out) (x25519_fe_mul a b) (pure (X25519.x25519_fe_mul a b)) s := by
  refine called_does ?_ (Holds.mul ⟨first,rfl⟩ ⟨second,rfl⟩)
  obtain ⟨a0,a1,a2,a3,a4⟩ := first
  obtain ⟨b0,b1,b2,b3,b4⟩ := second
  have room : 19 * loose < 2^64 := by decide
  refine accumulate_does (.product b0 a1) (.product b1 a0) (by decide) fun t1 => ?_
  refine accumulate_does (.product b0 a2) (.product b2 a0) (by decide) fun t2 => ?_
  refine accumulate_does t2 (.product b1 a1) (by decide) fun t2 => ?_
  refine accumulate_does (.product b0 a3) (.product b3 a0) (by decide) fun t3 => ?_
  refine accumulate_does t3 (.product b1 a2) (by decide) fun t3 => ?_
  refine accumulate_does t3 (.product b2 a1) (by decide) fun t3 => ?_
  refine accumulate_does (.product b0 a4) (.product b4 a0) (by decide) fun t4 => ?_
  refine accumulate_does t4 (.product b3 a1) (by decide) fun t4 => ?_
  refine accumulate_does t4 (.product b1 a3) (by decide) fun t4 => ?_
  refine accumulate_does t4 (.product b2 a2) (by decide) fun t4 => ?_
  refine scale_does (by omega) fun n1 => ?_
  refine scale_does (by omega) fun n2 => ?_
  refine scale_does (by omega) fun n3 => ?_
  refine scale_does (by omega) fun n4 => ?_
  refine accumulate_does (.product b0 a0) (.scaled b4 a1 n4) (by decide) fun t0 => ?_
  refine accumulate_does t0 (.scaled b1 a4 n1) (by decide) fun t0 => ?_
  refine accumulate_does t0 (.scaled b2 a3 n2) (by decide) fun t0 => ?_
  refine accumulate_does t0 (.scaled b3 a2 n3) (by decide) fun t0 => ?_
  refine accumulate_does t1 (.scaled b4 a2 n4) (by decide) fun t1 => ?_
  refine accumulate_does t1 (.scaled b2 a4 n2) (by decide) fun t1 => ?_
  refine accumulate_does t1 (.scaled b3 a3 n3) (by decide) fun t1 => ?_
  refine accumulate_does t2 (.scaled b4 a3 n4) (by decide) fun t2 => ?_
  refine accumulate_does t2 (.scaled b3 a4 n3) (by decide) fun t2 => ?_
  refine accumulate_does t3 (.scaled b4 a4 n4) (by decide) fun t3 => ?_
  exact carryColumns_does (columns_room t0 t1 t2 t3 t4 (by decide))

theorem sqrOnce_does (below : Below loose a) :
    Does Op.Exact (fun out _ => Below tight out) (sqrOnce a) (pure (X25519.sqrOnce a)) s := by
  have left : Below tight (X25519.sqrOnce a) := (sqrOnce_holds ⟨below,rfl⟩).below
  obtain ⟨a0,a1,a2,a3,a4⟩ := below
  have room : 38 * loose < 2^63 := by decide
  suffices body : Does Op.Exact (fun _ _ => True) (sqrOnce a) (pure (X25519.sqrOnce a)) s from body.knowing left
  refine twice_does (by omega) fun d0 => ?_
  refine twice_does (by omega) fun d1 => ?_
  refine scale_does (by omega) fun n2 => ?_
  refine twice_does (by omega) fun d2 => ?_
  refine scale_does (by omega) fun n3 => ?_
  refine scale_does (by omega) fun n4 => ?_
  refine twice_does (by omega) fun d4 => ?_
  have m2 : ((a.l2 * 19) <<< 1).toNat = 38 * a.l2.toNat := by omega
  have m4 : ((a.l4 * 19) <<< 1).toNat = 38 * a.l4.toNat := by omega
  refine accumulate_does (.product a0 a0) (.scaled a4 a1 m4) (by decide) fun t0 => ?_
  refine accumulate_does t0 (.scaled a2 a3 m2) (by decide) fun t0 => ?_
  refine accumulate_does (.scaled a0 a1 d0) (.scaled a4 a2 m4) (by decide) fun t1 => ?_
  refine accumulate_does t1 (.scaled' a3 a3 n3) (by decide) fun t1 => ?_
  refine accumulate_does (.scaled a0 a2 d0) (.product a1 a1) (by decide) fun t2 => ?_
  refine accumulate_does t2 (.scaled a4 a3 m4) (by decide) fun t2 => ?_
  refine accumulate_does (.scaled a0 a3 d0) (.scaled a1 a2 d1) (by decide) fun t3 => ?_
  refine accumulate_does t3 (.scaled' a4 a4 n4) (by decide) fun t3 => ?_
  refine accumulate_does (.scaled a0 a4 d0) (.scaled a1 a3 d1) (by decide) fun t4 => ?_
  refine accumulate_does t4 (.product a2 a2) (by decide) fun t4 => ?_
  exact carryColumns_does (columns_room t0 t1 t2 t3 t4 (by decide))

theorem sqrLoop_does (count : Nat) (below : Below loose a) :
    Does Op.Exact (fun _ _ => True) (sqrLoop a count) (pure (X25519.x25519_fe_sqr_times a count)) s := by
  induction count generalizing a with
  | zero => exact pure_does trivial
  | succ count ih =>
    rw [sqrLoop,X25519.x25519_fe_sqr_times]
    exact value_does (sqrOnce_does below) fun left => ih (left.mono (by decide))

theorem sqr_times_does (count : Nat) (below : Below loose a) :
    Does Op.Exact (fun out _ => Below tight out) (x25519_fe_sqr_times a (count + 1))
      (pure (X25519.x25519_fe_sqr_times a (count + 1))) s :=
  called_does (sqrLoop_does _ below) (Holds.sqr_times ⟨below,rfl⟩ count)

theorem sqr_does (below : Below loose a) :
    Does Op.Exact (fun out _ => Below tight out) (x25519_fe_sqr a) (pure (X25519.x25519_fe_sqr a)) s :=
  sqr_times_does 0 below

theorem scalar_product_does {scalar : Limb} (below : Below loose a) (small : scalar.toNat < 2^17) :
    Does Op.Exact (fun out _ => Below tight out) (x25519_fe_scalar_product a scalar)
      (pure (X25519.x25519_fe_scalar_product a scalar)) s := by
  refine called_does ?_ (Holds.scalar_product ⟨below,rfl⟩ scalar small)
  have masked := digit_toNat
  obtain ⟨p0,p1,p2,p3,p4⟩ := (scaled_room below small).1
  refine carried_does (by omega) (by omega) fun v1 => ?_
  refine carried_does (by omega) (by omega) fun v2 => ?_
  refine carried_does (by omega) (by omega) fun v3 => ?_
  refine carried_does (by omega) (by omega) fun v4 => ?_
  refine carryOut_does (by omega) fun c => ?_
  refine scale_does (by omega) fun n => ?_
  refine sum_does ?_ fun r0 => ?_
  · rw [masked]
    omega
  exact pure_does trivial

end

/-! ### Runs -/

section
variable {s : Unit}

/-- Products are short enough to be factors again. -/
theorem powers_does {a b : Fe} (first : Below tight a) (second : Below tight b) :
    Does Op.Exact (fun out _ => Below tight out) (x25519_fe_mul a b) (pure (X25519.x25519_fe_mul a b)) s :=
  mul_does (first.mono (by decide)) (second.mono (by decide))

theorem squares_does {a : Fe} (count : Nat) (below : Below tight a) :
    Does Op.Exact (fun out _ => Below tight out) (x25519_fe_sqr_times a (count + 1))
      (pure (X25519.x25519_fe_sqr_times a (count + 1))) s :=
  sqr_times_does count (below.mono (by decide))

theorem recip_does {z : Fe} (z1 : Below tight z) :
    Does Op.Exact (fun out _ => Below tight out) (x25519_fe_recip z) (pure (X25519.x25519_fe_recip z)) s := by
  refine value_does (squares_does 0 z1) fun a2 => ?_
  refine value_does (squares_does 1 a2) fun t8 => ?_
  refine value_does (powers_does t8 z1) fun b9 => ?_
  refine value_does (powers_does b9 a2) fun a11 => ?_
  refine value_does (squares_does 0 a11) fun t22 => ?_
  refine value_does (powers_does t22 b9) fun b5 => ?_
  refine value_does (squares_does 4 b5) fun t10 => ?_
  refine value_does (powers_does t10 b5) fun b10 => ?_
  refine value_does (squares_does 9 b10) fun t20 => ?_
  refine value_does (powers_does t20 b10) fun c20 => ?_
  refine value_does (squares_does 19 c20) fun t40 => ?_
  refine value_does (powers_does t40 c20) fun t40 => ?_
  refine value_does (squares_does 9 t40) fun t50 => ?_
  refine value_does (powers_does t50 b10) fun b50 => ?_
  refine value_does (squares_does 49 b50) fun t100 => ?_
  refine value_does (powers_does t100 b50) fun c100 => ?_
  refine value_does (squares_does 99 c100) fun t200 => ?_
  refine value_does (powers_does t200 c100) fun t200 => ?_
  refine value_does (squares_does 49 t200) fun t250 => ?_
  refine value_does (powers_does t250 b50) fun b250 => ?_
  refine value_does (squares_does 4 b250) fun b255 => ?_
  exact powers_does b255 a11

/-- Sums and differences are short enough to be factors. -/
theorem doubleStep_does {nqx nqz : Fe} (first : Below tight nqx) (second : Below tight nqz) :
    Does Op.Exact (fun p _ => Below tight p.1 ∧ Below tight p.2) (doubleStep nqx nqz)
      (pure (X25519.doubleStep nqx nqz)) s := by
  refine value_does (add_does first second) fun qx => ?_
  refine value_does (sub_does first second) fun nqz => ?_
  refine value_does (sqr_does qx) fun qx => ?_
  refine value_does (sqr_does nqz) fun nqz => ?_
  refine value_does (powers_does qx nqz) fun nqx => ?_
  refine value_does (sub_does qx nqz) fun nqz => ?_
  refine value_does (scalar_product_does nqz (by decide)) fun zzz => ?_
  refine value_does (add_does zzz qx) fun zzz => ?_
  refine value_does (mul_does nqz zzz) fun nqz => ?_
  exact pure_does ⟨nqx,nqz⟩

/-- What a ladder is kept within. -/
structure Short (l : Ladder) : Prop where
  nqx : Below tight l.nqx
  nqz : Below tight l.nqz
  nqpqx : Below tight l.nqpqx
  nqpqz : Below tight l.nqpqz

theorem addStep_does {q : Fe} {l : Ladder} (point : Below tight q) (short : Short l) :
    Does Op.Exact (fun p _ => Below tight p.1 ∧ Below tight p.2) (addStep q l.nqx l.nqz l.nqpqx l.nqpqz)
      (pure (X25519.addStep q l.nqx l.nqz l.nqpqx l.nqpqz)) s := by
  obtain ⟨nqx,nqz,nqpqx,nqpqz⟩ := short
  refine value_does (add_does nqx nqz) fun qx => ?_
  refine value_does (sub_does nqx nqz) fun nqz => ?_
  refine value_does (add_does nqpqx nqpqz) fun qpqx => ?_
  refine value_does (sub_does nqpqx nqpqz) fun nqpqz => ?_
  refine value_does (mul_does qpqx nqz) fun nqpqx => ?_
  refine value_does (mul_does qx nqpqz) fun nqpqz => ?_
  refine value_does (add_does nqpqx nqpqz) fun qqx => ?_
  refine value_does (sub_does nqpqx nqpqz) fun nqpqz => ?_
  refine value_does (sqr_does nqpqz) fun nqpqz => ?_
  refine value_does (sqr_does qqx) fun nqpqx => ?_
  refine value_does (powers_does nqpqz point) fun nqpqz => ?_
  exact pure_does ⟨nqpqx,nqpqz⟩

theorem mainStep_does {q : Fe} {e : Nat → UInt8} {l : Ladder} {i : Nat} (point : Below tight q) (short : Short l) :
    Does Op.Exact (fun l _ => Short l) (mainStep q e l i) (pure (X25519.mainStep q e l i)) s := by
  refine value_does (addStep_does point short) fun added => ?_
  refine value_does (doubleStep_does short.nqx short.nqz) fun doubled => ?_
  simp only [X25519.mainStep,swap_conditional_eq]
  generalize X25519.addStep q l.nqx l.nqz l.nqpqx l.nqpqz = p at *
  generalize X25519.doubleStep l.nqx l.nqz = p' at *
  split
  · exact pure_does ⟨doubled.1,doubled.2,added.1,added.2⟩
  · exact pure_does ⟨added.1,added.2,doubled.1,doubled.2⟩

theorem mainLoop_does {q : Fe} {e : Nat → UInt8} (point : Below tight q) : ∀ (n : Nat) (l : Ladder), Short l →
    Does Op.Exact (fun l _ => Short l) (mainLoop q e n l) (pure (X25519.mainLoop q e n l)) s := by
  intro n
  induction n with
  | zero => exact fun l short => pure_does short
  | succ n ih =>
    intro l short
    have passed : X25519.mainLoop q e (n + 1) l = X25519.mainLoop q e n (X25519.mainStep q e l (n + 2)) :=
      foldl_descending _ _ _
    rw [mainLoop,passed]
    exact value_does (mainStep_does point short) fun short => ih _ short

theorem doubleLoop_does : ∀ (n : Nat) (p : Fe × Fe), Below tight p.1 ∧ Below tight p.2 →
    Does Op.Exact (fun p _ => Below tight p.1 ∧ Below tight p.2) (doubleLoop n p)
      (pure (X25519.doubleLoop n p.1 p.2)) s := by
  intro n
  induction n with
  | zero => exact fun p short => pure_does short
  | succ n ih =>
    intro p short
    have passed : X25519.doubleLoop (n + 1) p.1 p.2 =
        X25519.doubleLoop n (X25519.doubleStep p.1 p.2).1 (X25519.doubleStep p.1 p.2).2 := by
      rw [X25519.doubleLoop,Function.iterate_succ_apply]
      rfl
    rw [doubleLoop,passed]
    exact value_does (doubleStep_does short.1 short.2) fun short => ih _ short

/-! ### The result -/

theorem carry51_does {a : Fe} (below : Below (2^62) a) :
    Does Op.Exact (fun _ _ => True) (carry51 a) (pure (X25519.carry51 a)) s := by
  obtain ⟨b0,b1,b2,b3,b4⟩ := below
  refine sum_does (by rw [shifted]; omega) fun t1 => ?_
  rw [shifted] at t1
  refine sum_does (by rw [shifted]; omega) fun t2 => ?_
  rw [shifted] at t2
  refine sum_does (by rw [shifted]; omega) fun t3 => ?_
  rw [shifted] at t3
  refine sum_does (by rw [shifted]; omega) fun t4 => ?_
  exact pure_does trivial

/-- A pass leaves a first limb that is hardly longer than 51 bits. -/
theorem carry51_full_does {a : Fe} (below : Below (2^62) a) :
    Does Op.Exact (fun out _ => Below (2^52) out) (carry51_full a) (pure (X25519.carry51_full a)) s := by
  obtain ⟨_,⟨⟨d0,d1⟩,d2,d3⟩,d4⟩ := carry51_spec below
  obtain ⟨_,first,⟨e1,e2⟩,e3,e4⟩ := carry51_full_spec below
  have left : Below (2^52) (X25519.carry51_full a) := by
    obtain ⟨b0,b1,b2,b3,b4⟩ := below
    refine ⟨?_,by omega,by omega,by omega,by omega⟩
    rw [first]
    simp only [Fe.value]
    omega
  suffices body : Does Op.Exact (fun _ _ => True) (carry51_full a)
    (pure (X25519.carry51_full a)) s from body.knowing left
  refine value_does (carry51_does below) fun _ => ?_
  refine scale_does ?_ fun n => ?_
  · rw [shifted]
    omega
  rw [shifted] at n
  refine sum_does (by omega) fun l0 => ?_
  exact pure_does trivial

theorem carry51_final_does {a : Fe} (below : Below (2^62) a) :
    Does Op.Exact (fun _ _ => True) (carry51_final a) (pure (X25519.carry51_final a)) s :=
  value_does (carry51_does below) fun _ => pure_does trivial

theorem contract_does {a : Fe} (below : Below tight a) :
    Does Op.Exact (fun _ _ => True) (contract a) (pure (X25519.contract a)) s := by
  have offset : (19 : Limb).toNat = 19 := rfl
  have modulus : (0x7FFFFFFFFFFED : Limb).toNat = 0x7FFFFFFFFFFED := rfl
  have mask := m51_toNat
  rw [X25519.contract]
  refine value_does (carry51_full_does (below.mono (by decide))) fun first => ?_
  refine value_does (carry51_full_does (first.mono (by decide))) fun second => ?_
  generalize X25519.carry51_full (X25519.carry51_full a) = a2 at *
  obtain ⟨b0,b1,b2,b3,b4⟩ := second
  refine sum_does (by omega) fun moved => ?_
  have below2 : Below (2^62) ⟨a2.l0 + 19,a2.l1,a2.l2,a2.l3,a2.l4⟩ := by
    refine ⟨?_,b1.trans (by decide),b2.trans (by decide),b3.trans (by decide),b4.trans (by decide)⟩
    rw [moved]
    omega
  refine value_does (carry51_full_does below2) fun third => ?_
  dsimp only
  generalize X25519.carry51_full ⟨a2.l0 + 19,a2.l1,a2.l2,a2.l3,a2.l4⟩ = a3 at *
  obtain ⟨c0,c1,c2,c3,c4⟩ := third
  refine sum_does (by omega) fun g0 => ?_
  refine sum_does (by omega) fun g1 => ?_
  refine sum_does (by omega) fun g2 => ?_
  refine sum_does (by omega) fun g3 => ?_
  refine sum_does (by omega) fun g4 => ?_
  refine carry51_final_does ⟨?_,?_,?_,?_,?_⟩
  all_goals
    simp only [g0,g1,g2,g3,g4]
    omega

theorem x25519_does (m : Mem) (x0 x1 x2 : Nat) :
    Does Op.Exact (fun _ _ => True) (x25519 m x0 x1 x2) (pure (X25519.x25519 m x0 x1 x2)) s := by
  have point : Below tight (x25519_fe_frombytes m x2) := (frombytes_holds m x2).below
  have start : Short ⟨x25519_fe_frombytes m x2,feOne,feOne,feZero,1⟩ := by
    obtain ⟨nqx,nqz,nqpqx,nqpqz,_⟩ := initial_stands ⟨point,rfl⟩
    exact ⟨nqx.below,nqz.below,nqpqx.below,nqpqz.below⟩
  rw [x25519,X25519.x25519]
  refine value_does (mainLoop_does point 252 _ start) fun short => ?_
  generalize X25519.mainLoop _ _ _ _ = l at *
  refine value_does (doubleLoop_does 3 (l.nqx,l.nqz) ⟨short.nqx,short.nqz⟩) fun short => ?_
  dsimp only at short ⊢
  generalize X25519.doubleLoop 3 l.nqx l.nqz = p at *
  refine value_does (recip_does short.2) fun recip => ?_
  refine value_does (powers_does short.1 recip) fun quotient => ?_
  refine value_does (contract_does quotient) fun _ => ?_
  exact pure_does trivial

end

end Watched

/-- In every run no operation loses anything, and every routine comes to what it is to come to
    in the field. -/
theorem x25519_exact (m : Mem) (x0 x1 x2 : Nat) :
    ∃ log, Watched.x25519 m x0 x1 x2 ((),[]) = .ok (x25519 m x0 x1 x2) ((),log) ∧ ∀ op ∈ log, op.Exact := by
  obtain ⟨log,fits,run⟩ := (Watched.x25519_does m x0 x1 x2).run
  exact ⟨log,run,fits⟩

end Sarm.X25519
