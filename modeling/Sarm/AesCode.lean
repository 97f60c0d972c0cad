import Mathlib.Logic.Function.Basic
import Mathlib.Tactic.IntervalCases
import Sarm.Aes

/-!
The instructions of the three copies of the rounds of AES-128: the routine for a block in
memory, which loads the schedule itself, and the two macros of the counter mode, which find
it in registers.
-/
namespace Sarm.Aes.Code
open Sarm.Memory Sarm.Neon

/-! ### Instructions -/

abbrev Reg := Fin 32

/-- The pointers are by the numbers of their registers. -/
structure Machine where
  x : Nat → Nat
  v : Reg → BitVec 128
  m : Mem

inductive Instr where
  | ld1 (vs : List Reg) (x post : Nat)
  | st1 (v : Reg) (x : Nat)
  | aese (d n : Reg)
  | aesmc (d n : Reg)
  | eor (d n m : Reg)

/-- Registers are loaded from one address on, in the order they are given in. -/
def loads (m : Mem) : List Reg → Nat → (Reg → BitVec 128) → Reg → BitVec 128
  | [], _, v => v
  | r :: rs, a, v => loads m rs (a + 16) (Function.update v r (Neon.ld1 m a))

def exec (s : Machine) : Instr → Machine
  | .ld1 vs x post => { s with v := loads s.m vs (s.x x) s.v, x := Function.update s.x x (s.x x + post) }
  | .st1 v x => { s with m := Neon.st1 s.m (s.x x) (s.v v) }
  | .aese d n => { s with v := Function.update s.v d (Aes.aese (s.v d) (s.v n)) }
  | .aesmc d n => { s with v := Function.update s.v d (Aes.aesmc (s.v n)) }
  | .eor d n m => { s with v := Function.update s.v d (s.v n ^^^ s.v m) }

def run (code : List Instr) (s : Machine) : Machine := code.foldl exec s

/-! ### The code -/

/-- The two instructions of a round. -/
def round (st rk : Reg) : List Instr := [.aese st rk,.aesmc st st]

/-- The last round, without `aesmc`. -/
def lastRound (st rk last : Reg) : List Instr := [.aese st rk,.eor st st last]

/-- The input and the round keys, with `v8` to `v21` left out. -/
def encryptLoads : List Instr :=
  [.ld1 [0] 0 0,.ld1 [1,2,3,4] 1 64,.ld1 [5,6,7] 1 48,.ld1 [22,23,24,25] 1 0]

def aes128_encrypt : List Instr :=
  encryptLoads ++ [1,2,3,4,5,6,7,22,23].flatMap (round 0) ++ lastRound 0 24 25 ++ [.st1 0 2]

def aes_block1 (st : Reg) : List Instr :=
  [16,17,18,19,20,21,22,23,24].flatMap (round st) ++ lastRound st 25 26

def aes_round4 (rk : Reg) : List Instr := round 0 rk ++ round 1 rk ++ round 2 rk ++ round 3 rk

def aes_block4 : List Instr :=
  [16,17,18,19,20,21,22,23,24].flatMap aes_round4 ++
    (lastRound 0 25 26 ++ lastRound 1 25 26 ++ lastRound 2 25 26 ++ lastRound 3 25 26)

/-! ### One block -/

theorem run_append (code code' : List Instr) (s : Machine) : run (code ++ code') s = run code' (run code s) :=
  List.foldl_append

theorem round_run (s : Machine) (st rk : Reg) :
    run (round st rk) s = { s with v := Function.update s.v st (aesRound (s.v st) (s.v rk)) } := by
  simp only [run,round,List.foldl_cons,List.foldl_nil,exec,Function.update_self,Function.update_idem]
  rfl

theorem lastRound_run (s : Machine) {st rk last : Reg} (apart : last ≠ st) :
    run (lastRound st rk last) s =
      { s with v := Function.update s.v st (aese (s.v st) (s.v rk) ^^^ s.v last) } := by
  simp only [run,lastRound,List.foldl_cons,List.foldl_nil,exec,Function.update_self,Function.update_idem,
    Function.update_of_ne apart]

/-- Rounds with round keys that are in other registers. -/
theorem rounds_run {st : Reg} {key : Reg → BitVec 128} (keys : List Reg) :
    ∀ s : Machine, (∀ rk ∈ keys, rk ≠ st ∧ s.v rk = key rk) → run (keys.flatMap (round st)) s =
      { s with v := Function.update s.v st (keys.foldl (fun b rk => aesRound b (key rk)) (s.v st)) } := by
  induction keys with
  | nil =>
    intro s _
    rw [List.flatMap_nil,List.foldl_nil,Function.update_eq_self]
    rfl
  | cons rk keys ih =>
    intro s held
    rw [List.forall_mem_cons] at held
    rw [List.flatMap_cons,run_append,round_run,ih]
    · simp only [Function.update_self,Function.update_idem,List.foldl_cons,held.1.2]
    · intro r mem
      exact ⟨(held.2 r mem).1,(Function.update_of_ne (held.2 r mem).1 _ _).trans (held.2 r mem).2⟩

/-- The schedule where the macros find it. -/
def schedule (s : Machine) (i : Nat) : BitVec 128 := s.v (Fin.ofNat 32 (16 + i))

theorem aes_block1_run (s : Machine) {st : Reg} (apart : st.val < 16 ∨ 26 < st.val) :
    run (aes_block1 st) s = { s with v := Function.update s.v st (Aes.aes_block1 (schedule s) (s.v st)) } := by
  have other : ∀ rk : Reg, 16 ≤ rk.val → rk.val ≤ 26 → rk ≠ st := by
    rintro rk low high rfl
    omega
  have held : ∀ rk ∈ ([16,17,18,19,20,21,22,23,24] : List Reg), rk ≠ st ∧ s.v rk = s.v rk := by
    intro rk mem
    have inside : ∀ rk ∈ ([16,17,18,19,20,21,22,23,24] : List Reg), 16 ≤ rk.val ∧ rk.val ≤ 26 := by decide
    exact ⟨other rk (inside rk mem).1 (inside rk mem).2,rfl⟩
  rw [aes_block1,run_append,rounds_run _ s held,lastRound_run _ (other 26 (by decide) (by decide))]
  simp only [Function.update_self,Function.update_idem,Function.update_of_ne (other 25 (by decide) (by decide)),
    Function.update_of_ne (other 26 (by decide) (by decide))]
  rfl

/-! ### Four blocks -/

/-- The registers with four states in `v0` to `v3`. -/
def withFour (v : Reg → BitVec 128) (f : Four) : Reg → BitVec 128 :=
  Function.update (Function.update (Function.update (Function.update v 0 f.v0) 1 f.v1) 2 f.v2) 3 f.v3

theorem withFour_other (v : Reg → BitVec 128) (f : Four) {r : Reg} (other : 4 ≤ r.val) : withFour v f r = v r := by
  have apart : ∀ k : Reg, k.val < 4 → r ≠ k := by
    rintro k low rfl
    omega
  rw [withFour,Function.update_of_ne (apart 3 (by decide)),Function.update_of_ne (apart 2 (by decide)),
    Function.update_of_ne (apart 1 (by decide)),Function.update_of_ne (apart 0 (by decide))]

/-- What is done to one of the four leaves the others alone. -/
theorem withFour_update (v : Reg → BitVec 128) (f : Four) (b : BitVec 128) :
    Function.update (withFour v f) 0 b = withFour v { f with v0 := b } ∧
    Function.update (withFour v f) 1 b = withFour v { f with v1 := b } ∧
    Function.update (withFour v f) 2 b = withFour v { f with v2 := b } ∧
    Function.update (withFour v f) 3 b = withFour v { f with v3 := b } := by
  refine ⟨?_,?_,?_,?_⟩
  all_goals
    funext r
    simp only [withFour,Function.update_apply]
    grind

theorem aes_round4_run (s : Machine) (f : Four) {rk : Reg} (apart : 4 ≤ rk.val) :
    run (aes_round4 rk) { s with v := withFour s.v f } =
      { s with v := withFour s.v (Aes.aes_round4 (s.v rk) f) } := by
  have key (f : Four) : withFour s.v f rk = s.v rk := withFour_other _ f apart
  rw [aes_round4,run_append,run_append,run_append,round_run,round_run,round_run,round_run]
  simp only [(withFour_update _ _ _).1,(withFour_update _ _ _).2.1,(withFour_update _ _ _).2.2.1,
    (withFour_update _ _ _).2.2.2,key]
  rfl

theorem rounds4_run (s : Machine) (keys : List Reg) (apart : ∀ rk ∈ keys, 4 ≤ rk.val) (f : Four) :
    run (keys.flatMap aes_round4) { s with v := withFour s.v f } =
      { s with v := withFour s.v (keys.foldl (fun f rk => Aes.aes_round4 (s.v rk) f) f) } := by
  induction keys generalizing f with
  | nil => rfl
  | cons rk keys ih =>
    rw [List.forall_mem_cons] at apart
    rw [List.flatMap_cons,run_append,aes_round4_run s f apart.1,ih apart.2,List.foldl_cons]

/-- The states that the macro finds. -/
def four (s : Machine) : Four := ⟨s.v 0,s.v 1,s.v 2,s.v 3⟩

theorem withFour_four (s : Machine) : withFour s.v (four s) = s.v := by
  simp only [withFour,four,Function.update_eq_self]

theorem aes_block4_run (s : Machine) :
    run aes_block4 s = { s with v := withFour s.v (Aes.aes_block4 (schedule s) (four s)) } := by
  have keys : ∀ rk ∈ ([16,17,18,19,20,21,22,23,24] : List Reg), 4 ≤ rk.val := by decide
  have rounds := rounds4_run s _ keys (four s)
  rw [withFour_four] at rounds
  rw [aes_block4,run_append,rounds,run_append,run_append,run_append,lastRound_run _ (by decide),
    lastRound_run _ (by decide),lastRound_run _ (by decide),lastRound_run _ (by decide)]
  have key (f : Four) {rk : Reg} (other : 4 ≤ rk.val) : withFour s.v f rk = s.v rk := withFour_other _ f other
  simp only [(withFour_update _ _ _).1,(withFour_update _ _ _).2.1,(withFour_update _ _ _).2.2.1,
    (withFour_update _ _ _).2.2.2,key _ (show 4 ≤ (25 : Reg).val by decide),key _ (show 4 ≤ (26 : Reg).val by decide)]
  rfl

/-! ### The block in memory -/

/-- Where `aes128_encrypt` has the round keys. -/
def keyRegs : List Reg := [1,2,3,4,5,6,7,22,23,24,25]

/-- The loads bring the block and the schedule. -/
theorem encryptLoads_run (s : Machine) :
    (run encryptLoads s).m = s.m ∧ (run encryptLoads s).x 2 = s.x 2 ∧ (run encryptLoads s).v 0 = ld1 s.m (s.x 0) ∧
      ∀ i < 11, (run encryptLoads s).v (keyRegs.getD i 0) = roundKey s.m (s.x 1) i := by
  have second : Function.update (Function.update (Function.update (Function.update s.x 0 (s.x 0 + 0)) 1
      (s.x 1 + 64)) 1 (s.x 1 + 64 + 48)) 1 (s.x 1 + 64 + 48 + 0) 2 = s.x 2 := rfl
  refine ⟨rfl,second,rfl,fun i inside => ?_⟩
  interval_cases i <;> rfl

theorem aes128_encrypt_run (s : Machine) :
    (run aes128_encrypt s).m = Aes.aes128_encrypt s.m (s.x 0) (s.x 1) (s.x 2) := by
  obtain ⟨mem,out,block,keys⟩ := encryptLoads_run s
  have held : ∀ rk ∈ ([1,2,3,4,5,6,7,22,23] : List Reg), rk ≠ 0 ∧
      (run encryptLoads s).v rk = (run encryptLoads s).v rk := by
    intro rk mem
    have inside : ∀ rk ∈ ([1,2,3,4,5,6,7,22,23] : List Reg), rk ≠ 0 := by decide
    exact ⟨inside rk mem,rfl⟩
  rw [aes128_encrypt,run_append,run_append,run_append,rounds_run _ _ held,lastRound_run _ (by decide)]
  generalize run encryptLoads s = t at *
  have rounds : ([1,2,3,4,5,6,7,22,23] : List Reg).foldl (fun b rk => aesRound b (t.v rk)) (t.v 0) =
      (List.range 9).foldl (fun b i => aesRound b (t.v (keyRegs.getD i 0))) (t.v 0) := rfl
  have scheduled : (List.range 9).foldl (fun b i => aesRound b (t.v (keyRegs.getD i 0))) (t.v 0) =
      (List.range 9).foldl (fun b i => aesRound b (roundKey s.m (s.x 1) i)) (t.v 0) := by
    refine List.foldl_ext _ _ _ fun b i mem => ?_
    rw [keys i ((List.mem_range.mp mem).trans (by decide))]
  have ninth : t.v 24 = roundKey s.m (s.x 1) 9 := keys 9 (by decide)
  have tenth : t.v 25 = roundKey s.m (s.x 1) 10 := keys 10 (by decide)
  have apart24 : (24 : Reg) ≠ 0 := by decide
  have apart25 : (25 : Reg) ≠ 0 := by decide
  simp only [run,List.foldl_cons,List.foldl_nil,exec,Function.update_self,Function.update_of_ne apart24,
    Function.update_of_ne apart25]
  simp only [List.foldl_cons,List.foldl_nil] at rounds
  rw [rounds,scheduled,ninth,tenth,mem,out,block]
  rfl

/-! ### The results -/

/-- With a schedule that was made in memory a block is enciphered as the standard says, and nothing
    else is written. The macros leave in the registers of their blocks what the routine
    leaves in memory, for any schedule, and leave the other registers alone. -/
theorem aes128_fips197 :
    (∀ (m : Mem) (key : Nat) (s : Machine), s.m = aes128_key_expand m key (s.x 1) →
      (∀ k < 16, (run aes128_encrypt s).m (s.x 2 + k) = cipher (shift m key) (shift s.m (s.x 0)) k) ∧
        ChangesOnly [(s.x 2,16)] s.m (run aes128_encrypt s).m) ∧
    ∀ s t : Machine, (∀ i < 11, roundKey t.m (t.x 1) i = schedule s i) →
      (∀ st : Reg, st.val < 16 ∨ 26 < st.val → ld1 t.m (t.x 0) = s.v st →
        (run (aes_block1 st) s).v st = ld1 (run aes128_encrypt t).m (t.x 2) ∧
        ∀ r ≠ st, (run (aes_block1 st) s).v r = s.v r) ∧
      (∀ st : Reg, st.val < 4 → ld1 t.m (t.x 0) = s.v st →
        (run aes_block4 s).v st = ld1 (run aes128_encrypt t).m (t.x 2)) ∧
      ∀ r : Reg, 4 ≤ r.val → (run aes_block4 s).v r = s.v r := by
  constructor
  · intro m key s made
    have scheduled := aes128_key_expand_scheduled m key (s.x 1)
    rw [← made] at scheduled
    rw [aes128_encrypt_run,Aes.aes128_encrypt]
    constructor
    · intro k inside
      rw [st1,blit_inside (by omega) (by omega),Nat.add_sub_cancel_left,aes_block1_cipher scheduled _ inside]
      exact congrFun (cipher_congr _ fun k small => octet_ld1 _ _ small) k
    · intro i out
      have outside := out _ (List.mem_singleton_self _)
      exact st1_outside _ (by dsimp only at outside; omega)
  · intro s t same
    have stored (st : Reg) (held : ld1 t.m (t.x 0) = s.v st) :
        ld1 (run aes128_encrypt t).m (t.x 2) = Aes.aes_block1 (schedule s) (s.v st) := by
      rw [aes128_encrypt_run,Aes.aes128_encrypt,ld1_st1,held,aes_block1_congr same]
    refine ⟨fun st apart held => ?_,fun st low held => ?_,fun r other => ?_⟩
    · rw [stored st held,aes_block1_run s apart]
      exact ⟨Function.update_self _ _ _,fun r other => Function.update_of_ne other _ _⟩
    · rw [stored st held,aes_block4_run,aes_block4_each]
      obtain ⟨n,bound⟩ := st
      dsimp only at low
      interval_cases n
      · rfl
      · rfl
      · rfl
      · rfl
    · rw [aes_block4_run]
      exact withFour_other _ _ other

/-- Nothing but zeros, with the input at 0, the schedule at 64 and the output at 256. -/
def zeroMachine : Machine := ⟨fun x => if x = 0 then 0 else if x = 1 then 64 else 256,fun _ => 0,fun _ => 0⟩

theorem aes128_fips197_zeros :
    (∀ k < 16, (run aes128_encrypt { zeroMachine with m := aes128_key_expand zeroMachine.m 0 64 }).m (256 + k) =
      cipher (shift zeroMachine.m 0) (shift (aes128_key_expand zeroMachine.m 0 64) 0) k) ∧
    (run (aes_block1 5) zeroMachine).v 5 = ld1 (run aes128_encrypt zeroMachine).m 256 ∧
    (run aes_block4 zeroMachine).v 3 = ld1 (run aes128_encrypt zeroMachine).m 256 := by
  have zero (a : Nat) : ld1 zeroMachine.m a = 0 :=
    register_ext fun k inside => (octet_ld1 _ _ inside).trans (octet_zero k).symm
  have both := aes128_fips197.2 zeroMachine zeroMachine fun i _ => zero _
  exact ⟨(aes128_fips197.1 zeroMachine.m 0 { zeroMachine with m := aes128_key_expand zeroMachine.m 0 64 } rfl).1,
    (both.1 5 (.inl (by decide)) (zero _)).1,both.2.1 3 (by decide) (zero _)⟩

end Sarm.Aes.Code
