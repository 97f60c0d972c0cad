import Mathlib.Data.List.Basic
import Mathlib.Logic.Relation
import Mathlib.Tactic.Common

/-!
The instructions of a routine that calls others: moves, sums, comparisons, loads and
stores, branches, and a stack frame. What the routines called do between the branch and
their return is a parameter.
-/
namespace Sarm.Aarch64

abbrev Word := BitVec 64

/-- `x0` to `x30`. -/
abbrev Reg := Fin 31

/-- The conditions of `b.eq`, `b.ne`, `b.hs` (which is `b.cs`) and `b.lo` (which is `b.cc`). -/
inductive Cond where
  | eq
  | ne
  | hs
  | lo
  deriving DecidableEq, Repr

/-- What the conditions look at is `z` and `c`. -/
structure Flags where
  z : Bool
  c : Bool
  deriving DecidableEq, Repr

def Cond.holds (f : Flags) : Cond → Bool
  | .eq => f.z
  | .ne => !f.z
  | .hs => f.c
  | .lo => !f.c

/-- `label` is what a routine branches to inside, `symbol` the objects and the routines
    outside. A stored register that is `none` is `xzr`; the sizes of loads and stores are
    in octets. A load or a move of a `w` register leaves its upper half clear, so that it
    is that of the `x` register with the same value. -/
inductive Instr (label symbol : Type) where
  | label (l : label)
  | mov (d n : Reg)
  | movImm (d : Reg) (imm : Nat)
  | movk (d : Reg) (imm shift : Nat)
  | adr (d : Reg) (s : symbol)
  | add (d n m : Reg)
  | addImm (d n : Reg) (imm : Nat)
  | subImm (d n : Reg) (imm : Nat)
  | cmp (n m : Reg)
  | cmpW (n m : Reg)
  | cmpImm (n : Reg) (imm : Nat)
  | cmpWImm (n : Reg) (imm : Nat)
  | cmpZero
  | cmnZero
  | ldr (size : Nat) (d n : Reg) (imm : Nat)
  | ldrIndex (size : Nat) (d n m : Reg)
  | str (size : Nat) (r : Option Reg) (n : Reg) (imm : Nat)
  | strIndex (size : Nat) (r : Option Reg) (n m : Reg)
  | stpPush (a b : Reg) (imm : Nat)
  | stpFrame (a b : Reg) (imm : Nat)
  | strFrame (a : Reg) (imm : Nat)
  | ldpFrame (a b : Reg) (imm : Nat)
  | ldrFrame (a : Reg) (imm : Nat)
  | ldpPop (a b : Reg) (imm : Nat)
  | b (l : label)
  | bCond (c : Cond) (l : label)
  | cbz (n : Reg) (l : label)
  | cbnz (n : Reg) (l : label)
  | bl (f : symbol)
  | tail (f : symbol)
  | ret
  deriving DecidableEq, Repr

structure State where
  x : Reg → Word
  sp : Word
  flags : Flags
  mem : Word → BitVec 8
  pc : Nat

/-! ### Memory -/

/-- The octets at an address, the lowest first. -/
def load (m : Word → BitVec 8) (a : Word) : Nat → Word
  | 0 => 0
  | n+1 => load m a n ||| (m (a + BitVec.ofNat 64 n)).setWidth 64 <<< (8*n)

def store (m : Word → BitVec 8) (a : Word) (size : Nat) (v : Word) : Word → BitVec 8 := fun i =>
  if (i - a).toNat < size then (v >>> (8 * (i - a).toNat)).setWidth 8 else m i

theorem load_bit (m : Word → BitVec 8) (a : Word) (size : Nat) (j : Nat) (inside : j < 64) :
    (load m a size).getLsbD j = (decide (j < 8 * size) && (m (a + BitVec.ofNat 64 (j / 8))).getLsbD (j % 8)) := by
  induction size with
  | zero => simp [load]
  | succ n ih =>
    rw [load,BitVec.getLsbD_or,ih,BitVec.getLsbD_shiftLeft,BitVec.getLsbD_setWidth]
    by_cases before : j < 8 * n
    · simp [before,show j < 8 * (n+1) by omega]
    · by_cases here : j < 8 * (n+1)
      · simp [before,here,inside,show j - 8*n < 64 by omega,show j / 8 = n by omega,show j % 8 = j - 8*n by omega]
      · simp [before,here,BitVec.getLsbD_of_ge _ _ (show 8 ≤ j - 8*n by omega)]

/-- What is stored is loaded. -/
theorem load_store (m : Word → BitVec 8) (a v : Word) : load (store m a 8 v) a 8 = v := by
  apply BitVec.eq_of_getLsbD_eq
  intro j inside
  have within : j / 8 < 8 := by omega
  have offset : (a + BitVec.ofNat 64 (j / 8) - a).toNat = j / 8 := by
    rw [BitVec.add_comm,BitVec.add_sub_cancel,BitVec.toNat_ofNat]
    omega
  rw [load_bit _ _ _ _ inside,store,offset,if_pos within,BitVec.getLsbD_setWidth,BitVec.getLsbD_ushiftRight]
  simp [inside,Nat.mod_lt,Nat.div_add_mod]

/-- An octet that a store does not reach. -/
theorem store_away {m : Word → BitVec 8} {a i : Word} {size : Nat} (v : Word) (away : size ≤ (i - a).toNat) :
    store m a size v i = m i := if_neg (Nat.not_lt.mpr away)

theorem load_congr {m m' : Word → BitVec 8} {a : Word} {size : Nat}
    (same : ∀ i < size, m' (a + BitVec.ofNat 64 i) = m (a + BitVec.ofNat 64 i)) : load m' a size = load m a size := by
  induction size with
  | zero => rfl
  | succ n ih => rw [load,load,ih fun i before => same i (by omega),same n (by omega)]

/-! ### Steps -/

namespace State

def next (s : State) : State := { s with pc := s.pc + 1 }

def set (s : State) (d : Reg) (v : Word) : State := { s with x := Function.update s.x d v }

/-- A register that may be `xzr`. -/
def get (s : State) : Option Reg → Word
  | none => 0
  | some r => s.x r

/-- The flags of a subtraction. -/
def compare (s : State) (a b : Word) : State := { s with flags := ⟨a = b,b ≤ a⟩ }

end State

section
variable {label symbol : Type} [DecidableEq label] [DecidableEq symbol]

/-- Where a label stands. -/
def find (code : List (Instr label symbol)) (l : label) : Nat := code.idxOf (.label l)

variable (code : List (Instr label symbol)) (addr : symbol → Word)

/-- An instruction that does not leave the routine. -/
def exec (s : State) : Instr label symbol → Option State
  | .label _ => some s.next
  | .mov d n => some (s.set d (s.x n)).next
  | .movImm d imm => some (s.set d (BitVec.ofNat 64 imm)).next
  | .movk d imm shift => some (s.set d (s.x d &&& ~~~((0xffff : Word) <<< shift) ||| BitVec.ofNat 64 imm <<< shift)).next
  | .adr d f => some (s.set d (addr f)).next
  | .add d n m => some (s.set d (s.x n + s.x m)).next
  | .addImm d n imm => some (s.set d (s.x n + BitVec.ofNat 64 imm)).next
  | .subImm d n imm => some (s.set d (s.x n - BitVec.ofNat 64 imm)).next
  | .cmp n m => some (s.compare (s.x n) (s.x m)).next
  | .cmpW n m => some (s.compare ((s.x n).setWidth 32 |>.setWidth 64) ((s.x m).setWidth 32 |>.setWidth 64)).next
  | .cmpImm n imm => some (s.compare (s.x n) (BitVec.ofNat 64 imm)).next
  | .cmpWImm n imm => some (s.compare ((s.x n).setWidth 32 |>.setWidth 64) (BitVec.ofNat 64 imm)).next
  | .cmpZero => some { s with flags := ⟨true,true⟩ }.next
  | .cmnZero => some { s with flags := ⟨true,false⟩ }.next
  | .ldr size d n imm => some (s.set d (load s.mem (s.x n + BitVec.ofNat 64 imm) size)).next
  | .ldrIndex size d n m => some (s.set d (load s.mem (s.x n + s.x m) size)).next
  | .str size r n imm => some { s with mem := store s.mem (s.x n + BitVec.ofNat 64 imm) size (s.get r) }.next
  | .strIndex size r n m => some { s with mem := store s.mem (s.x n + s.x m) size (s.get r) }.next
  | .stpPush a b imm =>
    let sp := s.sp - BitVec.ofNat 64 imm
    some { s with sp := sp, mem := store (store s.mem sp 8 (s.x a)) (sp + BitVec.ofNat 64 8) 8 (s.x b) }.next
  | .stpFrame a b imm =>
    some { s with
      mem := store (store s.mem (s.sp + BitVec.ofNat 64 imm) 8 (s.x a)) (s.sp + BitVec.ofNat 64 (imm + 8)) 8
        (s.x b) }.next
  | .strFrame a imm => some { s with mem := store s.mem (s.sp + BitVec.ofNat 64 imm) 8 (s.x a) }.next
  | .ldpFrame a b imm =>
    some ((s.set a (load s.mem (s.sp + BitVec.ofNat 64 imm) 8)).set b
      (load s.mem (s.sp + BitVec.ofNat 64 (imm + 8)) 8)).next
  | .ldrFrame a imm => some (s.set a (load s.mem (s.sp + BitVec.ofNat 64 imm) 8)).next
  | .ldpPop a b imm =>
    let loaded := (s.set a (load s.mem s.sp 8)).set b (load s.mem (s.sp + BitVec.ofNat 64 8) 8)
    some { loaded with sp := s.sp + BitVec.ofNat 64 imm }.next
  | .b l => some { s with pc := find code l }
  | .bCond c l => some (if c.holds s.flags then { s with pc := find code l } else s.next)
  | .cbz n l => some (if s.x n = 0 then { s with pc := find code l } else s.next)
  | .cbnz n l => some (if s.x n ≠ 0 then { s with pc := find code l } else s.next)
  | .bl _ => none
  | .tail _ => none
  | .ret => none

variable (calls : symbol → State → State → Prop)

/-- A step inside the routine, or a call that returns. -/
inductive Step : State → State → Prop
  | exec {s s' : State} {i : Instr label symbol} (fetched : code[s.pc]? = some i)
    (done : exec code addr s i = some s') : Step s s'
  | call {s s' : State} {f : symbol} (fetched : code[s.pc]? = some (.bl f)) (returned : calls f s s') :
      Step s { s' with pc := s.pc + 1 }

/-- Runs from one state to another. -/
def Run : State → State → Prop := Relation.ReflTransGen (Step code addr calls)

/-- Where the routine returns. -/
def Returned (s : State) : Prop := code[s.pc]? = some .ret

instance (s : State) : Decidable (Returned code s) := inferInstanceAs (Decidable (code[s.pc]? = some .ret))

/-- As many steps as can be taken without a call, up to `n`. -/
def runFor : Nat → State → State
  | 0, s => s
  | n+1, s => match code[s.pc]? with
    | none => s
    | some i => match exec code addr s i with
      | none => s
      | some s' => runFor n s'

theorem runFor_run (n : Nat) (s : State) : Run code addr calls s (runFor code addr n s) := by
  induction n generalizing s with
  | zero => exact .refl
  | succ n ih =>
    rw [runFor]
    cases fetched : code[s.pc]? with
    | none => exact .refl
    | some i =>
      dsimp only
      cases done : exec code addr s i with
      | none => exact .refl
      | some s' => exact .head (.exec fetched done) (ih s')

end

/-! ### What an instruction changes -/

section
variable {label symbol : Type}

/-- The registers that are written. -/
def Instr.written : Instr label symbol → List Reg
  | .mov d _ => [d]
  | .movImm d _ => [d]
  | .movk d _ _ => [d]
  | .adr d _ => [d]
  | .add d _ _ => [d]
  | .addImm d _ _ => [d]
  | .subImm d _ _ => [d]
  | .ldr _ d _ _ => [d]
  | .ldrIndex _ d _ _ => [d]
  | .ldpFrame d d' _ => [d,d']
  | .ldrFrame d _ => [d]
  | .ldpPop d d' _ => [d,d']
  | _ => []

/-- The octets that are written, where they are not those of the frame. -/
def Instr.stores : Instr label symbol → Bool
  | .str _ _ _ _ => true
  | .strIndex _ _ _ _ => true
  | _ => false

/-- What belongs into a prologue or an epilogue. -/
def Instr.framing : Instr label symbol → Bool
  | .stpPush _ _ _ => true
  | .stpFrame _ _ _ => true
  | .strFrame _ _ => true
  | .ldpPop _ _ _ => true
  | .ret => true
  | _ => false

def Instr.target : Instr label symbol → Option label
  | .b l => some l
  | .bCond _ l => some l
  | .cbz _ l => some l
  | .cbnz _ l => some l
  | _ => none

variable [DecidableEq label] [DecidableEq symbol] {code : List (Instr label symbol)} {addr : symbol → Word}
variable {s s' : State} {i : Instr label symbol}

theorem exec_pc (done : exec code addr s i = some s') :
    s'.pc = s.pc + 1 ∨ ∃ l, i.target = some l ∧ s'.pc = find code l := by
  cases i with
  | b l => cases done; exact .inr ⟨l,rfl,rfl⟩
  | bCond c l =>
    cases done
    by_cases taken : c.holds s.flags
    · exact .inr ⟨l,rfl,by rw [if_pos taken]⟩
    · exact .inl (by rw [if_neg taken]; rfl)
  | cbz n l =>
    cases done
    by_cases taken : s.x n = 0
    · exact .inr ⟨l,rfl,by rw [if_pos taken]⟩
    · exact .inl (by rw [if_neg taken]; rfl)
  | cbnz n l =>
    cases done
    by_cases taken : s.x n ≠ 0
    · exact .inr ⟨l,rfl,by rw [if_pos taken]⟩
    · exact .inl (by rw [if_neg taken]; rfl)
  | bl f => cases done
  | tail f => cases done
  | ret => cases done
  | _ => cases done; exact .inl rfl

theorem exec_kept {r : Reg} (done : exec code addr s i = some s') (kept : r ∉ i.written) : s'.x r = s.x r := by
  have set_other {t : State} {d : Reg} {v : Word} (other : r ≠ d) : (t.set d v).x r = t.x r :=
    Function.update_of_ne other _ _
  cases i with
  | bl f => cases done
  | tail f => cases done
  | ret => cases done
  | ldpFrame a b imm =>
    cases done
    simp only [Instr.written,List.mem_cons,List.not_mem_nil,or_false,not_or] at kept
    exact (set_other kept.2).trans (set_other kept.1)
  | ldpPop a b imm =>
    cases done
    simp only [Instr.written,List.mem_cons,List.not_mem_nil,or_false,not_or] at kept
    exact (set_other kept.2).trans (set_other kept.1)
  | bCond c l => cases done; split <;> rfl
  | cbz n l => cases done; split <;> rfl
  | cbnz n l => cases done; split <;> rfl
  | _ =>
    cases done
    first
    | rfl
    | exact set_other (by simpa [Instr.written] using kept)

theorem exec_sp (done : exec code addr s i = some s') (body : i.framing = false) : s'.sp = s.sp := by
  cases i with
  | bCond c l => cases done; split <;> rfl
  | cbz n l => cases done; split <;> rfl
  | cbnz n l => cases done; split <;> rfl
  | bl f => cases done
  | tail f => cases done
  | _ =>
    first
    | cases body; done
    | cases done; rfl

theorem exec_mem (done : exec code addr s i = some s') (body : i.framing = false) (quiet : i.stores = false) :
    s'.mem = s.mem := by
  cases i with
  | bCond c l => cases done; split <;> rfl
  | cbz n l => cases done; split <;> rfl
  | cbnz n l => cases done; split <;> rfl
  | bl f => cases done
  | tail f => cases done
  | _ =>
    first
    | cases body; done
    | cases quiet; done
    | cases done; rfl

/-- A run that goes on goes on with the instruction at hand. -/
theorem Run.behind {calls : symbol → State → State → Prop} {t : State} (fetched : code[s.pc]? = some i)
    (done : exec code addr s i = some s') (run : Run code addr calls s t) (returned : Returned code t) :
        Run code addr calls s' t := by
  cases run.cases_head with
  | inl same =>
    subst same
    rw [Returned,fetched] at returned
    cases returned
    cases done
  | inr more =>
    obtain ⟨s₁,step,rest⟩ := more
    cases step with
    | exec fetched' done' =>
      cases fetched.symm.trans fetched'
      cases done.symm.trans done'
      exact rest
    | call fetched' =>
      cases fetched.symm.trans fetched'
      cases done

/-- Nothing follows a return. -/
theorem Run.ended {calls : symbol → State → State → Prop} {t : State} (returned : Returned code s)
    (run : Run code addr calls s t) : t = s := by
  cases run.cases_head with
  | inl same => exact same.symm
  | inr more =>
    obtain ⟨s₁,step,_⟩ := more
    cases step with
    | exec fetched' done' =>
      cases returned.symm.trans fetched'
      cases done'
    | call fetched' => cases returned.symm.trans fetched'

end

/-! ### What a call keeps -/

/-- What AAPCS64 has a routine keep: `x19` to `x28`, `sp`, and the octets of its caller. -/
structure Conforms (size : Nat) (s s' : State) : Prop where
  saved : ∀ r : Reg, 19 ≤ r.val → r.val ≤ 28 → s'.x r = s.x r
  sp : s'.sp = s.sp
  frame : ∀ i < size, s'.mem (s.sp + BitVec.ofNat 64 i) = s.mem (s.sp + BitVec.ofNat 64 i)

/-- `x19` to `x28` and `sp` as they were. -/
structure Preserved (s s' : State) : Prop where
  saved : ∀ r : Reg, 19 ≤ r.val → r.val ≤ 28 → s'.x r = s.x r
  sp : s'.sp = s.sp

end Sarm.Aarch64
