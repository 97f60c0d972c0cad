import Sarm.Neon
import Sarm.Octets
import Sarm.Response

/-!
The comparison of strings by blocks of sixteen octets. A block counts as equal if no lane
of it differs or has a NUL; any other, and what is left at the end, is compared octet by
octet.
-/
namespace Sarm.Strings
open Sarm.Memory Sarm.Neon Sarm.H2
open Sarm.Octets (forall_octet)

/-! ### Instructions -/

/-- Lanes of ones where a test of two octets holds. -/
def lanes (test : UInt8 → UInt8 → Bool) (a b : BitVec 128) : BitVec 128 :=
  pack fun k => if test (octet a k) (octet b k) then 0xff else 0

def cmeq (a b : BitVec 128) : BitVec 128 := lanes (fun x y => x == y) a b
/-- `cmhs`, unsigned. -/
def cmhs (a b : BitVec 128) : BitVec 128 := lanes (fun x y => y ≤ x) a b
/-- `dup` of an octet. -/
def dup (x : UInt8) : BitVec 128 := pack fun _ => x
/-- `umaxv`: the greatest of the octets. -/
def umaxv (a : BitVec 128) : UInt8 := ((List.range 16).map (octet a)).foldl max 0

/-! ### The routines -/

section
variable (m : Mem)

/-- The loop over single octets of `streqn`, which is not entered with none left. -/
def streqnBytes : Nat → Nat → Nat → Bool
  | 0, _, _ => true
  | left+1, a, b =>
    if m a ≠ m b then false
    else if m a = 0 then true
    else streqnBytes left (a + 1) (b + 1)

/-- The lanes of two blocks in which `streqn` stops. -/
def stops (v w : BitVec 128) : BitVec 128 := ~~~cmeq v w ||| cmeq v 0

def streqnBlocks (left a b : Nat) : Bool :=
  if left < 16 then streqnBytes m left a b
  else if umaxv (stops (ld1 m a) (ld1 m b)) ≠ 0 then streqnBytes m left a b
  else if left - 16 = 0 then true
  else streqnBlocks (left - 16) (a + 16) (b + 16)
termination_by left

/-- `streqn`. -/
def streqn (a b n : Nat) : Bool := if n = 0 then true else streqnBlocks m n a b

/-- A block in lower case. -/
def lowered (v : BitVec 128) : BitVec 128 :=
  v ||| (cmhs v (dup 'A'.toUInt8) &&& cmhs (dup 'Z'.toUInt8) v &&& dup 0x20)

/-- The lanes of two blocks in which `streqn_i` stops. -/
def stopsI (v w : BitVec 128) : BitVec 128 := cmeq v 0 ||| cmeq w 0 ||| ~~~cmeq (lowered v) (lowered w)

/-- The loop over single octets of `streqn_i`. -/
def streqnIBytes : Nat → Nat → Nat → Bool
  | 0, _, _ => true
  | left+1, a, b =>
    if m a = 0 ∧ m b = 0 then true
    else if m a = 0 then false
    else if m b = 0 then false
    else if foldCase (m a) ≠ foldCase (m b) then false
    else streqnIBytes left (a + 1) (b + 1)

def streqnIBlocks (left a b : Nat) : Bool :=
  if left < 16 then streqnIBytes m left a b
  else
    let stop := stopsI (ld1 m a) (ld1 m b)
    if lo stop ||| hi stop ≠ 0 then streqnIBytes m left a b
    else if left - 16 = 0 then true
    else streqnIBlocks (left - 16) (a + 16) (b + 16)
termination_by left

/-- `streqn_i`. -/
def streqnI (a b n : Nat) : Bool :=
  if n = 0 then true
  else if n < 16 then streqnIBytes m n a b
  else streqnIBlocks m n a b

end

/-! ### Lanes -/

theorem octet_or (a b : BitVec 128) (k : Nat) : octet (a ||| b) k = octet a k ||| octet b k := by
  apply octet_ext
  intro i small
  rw [bit_octet _ _ small,UInt8.toBitVec_or,BitVec.getLsbD_or,BitVec.getLsbD_or,bit_octet _ _ small,bit_octet _ _ small]

theorem octet_and (a b : BitVec 128) (k : Nat) : octet (a &&& b) k = octet a k &&& octet b k := by
  apply octet_ext
  intro i small
  rw [bit_octet _ _ small,UInt8.toBitVec_and,BitVec.getLsbD_and,BitVec.getLsbD_and,bit_octet _ _ small,
    bit_octet _ _ small]

theorem octet_not (a : BitVec 128) {k : Nat} (inside : k < 16) : octet (~~~a) k = ~~~octet a k := by
  apply octet_ext
  intro i small
  rw [bit_octet _ _ small,UInt8.toBitVec_not,BitVec.getLsbD_not,BitVec.getLsbD_not,bit_octet _ _ small]
  simp [small]
  omega

theorem octet_lanes (test : UInt8 → UInt8 → Bool) (a b : BitVec 128) {k : Nat} (inside : k < 16) :
    octet (lanes test a b) k = if test (octet a k) (octet b k) then 0xff else 0 := octet_pack _ inside

theorem foldl_max {l : List UInt8} {start : UInt8} : l.foldl max start = 0 ↔ start = 0 ∧ ∀ x ∈ l, x = 0 := by
  have both : ∀ x y : UInt8, max x y = 0 ↔ x = 0 ∧ y = 0 := by
    intro x y
    rw [show max x y = if x ≤ y then y else x from rfl,← UInt8.toNat_inj,← UInt8.toNat_inj,← UInt8.toNat_inj]
    split
    · next le =>
      rw [UInt8.le_iff_toNat_le] at le
      simp
      omega
    · next lt =>
      rw [UInt8.le_iff_toNat_le] at lt
      simp
      omega
  induction l generalizing start with
  | nil => simp
  | cons x l ih =>
    have rest := @ih (max start x)
    rw [List.foldl_cons]
    refine rest.trans ?_
    rw [both,List.forall_mem_cons,and_assoc]

/-- The greatest octet is zero if all are. -/
theorem umaxv_zero (v : BitVec 128) : umaxv v = 0 ↔ ∀ k < 16, octet v k = 0 := by
  rw [umaxv,foldl_max]
  simp

/-- The halves have no bits if no octet has. -/
theorem halves_zero (v : BitVec 128) : lo v ||| hi v = 0 ↔ ∀ k < 16, octet v k = 0 := by
  constructor
  · intro none k inside
    have parts : lo v = 0 ∧ hi v = 0 := BitVec.or_eq_zero_iff.mp none
    have whole : v = 0 := by rw [← hi_append_lo v,parts.1,parts.2]; rfl
    rw [whole]
    exact octet_zero k
  · intro none
    have whole : v = 0 := register_ext fun k inside => by rw [none k inside]; exact (octet_zero k).symm
    rw [whole]
    rfl

/-- The vector code folds each octet as the scalar code does. -/
theorem octet_lowered (v : BitVec 128) {k : Nat} (inside : k < 16) : octet (lowered v) k = foldCase (octet v k) := by
  have fold : ∀ x : UInt8,
    x ||| ((if 'A'.toUInt8 ≤ x then 0xff else 0) &&& (if x ≤ 'Z'.toUInt8 then 0xff else 0) &&& 0x20) = foldCase x :=
    forall_octet (by decide +kernel)
  rw [← fold,lowered,octet_or,octet_and,octet_and,cmhs,cmhs,octet_lanes _ _ _ inside,octet_lanes _ _ _ inside,dup,dup,dup,
    octet_pack _ inside,octet_pack _ inside,octet_pack _ inside]
  simp only [decide_eq_true_eq]

/-- A lane of ones does not vanish, nor does its complement where it has none. -/
theorem lane_or (p q : Prop) [Decidable p] [Decidable q] :
    ~~~(if p then (0xff : UInt8) else 0) ||| (if q then 0xff else 0) = 0 ↔ p ∧ ¬q := by
  by_cases yes : p <;> by_cases also : q <;> simp only [yes,also,if_true,if_false] <;> decide

/-- `streqn` stops in a block at a difference, or at a NUL. -/
theorem stops_zero (v w : BitVec 128) : umaxv (stops v w) = 0 ↔ ∀ k < 16, octet v k = octet w k ∧ octet v k ≠ 0 := by
  rw [umaxv_zero]
  refine forall₂_congr fun k inside => ?_
  have zero : octet (0 : BitVec 128) k = 0 := octet_zero k
  rw [stops,octet_or,octet_not _ inside,cmeq,cmeq,octet_lanes _ _ _ inside,octet_lanes _ _ _ inside,zero]
  simp only [beq_iff_eq]
  exact lane_or _ _

/-- `streqn_i` at a difference in more than the case, or at a NUL in either. -/
theorem stopsI_zero (v w : BitVec 128) : lo (stopsI v w) ||| hi (stopsI v w) = 0 ↔
    ∀ k < 16, foldCase (octet v k) = foldCase (octet w k) ∧ octet v k ≠ 0 ∧ octet w k ≠ 0 := by
  rw [halves_zero]
  refine forall₂_congr fun k inside => ?_
  have zero : octet (0 : BitVec 128) k = 0 := octet_zero k
  rw [stopsI,octet_or,octet_or,octet_not _ inside,cmeq,cmeq,cmeq,octet_lanes _ _ _ inside,octet_lanes _ _ _ inside,
    octet_lanes _ _ _ inside,octet_lowered v inside,octet_lowered w inside,zero]
  have either : ∀ p q : Prop, ∀ [Decidable p] [Decidable q],
      (if p then (0xff : UInt8) else 0) ||| (if q then 0xff else 0) = if p ∨ q then 0xff else 0 := by
    intro p q _ _
    by_cases yes : p <;> by_cases also : q <;> simp only [yes,also,if_true,if_false,or_true,true_or,or_self] <;> decide
  simp only [beq_iff_eq]
  rw [either,UInt8.or_comm,lane_or,not_or]

/-! ### Against the scalar comparison -/

/-- The strings at two addresses are equal in `n` octets, up to a NUL in both, as far as
    the octets are told apart. -/
def Matches (fold : UInt8 → UInt8) (m : Mem) (a b n : Nat) : Prop :=
  ∀ i < n, (∀ j < i, m (a + j) ≠ 0) → fold (m (a + i)) = fold (m (b + i))

section Matching
variable {fold : UInt8 → UInt8} {m : Mem} {a b n : Nat}

theorem matches_zero : Matches fold m a b 0 := fun _ none => absurd none (Nat.not_lt_zero _)

/-- Octets that are equal and no NUL are gone past. -/
theorem matches_skip (k : Nat) (same : ∀ i < k, fold (m (a + i)) = fold (m (b + i)) ∧ m (a + i) ≠ 0) :
    Matches fold m a b (k + n) ↔ Matches fold m (a + k) (b + k) n := by
  constructor
  · intro whole i inside before
    rw [Nat.add_assoc,Nat.add_assoc]
    refine whole (k + i) (by omega) fun j low => ?_
    by_cases front : j < k
    · exact (same j front).2
    · have later := before (j - k) (by omega)
      rwa [show a + k + (j - k) = a + j by omega] at later
  · intro rest i inside before
    by_cases front : i < k
    · exact (same i front).1
    · have here := rest (i - k) (by omega) fun j low => by
        rw [show a + k + j = a + (k + j) by omega]
        exact before (k + j) (by omega)
      rwa [show a + k + (i - k) = a + i by omega,show b + k + (i - k) = b + i by omega] at here

theorem matches_succ : Matches fold m a b (n + 1) ↔
    fold (m a) = fold (m b) ∧ (m a ≠ 0 → Matches fold m (a + 1) (b + 1) n) := by
  constructor
  · intro whole
    have first : fold (m a) = fold (m b) := whole 0 (Nat.succ_pos n) fun j low => absurd low (Nat.not_lt_zero j)
    refine ⟨first,fun other => ?_⟩
    rw [← matches_skip 1 fun i inside => by
      obtain rfl : i = 0 := by omega
      exact ⟨first,other⟩,Nat.add_comm 1]
    exact whole
  · rintro ⟨first,rest⟩ i inside before
    cases i with
    | zero => exact first
    | succ i =>
      have later := rest (before 0 (Nat.succ_pos i)) i (by omega) fun j low => by
        rw [Nat.add_assoc,Nat.add_comm 1]
        exact before (j + 1) (by omega)
      rwa [Nat.add_assoc,Nat.add_assoc,Nat.add_comm 1] at later

end Matching

variable {m : Mem}

theorem streqnBytes_iff : ∀ (left a b : Nat), streqnBytes m left a b = true ↔ Matches id m a b left := by
  intro left
  induction left with
  | zero => intro a b; exact iff_of_true rfl matches_zero
  | succ left ih =>
    intro a b
    rw [streqnBytes,matches_succ,← ih]
    by_cases same : m a = m b
    · by_cases nul : m a = 0
      · simp [← same,nul]
      · simp [← same,nul]
    · simp [same]

theorem streqnBlocks_iff (left a b : Nat) : streqnBlocks m left a b = true ↔ Matches id m a b left := by
  induction left using Nat.strong_induction_on generalizing a b with
  | _ left ih =>
    rw [streqnBlocks]
    by_cases short : left < 16
    · rw [if_pos short,streqnBytes_iff]
    rw [if_neg short]
    by_cases stop : umaxv (stops (ld1 m a) (ld1 m b)) = 0
    · have same : ∀ i < 16, id (m (a + i)) = id (m (b + i)) ∧ m (a + i) ≠ 0 := by
        intro i inside
        have lane := (stops_zero _ _).mp stop i inside
        rwa [octet_ld1 _ _ inside,octet_ld1 _ _ inside] at lane
      have skip := @matches_skip id m a b (left - 16) 16 same
      rw [show 16 + (left - 16) = left by omega] at skip
      rw [if_neg (not_not.mpr stop),skip]
      by_cases done : left - 16 = 0
      · rw [if_pos done,done]
        exact iff_of_true rfl matches_zero
      · rw [if_neg done,ih (left - 16) (by omega)]
    · rw [if_pos stop,streqnBytes_iff]

theorem streqnIBytes_iff : ∀ (left a b : Nat), streqnIBytes m left a b = true ↔ Matches foldCase m a b left := by
  have zero : foldCase 0 = 0 := by decide
  intro left
  induction left with
  | zero => intro a b; exact iff_of_true rfl matches_zero
  | succ left ih =>
    intro a b
    rw [streqnIBytes,matches_succ,← ih]
    by_cases first : m a = 0
    · by_cases second : m b = 0
      · simp [first,second]
      · rw [if_neg fun both => second both.2,if_pos first,first]
        exact iff_of_false nofun fun same => second (foldCase_zero same.1.symm)
    · rw [if_neg fun both => first both.1,if_neg first]
      by_cases second : m b = 0
      · rw [if_pos second,second]
        exact iff_of_false nofun fun same => first (foldCase_zero same.1)
      · rw [if_neg second]
        by_cases same : foldCase (m a) = foldCase (m b)
        · simp [same,first]
        · simp [same]

theorem streqnIBlocks_iff (left a b : Nat) : streqnIBlocks m left a b = true ↔ Matches foldCase m a b left := by
  induction left using Nat.strong_induction_on generalizing a b with
  | _ left ih =>
    rw [streqnIBlocks]
    dsimp only
    by_cases short : left < 16
    · rw [if_pos short,streqnIBytes_iff]
    rw [if_neg short]
    by_cases stop : lo (stopsI (ld1 m a) (ld1 m b)) ||| hi (stopsI (ld1 m a) (ld1 m b)) = 0
    · have same : ∀ i < 16, foldCase (m (a + i)) = foldCase (m (b + i)) ∧ m (a + i) ≠ 0 := by
        intro i inside
        have lane := (stopsI_zero _ _).mp stop i inside
        rw [octet_ld1 _ _ inside,octet_ld1 _ _ inside] at lane
        exact ⟨lane.1,lane.2.1⟩
      have skip := @matches_skip foldCase m a b (left - 16) 16 same
      rw [show 16 + (left - 16) = left by omega] at skip
      rw [if_neg (not_not.mpr stop),skip]
      by_cases done : left - 16 = 0
      · rw [if_pos done,done]
        exact iff_of_true rfl matches_zero
      · rw [if_neg done,ih (left - 16) (by omega)]
    · rw [if_pos stop,streqnIBytes_iff]

/-- The two cases of one letter. -/
def OtherCase (x y : UInt8) : Prop := 'A'.toUInt8 ≤ x ∧ x ≤ 'Z'.toUInt8 ∧ y = x + 0x20

theorem foldCase_upper {x : UInt8} (upper : 'A'.toUInt8 ≤ x ∧ x ≤ 'Z'.toUInt8) : foldCase x = x + 0x20 := if_pos upper

theorem foldCase_other {x : UInt8} (other : ¬('A'.toUInt8 ≤ x ∧ x ≤ 'Z'.toUInt8)) : foldCase x = x := if_neg other

/-- A capital and its small letter fold to the same. -/
theorem OtherCase.fold {x y : UInt8} (pair : OtherCase x y) : foldCase x = foldCase y := by
  have small : ∀ x : UInt8, 'A'.toUInt8 ≤ x ∧ x ≤ 'Z'.toUInt8 → foldCase (x + 0x20) = x + 0x20 :=
    forall_octet (by decide +kernel)
  obtain ⟨low,high,rfl⟩ := pair
  rw [foldCase_upper ⟨low,high⟩,small x ⟨low,high⟩]

/-- Folding tells apart all octets but the two cases of a letter. -/
theorem foldCase_inj (x y : UInt8) : foldCase x = foldCase y ↔ x = y ∨ OtherCase x y ∨ OtherCase y x := by
  constructor
  · intro same
    by_cases first : 'A'.toUInt8 ≤ x ∧ x ≤ 'Z'.toUInt8
    · by_cases second : 'A'.toUInt8 ≤ y ∧ y ≤ 'Z'.toUInt8
      · rw [foldCase_upper first,foldCase_upper second] at same
        exact .inl ((UInt8.add_left_inj 0x20).mp same)
      · rw [foldCase_upper first,foldCase_other second] at same
        exact .inr (.inl ⟨first.1,first.2,same.symm⟩)
    · by_cases second : 'A'.toUInt8 ≤ y ∧ y ≤ 'Z'.toUInt8
      · rw [foldCase_other first,foldCase_upper second] at same
        exact .inr (.inr ⟨second.1,second.2,same⟩)
      · rw [foldCase_other first,foldCase_other second] at same
        exact .inl same
  · rintro (rfl | pair | pair)
    · rfl
    · exact pair.fold
    · exact pair.fold.symm

/-! ### Against the comparison of lists -/

theorem list_streqn (n a b : Nat) : H2.streqn (slice m a n) (slice m b n) = true ↔ Matches id m a b n := by
  induction n generalizing a b with
  | zero => exact iff_of_true rfl matches_zero
  | succ n ih =>
    rw [slice_succ,slice_succ,H2.streqn,matches_succ,← ih]
    by_cases nul : m a = 0 <;> simp [nul]

theorem list_streqnI (n a b : Nat) : H2.streqnI (slice m a n) (slice m b n) = true ↔ Matches foldCase m a b n := by
  rw [← streqnIBytes_iff]
  induction n generalizing a b with
  | zero => rfl
  | succ n ih =>
    rw [slice_succ,slice_succ,H2.streqnI,streqnIBytes,← Bool.eq_iff_iff,← Bool.eq_iff_iff.mpr (ih (a + 1) (b + 1))]
    by_cases first : m a = 0 <;> by_cases second : m b = 0 <;> by_cases same : foldCase (m a) = foldCase (m b) <;>
      simp [first,second,same]

/-- The routines on memory are those on the strings that are there. -/
theorem streqn_list (m : Mem) (a b n : Nat) : streqn m a b n = H2.streqn (slice m a n) (slice m b n) := by
  rw [Bool.eq_iff_iff,list_streqn,streqn]
  split
  · next none => rw [none]; exact iff_of_true rfl matches_zero
  · exact streqnBlocks_iff n a b

theorem streqnI_list (m : Mem) (a b n : Nat) : streqnI m a b n = H2.streqnI (slice m a n) (slice m b n) := by
  rw [Bool.eq_iff_iff,list_streqnI,streqnI]
  split
  · next none => rw [none]; exact iff_of_true rfl matches_zero
  · split
    · exact streqnIBytes_iff n a b
    · exact streqnIBlocks_iff n a b

/-- The routines compare as the loops over single octets would: equal up to a NUL, the one
    exactly, the other but for the case of letters. -/
theorem streqn_scalar (m : Mem) (a b n : Nat) :
    (streqn m a b n = true ↔ Matches id m a b n) ∧ (streqnI m a b n = true ↔ Matches foldCase m a b n) ∧
      ∀ x y, foldCase x = foldCase y ↔ x = y ∨ OtherCase x y ∨ OtherCase y x := by
  rw [streqn_list,streqnI_list]
  exact ⟨list_streqn n a b,list_streqnI n a b,foldCase_inj⟩

end Sarm.Strings
