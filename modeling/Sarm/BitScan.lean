import Mathlib.Data.List.Basic
import Mathlib.Data.Nat.Bitwise

/-!
Searches without branches: vector lanes that hold a yes or a no, narrowed and folded to the least
index, and the lowest set bit of a word.
-/
namespace Sarm.BitScan

/-! ### Lanes -/

section Lanes
variable {α : Type} {w : Nat}

/-- A lane of ones, or of zeros. -/
def mask (w : Nat) (b : Bool) : BitVec w := if b then BitVec.allOnes w else 0#w

/-- `cmeq`: the lanes that are equal. -/
def cmeq (a b : List (BitVec w)) : List (BitVec w) := List.zipWith (fun x y => mask w (x == y)) a b

/-- The same register in lanes of half the width, the lower half of each first. -/
def halves (w : Nat) (a : List (BitVec (2 * w))) : List (BitVec w) :=
  a.flatMap fun x => [x.extractLsb' 0 w,x.extractLsb' w w]

def evens : List α → List α
  | x :: _ :: l => x :: evens l
  | l => l

/-- `uzp1`: the even lanes of two registers. -/
def uzp1 (a b : List α) : List α := evens (a ++ b)

/-- `orn`: the first, or the complement of the second. -/
def orn (a b : List (BitVec w)) : List (BitVec w) := List.zipWith (fun x y => x ||| ~~~y) a b

def least (x y : BitVec w) : BitVec w := if x ≤ y then x else y

/-- `umin`, lane by lane. -/
def umin (a b : List (BitVec w)) : List (BitVec w) := List.zipWith least a b

/-- `uminv`, across the lanes. -/
def uminv (a : List (BitVec w)) : BitVec w := a.foldl least (BitVec.allOnes w)

theorem evens_halves (l : List Bool) : evens (halves w (l.map (mask (2 * w)))) = l.map (mask w) := by
  induction l with
  | nil => rfl
  | cons b l ih =>
    have lower : (mask (2 * w) b).extractLsb' 0 w = mask w b := by
      apply BitVec.eq_of_getLsbD_eq
      intro i inside
      cases b
      · simp [mask]
      · simp [mask,inside,show i < 2 * w by omega]
    have split : halves w ((b :: l).map (mask (2 * w))) =
        (mask (2 * w) b).extractLsb' 0 w :: (mask (2 * w) b).extractLsb' w w :: halves w (l.map (mask (2 * w))) := rfl
    rw [split,evens,ih,lower,List.map_cons]

/-- Narrowing two registers of yes and no keeps the order of the lanes. -/
theorem uzp1_halves (l l' : List Bool) :
    uzp1 (halves w (l.map (mask (2 * w)))) (halves w (l'.map (mask (2 * w)))) = (l ++ l').map (mask w) := by
  rw [uzp1,halves,halves,← List.flatMap_append,← List.map_append]
  exact evens_halves (l ++ l')

theorem cmeq_splat (a : List (BitVec w)) (x : BitVec w) :
    cmeq a (List.replicate a.length x) = (a.map (· == x)).map (mask w) := by
  induction a with
  | nil => rfl
  | cons y a ih =>
    rw [List.length_cons,List.replicate_succ,cmeq,List.zipWith_cons_cons,← cmeq,ih,List.map_cons,List.map_cons]

/-- A number where the answer is yes, ones where it is no. -/
theorem orn_mask {β : Type} (l : List β) (f : β → BitVec w) (p : β → Bool) :
    orn (l.map f) ((l.map p).map (mask w)) = l.map fun i => if p i then f i else BitVec.allOnes w := by
  rw [orn,List.map_map,List.zipWith_map,List.zipWith_self]
  apply List.map_congr_left
  intro i _
  cases answer : p i <;> simp [mask,answer]

theorem umin_map {β : Type} (l : List β) (f g : β → BitVec w) :
    umin (l.map f) (l.map g) = l.map fun i => least (f i) (g i) := by
  rw [umin,List.zipWith_map,List.zipWith_self]

theorem least_le_left (x y : BitVec w) : least x y ≤ x := by
  rw [least]
  split
  · exact BitVec.le_refl x
  · next greater => exact BitVec.le_of_lt (BitVec.not_le.mp greater)

theorem least_le_right (x y : BitVec w) : least x y ≤ y := by
  rw [least]
  split
  next smaller => exact smaller
  next => exact BitVec.le_refl y

theorem least_cases (x y : BitVec w) : least x y = x ∨ least x y = y := by
  rw [least]
  split
  · exact .inl rfl
  · exact .inr rfl

theorem foldl_least (a : List (BitVec w)) : ∀ best, (a.foldl least best = best ∨ a.foldl least best ∈ a) ∧
    a.foldl least best ≤ best ∧ ∀ x ∈ a, a.foldl least best ≤ x := by
  induction a with
  | nil => intro best; exact ⟨.inl rfl,BitVec.le_refl best,List.forall_mem_nil _⟩
  | cons x a ih =>
    intro best
    obtain ⟨member,lower,lowest⟩ := ih (least best x)
    rw [List.foldl_cons]
    refine ⟨?_,BitVec.le_trans lower (least_le_left best x),
      List.forall_mem_cons.mpr ⟨BitVec.le_trans lower (least_le_right best x),lowest⟩⟩
    rcases member with same | member
    · rw [same]
      rcases least_cases best x with first | second
      · exact .inl first
      · rw [second]
        exact .inr List.mem_cons_self
    · exact .inr (List.mem_cons_of_mem x member)

theorem uminv_mem (a : List (BitVec w)) : uminv a = BitVec.allOnes w ∨ uminv a ∈ a := (foldl_least a _).1

theorem uminv_le {a : List (BitVec w)} {x : BitVec w} (member : x ∈ a) : uminv a ≤ x := (foldl_least a _).2.2 x member

/-- Two registers folded lane by lane and then across the lanes: the least of all. -/
theorem uminv_least (f : Nat → BitVec w) (n : Nat) :
    (∀ i < n + n, uminv ((List.range n).map fun i => least (f i) (f (n + i))) ≤ f i) ∧
      (uminv ((List.range n).map fun i => least (f i) (f (n + i))) = BitVec.allOnes w ∨
        ∃ i < n + n, uminv ((List.range n).map fun i => least (f i) (f (n + i))) = f i) := by
  constructor
  · intro i inside
    by_cases low : i < n
    · exact BitVec.le_trans (uminv_le (List.mem_map_of_mem (List.mem_range.mpr low))) (least_le_left _ _)
    · obtain ⟨j,rfl⟩ := Nat.exists_eq_add_of_le (Nat.not_lt.mp low)
      exact BitVec.le_trans
        (uminv_le (List.mem_map_of_mem (List.mem_range.mpr (Nat.add_lt_add_iff_left.mp inside))))
        (least_le_right _ _)
  · rcases uminv_mem ((List.range n).map fun i => least (f i) (f (n + i))) with ones | member
    · exact .inl ones
    · obtain ⟨i,listed,same⟩ := List.mem_map.mp member
      have inside := List.mem_range.mp listed
      rw [← same]
      rcases least_cases (f i) (f (n + i)) with first | second
      · exact .inr ⟨i,by omega,first⟩
      · exact .inr ⟨n + i,by omega,second⟩

end Lanes

/-! ### Bits -/

section Bits
variable {w : Nat} {x : BitVec w}

/-- `rbit` and `clz`: the position of the lowest set bit, the width where none is set. -/
def lowest (x : BitVec w) : Nat := x.reverse.clz.toNat

/-- The word without its lowest set bit. -/
def dropLowest (x : BitVec w) : BitVec w := x &&& (x - 1#w)

def setBits (x : BitVec w) : List Nat := (List.range w).filter (x.getLsbD ·)

theorem lowest_zero : lowest (0#w) = w := by
  have none_ : (0#w).reverse.clz = BitVec.ofNat w w := BitVec.clz_eq_iff_eq_zero.mpr (BitVec.reverse_eq_zero_iff.mpr rfl)
  rw [lowest,none_,BitVec.toNat_ofNat,Nat.mod_eq_of_lt Nat.lt_two_pow_self]

theorem lowest_set (some_ : x ≠ 0#w) : x.getLsbD (lowest x) = true := BitVec.getLsbD_true_ctz_of_ne_zero some_

theorem lowest_first {i : Nat} (before : i < lowest x) : x.getLsbD i = false := BitVec.getLsbD_false_of_lt_ctz before

theorem lowest_lt (some_ : x ≠ 0#w) : lowest x < w := BitVec.lt_of_getLsbD (lowest_set some_)

/-- A number by the bits behind its lowest one. -/
theorem toNat_lowest (some_ : x ≠ 0#w) : x.toNat = 2^(lowest x + 1) * (x.toNat / 2^(lowest x + 1)) + 2^lowest x := by
  have rest : x.toNat % 2^(lowest x + 1) = 2^lowest x := by
    apply Nat.eq_of_testBit_eq
    intro i
    rw [Nat.testBit_mod_two_pow,Nat.testBit_two_pow]
    rcases Nat.lt_trichotomy i (lowest x) with before | here | behind
    · have clear : x.toNat.testBit i = false := lowest_first before
      rw [clear,Bool.and_false,decide_eq_false (by omega)]
    · have set : x.toNat.testBit (lowest x) = true := lowest_set some_
      rw [here,set,decide_eq_true (by omega),decide_eq_true rfl]
      rfl
    · rw [decide_eq_false (by omega),decide_eq_false (by omega),Bool.false_and]
  rw [← rest]
  exact (Nat.div_add_mod _ _).symm

theorem dropLowest_bit (some_ : x ≠ 0#w) (i : Nat) :
    (dropLowest x).getLsbD i = (x.getLsbD i && decide (i ≠ lowest x)) := by
  have inside := lowest_lt some_
  have split := toNat_lowest some_
  have positive := Nat.two_pow_pos (lowest x)
  have less : (x - 1#w).toNat = 2^(lowest x + 1) * (x.toNat / 2^(lowest x + 1)) + (2^lowest x - 1) := by
    rw [BitVec.toNat_sub_of_le,BitVec.toNat_one (by omega)]
    · omega
    · rw [BitVec.le_def,BitVec.toNat_one (by omega)]
      omega
  have bit : x.getLsbD i = (2^(lowest x + 1) * (x.toNat / 2^(lowest x + 1)) + 2^lowest x).testBit i := by
    rw [← split]; rfl
  have below : (x - 1#w).getLsbD i = (2^(lowest x + 1) * (x.toNat / 2^(lowest x + 1)) + (2^lowest x - 1)).testBit i := by
    rw [← less]; rfl
  have larger : 2^lowest x < 2^(lowest x + 1) := by rw [Nat.pow_succ]; omega
  rw [dropLowest,BitVec.getLsbD_and,bit,below,Nat.testBit_two_pow_mul_add _ larger,Nat.testBit_two_pow_mul_add _
    (by omega)]
  split
  · rw [Nat.testBit_two_pow,Nat.testBit_two_pow_sub_one]
    by_cases here : i = lowest x
    · subst here
      simp
    · rw [decide_eq_false (Ne.symm here),Bool.false_and,Bool.false_and]
  · rw [decide_eq_true (by omega),Bool.and_self,Bool.and_true]

theorem setBits_zero : setBits (0#w) = [] := by
  rw [setBits,List.filter_eq_nil_iff]
  intro i _
  simp

/-- The set bits from the lowest on. -/
theorem setBits_cons (some_ : x ≠ 0#w) : setBits x = lowest x :: setBits (dropLowest x) := by
  have inside := lowest_lt some_
  obtain ⟨rest,whole⟩ := Nat.exists_eq_add_of_lt inside
  have split : List.range w = List.range (lowest x) ++ lowest x :: List.range' (lowest x + 1) rest := by
    have joined := @List.range'_append 0 (lowest x) (rest + 1) 1
    rw [Nat.one_mul,Nat.zero_add] at joined
    rw [List.range_eq_range',List.range_eq_range',← List.range'_succ,joined]
    congr 1
  have front : ∀ y : BitVec w, (∀ i < lowest x, y.getLsbD i = false) →
      (List.range (lowest x)).filter (y.getLsbD ·) = [] := by
    intro y clear
    rw [List.filter_eq_nil_iff]
    intro i member
    rw [clear i (List.mem_range.mp member)]
    exact Bool.false_ne_true
  have clear : ∀ i < lowest x, (dropLowest x).getLsbD i = false := by
    intro i before
    rw [dropLowest_bit some_,lowest_first before,Bool.false_and]
  have dropped : (dropLowest x).getLsbD (lowest x) = false := by
    rw [dropLowest_bit some_,decide_eq_false (not_not.mpr rfl),Bool.and_false]
  have behind : (List.range' (lowest x + 1) rest).filter (x.getLsbD ·) = (List.range' (lowest x + 1) rest).filter
      ((dropLowest x).getLsbD ·) := by
    apply List.filter_congr
    intro i member
    have := (List.mem_range'_1.mp member).1
    rw [dropLowest_bit some_,decide_eq_true (show i ≠ lowest x by omega),Bool.and_true]
  rw [setBits,setBits,split,List.filter_append,List.filter_append,front x fun _ => lowest_first,front _ clear,
    List.nil_append,List.nil_append,
    List.filter_cons_of_pos (lowest_set some_),List.filter_cons_of_neg (by rw [dropped]; exact Bool.false_ne_true),behind]

end Bits

end Sarm.BitScan
