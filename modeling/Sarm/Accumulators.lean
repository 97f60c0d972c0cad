import Mathlib.Algebra.Order.Ring.Abs
import Mathlib.Tactic.LinearCombination
import Sarm.Words

/-!
Machine words as signed accumulators for the digits of a number: multiples of a digit are added
where they fall, and carries are propagated once at the end.
-/
namespace Sarm.Accumulators
open Sarm.Words

variable {w : Nat} (d : Nat)

/-- The number whose digits, of `d` bits each, have been accumulated. -/
def total : List (BitVec w) → Int
  | [] => 0
  | x :: xs => x.toInt + 2^d * total xs

theorem total_append (xs ys : List (BitVec w)) : total d (xs ++ ys) = total d xs + 2^(d * xs.length) * total d ys := by
  induction xs with
  | nil => simp [total]
  | cons x xs ih =>
    rw [List.cons_append,total,total,ih,List.length_cons,Nat.mul_succ,pow_add]
    ring

theorem total_bounds {xs : List (BitVec w)} (small : ∀ x ∈ xs, 0 ≤ x.toInt ∧ x.toInt ≤ 2^d - 1) :
    0 ≤ total d xs ∧ total d xs ≤ 2^(d * xs.length) - 1 := by
  induction xs with
  | nil => simp [total]
  | cons x xs ih =>
    obtain ⟨first,rest⟩ := List.forall_mem_cons.mp small
    obtain ⟨low,high⟩ := ih rest
    have positive : (0 : Int) < 2^d := by positivity
    rw [total,List.length_cons,Nat.mul_succ,pow_add]
    constructor
    · nlinarith
    · nlinarith

/-- The number with these digits. -/
def digits : List Int → Int
  | [] => 0
  | k :: ks => k + 2^d * digits ks

/-- The multiples of `c` that a row gives. -/
def addRow (row : List Int) (c : BitVec w) (acc : List (BitVec w)) : List (BitVec w) :=
  acc.zipWith (fun x k => x + BitVec.ofInt w k * c) row

/-- No accumulator is above `b` or below `-b`. -/
def Within (b : Int) (acc : List (BitVec w)) : Prop := ∀ x ∈ acc, -b ≤ x.toInt ∧ x.toInt ≤ b

theorem toInt_multiple {x c : BitVec w} {k : Int} (low : -2^w ≤ (x.toInt + k * c.toInt) * 2)
    (high : (x.toInt + k * c.toInt) * 2 < 2^w) :
    (x + BitVec.ofInt w k * c).toInt = x.toInt + k * c.toInt := by
  rw [BitVec.toInt_add,BitVec.toInt_mul,BitVec.toInt_ofInt,Int.add_bmod_bmod,← Int.add_bmod_bmod,Int.bmod_mul_bmod,
    Int.add_bmod_bmod]
  exact Int.bmod_eq_of_le_mul_two (by push_cast; exact low) (by push_cast; exact high)

/-- While there is room, a row counts as a multiple of its digits. -/
theorem addRow_total {b k most : Int} {row : List Int} {c : BitVec w} {acc : List (BitVec w)}
    (length : acc.length = row.length)
    (within : Within b acc) (small : |c.toInt| ≤ most) (coefficients : ∀ r ∈ row, |r| ≤ k)
    (room : (b + k * most) * 2 < 2^w) :
    total d (addRow row c acc) = total d acc + digits d row * c.toInt ∧ Within (b + k * most) (addRow row c acc) := by
  induction acc generalizing row with
  | nil =>
    obtain rfl : row = [] := List.length_eq_zero_iff.mp length.symm
    exact ⟨by simp [addRow,total,digits],nofun⟩
  | cons x acc ih =>
    obtain _ | ⟨r,row⟩ := row
    · cases length
    have first := within x (List.mem_cons_self ..)
    have coefficient := coefficients r (List.mem_cons_self ..)
    have product : |r * c.toInt| ≤ k * most := by
      rw [abs_mul]
      exact mul_le_mul coefficient small (abs_nonneg _) (le_trans (abs_nonneg r) coefficient)
    have bounds := abs_le.mp product
    have next : (x + BitVec.ofInt w r * c).toInt = x.toInt + r * c.toInt := toInt_multiple (by linarith) (by linarith)
    obtain ⟨same,inside⟩ := ih (Nat.succ.inj length) (fun y mem => within y (List.mem_cons_of_mem _ mem))
      (fun s mem => coefficients s (List.mem_cons_of_mem _ mem))
    rw [addRow] at same inside ⊢
    rw [List.zipWith_cons_cons,total,next,same,total,digits]
    refine ⟨by ring,fun y mem => ?_⟩
    rcases List.mem_cons.mp mem with rfl | mem
    · rw [next]
      constructor <;> linarith
    · exact inside y mem

theorem addRow_length (row : List Int) (c : BitVec w) {acc : List (BitVec w)} (length : acc.length = row.length) :
    (addRow row c acc).length = row.length := by
  rw [addRow,List.length_zipWith,length,Nat.min_self]

/-- A row for each of some words. -/
def addRows : List (List Int) → List (BitVec w) → List (BitVec w) → List (BitVec w)
  | row :: rows,c :: cs,acc => addRows rows cs (addRow row c acc)
  | _,_,acc => acc

/-- What the rows add to the number. -/
def combination : List (List Int) → List (BitVec w) → Int
  | row :: rows,c :: cs => digits d row * c.toInt + combination rows cs
  | _,_ => 0

theorem addRows_total {b k most : Int} {rows : List (List Int)} {cs acc : List (BitVec w)}
    (length : ∀ row ∈ rows, acc.length = row.length)
    (count : cs.length = rows.length) (within : Within b acc) (positive : 0 ≤ k * most)
    (small : ∀ c ∈ cs, |c.toInt| ≤ most)
    (coefficients : ∀ row ∈ rows, ∀ r ∈ row, |r| ≤ k) (room : (b + rows.length * (k * most)) * 2 < 2^w) :
    total d (addRows rows cs acc) = total d acc + combination d rows cs ∧
    Within (b + rows.length * (k * most)) (addRows rows cs acc) ∧
      (addRows rows cs acc).length = acc.length := by
  induction rows generalizing cs acc b with
  | nil => simp [addRows,combination,within]
  | cons row rows ih =>
    obtain _ | ⟨c,cs⟩ := cs
    · cases count
    rw [List.length_cons] at room ⊢
    push_cast at room ⊢
    have least : 0 ≤ (rows.length : Int) * (k * most) := mul_nonneg (Int.natCast_nonneg _) positive
    have first := length row (List.mem_cons_self ..)
    obtain ⟨same,inside⟩ :=
      addRow_total d first within (small c (List.mem_cons_self ..)) (coefficients row (List.mem_cons_self ..))
      (by linarith)
    have width := (addRow_length row c first).trans first.symm
    obtain ⟨rest,inside,width'⟩ :=
      ih (fun r mem => width.trans (length r (List.mem_cons_of_mem _ mem))) (Nat.succ.inj count) inside
      (fun c mem => small c (List.mem_cons_of_mem _ mem)) (fun r mem => coefficients r (List.mem_cons_of_mem _ mem))
        (by linarith)
    rw [addRows,combination,rest,same]
    refine ⟨by ring,fun x mem => ?_,width'.trans width⟩
    have := inside x mem
    constructor <;> linarith

/-- The carries from each accumulator into the next: digits are left, and the last carry. -/
def propagate : List (BitVec w) → BitVec w → List (BitVec w) × BitVec w
  | [],carry => ([],carry)
  | x :: xs,carry =>
    let sum := x + carry
    let (rest,last) := propagate xs (sum.sshiftRight d)
    ((sum &&& BitVec.ofNat w (2^d - 1)) :: rest,last)

theorem propagate_length (xs : List (BitVec w)) (carry : BitVec w) : (propagate d xs carry).1.length = xs.length := by
  induction xs generalizing carry with
  | nil => rfl
  | cons x xs ih => exact congrArg Nat.succ (ih _)

theorem toNat_digit (fits : d ≤ w) (x : BitVec w) : (x &&& BitVec.ofNat w (2^d - 1)).toNat = x.toNat % 2^d := by
  have positive := Nat.two_pow_pos d
  have le := Nat.pow_le_pow_right (n := 2) (by decide) fits
  rw [BitVec.toNat_and,BitVec.toNat_ofNat,Nat.mod_eq_of_lt (by omega),Nat.and_two_pow_sub_one_eq_mod]

/-- A digit is not negative. -/
theorem toInt_digit (fits : d < w) (x : BitVec w) : (x &&& BitVec.ofNat w (2^d - 1)).toInt = x.toInt % 2^d := by
  have divides : (2^d : Int) ∣ ((2^w : Nat) : Int) := by
    push_cast
    exact pow_dvd_pow 2 fits.le
  have digit := toNat_digit d fits.le x
  have small := Nat.mod_lt x.toNat (Nat.two_pow_pos d)
  have half : 2^d * 2 ≤ 2^w := (pow_succ 2 d).symm.trans_le (Nat.pow_le_pow_right (by decide) fits)
  rw [BitVec.toInt_eq_toNat_of_lt (by omega),digit,BitVec.toInt_eq_toNat_bmod,Int.natCast_mod]
  push_cast
  rw [← Int.emod_emod_of_dvd (Int.bmod _ _) divides,Int.bmod_emod,Int.emod_emod_of_dvd _ divides]

/-- What the digits are, and the carry that is left. -/
theorem propagate_total {b : Int} (fits : d < w) (some : 0 < d) {xs : List (BitVec w)} {carry : BitVec w}
    (within : Within b xs)
    (small : -b ≤ carry.toInt ∧ carry.toInt ≤ b) (room : b * 4 < 2^w) :
    total d (propagate d xs carry).1 + 2^(d * xs.length) * (propagate d xs carry).2.toInt = total d xs + carry.toInt ∧
      ∀ x ∈ (propagate d xs carry).1, 0 ≤ x.toInt ∧ x.toInt ≤ 2^d - 1 := by
  induction xs generalizing carry with
  | nil => simp [propagate,total]
  | cons x xs ih =>
    have first := within x (List.mem_cons_self ..)
    have positive : (0 : Int) < 2^d := by positivity
    have sum : (x + carry).toInt = x.toInt + carry.toInt := by
      rw [BitVec.toInt_add]
      exact Int.bmod_eq_of_le_mul_two (by push_cast; linarith) (by push_cast; linarith)
    have shifted : ((x + carry).sshiftRight d).toInt = (x.toInt + carry.toInt) / 2^d := by
      rw [BitVec.toInt_sshiftRight,Int.shiftRight_eq_div_pow,sum]
      push_cast
      rfl
    have half : (2 : Int) ≤ 2^d := by
      rw [show d = d - 1 + 1 by omega,pow_succ]
      have positive : (0 : Int) < 2^(d - 1) := by positivity
      omega
    have small' : -b ≤ ((x + carry).sshiftRight d).toInt ∧ ((x + carry).sshiftRight d).toInt ≤ b := by
      rw [shifted]
      constructor
      · rw [Int.le_ediv_iff_mul_le positive]
        nlinarith
      · refine Int.le_of_lt_add_one (Int.ediv_lt_of_lt_mul positive ?_)
        nlinarith
    obtain ⟨same,inside⟩ := ih (fun y mem => within y (List.mem_cons_of_mem _ mem)) small'
    rw [shifted] at same
    rw [propagate]
    dsimp only
    have division := Int.emod_add_mul_ediv (x.toInt + carry.toInt) (2^d)
    constructor
    · rw [total,toInt_digit d fits,sum,total,List.length_cons,Nat.mul_succ,pow_add]
      linear_combination division + 2^d * same
    · refine List.forall_mem_cons.mpr ⟨?_,inside⟩
      rw [toInt_digit d fits]
      exact ⟨Int.emod_nonneg _ positive.ne',Int.le_sub_one_of_lt (Int.emod_lt_of_pos _ positive)⟩

/-- The carries on the way, the last one included. -/
def carries : List (BitVec w) → BitVec w → List (BitVec w)
  | [],_ => []
  | x :: xs,carry =>
    let next := (x + carry).sshiftRight d
    next :: carries xs next

/-- Accumulators of at most `k` digits have carries of at most `k`. -/
theorem carries_small {k : Int} {xs : List (BitVec w)} {carry : BitVec w} (within : Within (k * (2^d - 1)) xs)
    (small : -k ≤ carry.toInt ∧ carry.toInt ≤ k) (room : k * 2^d * 2 < 2^w) :
    ∀ c ∈ carries d xs carry, -k ≤ c.toInt ∧ c.toInt ≤ k := by
  induction xs generalizing carry with
  | nil => nofun
  | cons x xs ih =>
    have first := within x (List.mem_cons_self ..)
    have digit : (0 : Int) < 2^d := by positivity
    have sum : (x + carry).toInt = x.toInt + carry.toInt := by
      rw [BitVec.toInt_add]
      exact Int.bmod_eq_of_le_mul_two (by push_cast; linarith) (by push_cast; linarith)
    have next : -k ≤ ((x + carry).sshiftRight d).toInt ∧ ((x + carry).sshiftRight d).toInt ≤ k := by
      rw [BitVec.toInt_sshiftRight,Int.shiftRight_eq_div_pow,sum]
      push_cast
      constructor
      · rw [Int.le_ediv_iff_mul_le digit]
        linarith
      · refine Int.le_of_lt_add_one (Int.ediv_lt_of_lt_mul digit ?_)
        linarith
    exact List.forall_mem_cons.mpr ⟨next,ih (fun y mem => within y (List.mem_cons_of_mem _ mem)) next⟩

/-- Words of two digits each. -/
def join : List (BitVec w) → List (BitVec w)
  | low :: high :: rest => (low ||| high <<< d) :: join rest
  | _ => []

theorem join_toNat {low high : BitVec w} (wide : w = 2 * d) (first : low.toNat < 2^d) (second : high.toNat < 2^d) :
    (low ||| high <<< d).toNat = low.toNat + 2^d * high.toNat := by
  have width : (2 : Nat)^w = 2^d * 2^d := by rw [wide,Nat.two_mul,Nat.pow_add]
  have shifted : (high <<< d).toNat = 2^d * high.toNat := by
    rw [BitVec.toNat_shiftLeft,Nat.shiftLeft_eq,Nat.mul_comm,width]
    exact Nat.mod_eq_of_lt (Nat.mul_lt_mul_of_pos_left second (Nat.two_pow_pos d))
  rw [BitVec.toNat_or,shifted,Nat.or_comm,← Nat.two_pow_add_eq_or_of_lt first,Nat.add_comm]

theorem toNat_of_digit {x : BitVec w} (small : 0 ≤ x.toInt ∧ x.toInt ≤ 2^d - 1) : x.toInt = x.toNat ∧ x.toNat < 2^d := by
  have same : x.toInt = x.toNat := by
    rw [BitVec.toInt_eq_toNat_cond] at small ⊢
    split
    · rfl
    · next high =>
      rw [if_neg high] at small
      have := x.isLt
      omega
  refine ⟨same,?_⟩
  zify
  omega

theorem join_spec (wide : w = 2 * d) (n : Nat) {xs : List (BitVec w)} (length : xs.length = 2 * n)
    (small : ∀ x ∈ xs, 0 ≤ x.toInt ∧ x.toInt ≤ 2^d - 1) :
    (join d xs).length = n ∧ (value (join d xs) : Int) = total d xs := by
  induction n generalizing xs with
  | zero =>
    obtain rfl : xs = [] := List.length_eq_zero_iff.mp length
    exact ⟨rfl,rfl⟩
  | succ n ih =>
    obtain _ | ⟨low,_ | ⟨high,xs⟩⟩ := xs
    · cases length
    · rw [List.length_singleton] at length
      omega
    rw [List.length_cons,List.length_cons] at length
    obtain ⟨first,small⟩ := List.forall_mem_cons.mp small
    obtain ⟨second,small⟩ := List.forall_mem_cons.mp small
    obtain ⟨count,same⟩ := ih (by omega) small
    obtain ⟨lowSame,first⟩ := toNat_of_digit d first
    obtain ⟨highSame,second⟩ := toNat_of_digit d second
    rw [join,List.length_cons,count,value_cons,join_toNat d wide first second,total,total,← same,lowSame,highSame,
      show (2 : Nat)^w = 2^d * 2^d by rw [wide,Nat.two_mul,Nat.pow_add]]
    refine ⟨rfl,?_⟩
    push_cast
    ring

end Sarm.Accumulators
