import Mathlib.Data.BitVec
import Mathlib.Tactic.Ring
import Mathlib.Tactic.Linarith

/-!
Numbers as strings of machine words, the lowest word first: chains of additions and subtractions
with a carry, and products row by row.
-/
namespace Sarm.Words

variable {w : Nat}

/-- The number that the words are the digits of. -/
def value : List (BitVec w) → Nat
  | [] => 0
  | x :: xs => x.toNat + 2^w * value xs

@[simp] theorem value_nil : value ([] : List (BitVec w)) = 0 := rfl

@[simp] theorem value_cons (x : BitVec w) (xs : List (BitVec w)) : value (x :: xs) = x.toNat + 2^w * value xs := rfl

theorem value_append (xs ys : List (BitVec w)) : value (xs ++ ys) = value xs + 2^(w * xs.length) * value ys := by
  induction xs with
  | nil => simp
  | cons x xs ih =>
    rw [List.cons_append,value_cons,value_cons,ih,List.length_cons,Nat.mul_succ,Nat.pow_add]
    ring

theorem value_lt (xs : List (BitVec w)) : value xs < 2^(w * xs.length) := by
  induction xs with
  | nil => simp
  | cons x xs ih =>
    have small := x.isLt
    rw [value_cons,List.length_cons,Nat.mul_succ,Nat.pow_add]
    calc x.toNat + 2^w * value xs
        < 2^w * (value xs + 1) := by rw [Nat.mul_succ]; omega
      _ ≤ 2^w * 2^(w * xs.length) := Nat.mul_le_mul_left _ ih
      _ = 2^(w * xs.length) * 2^w := Nat.mul_comm _ _

/-- As many words with the same value are the same. -/
theorem value_inj {xs ys : List (BitVec w)} (length : xs.length = ys.length) (same : value xs = value ys) : xs = ys := by
  induction xs generalizing ys with
  | nil => exact (List.length_eq_zero_iff.mp length.symm).symm
  | cons x xs ih =>
    obtain _ | ⟨y,ys⟩ := ys
    · cases length
    rw [value_cons,value_cons] at same
    have low := congrArg (· % 2^w) same
    have high := congrArg (· / 2^w) same
    simp only [Nat.add_mul_mod_self_left,Nat.mod_eq_of_lt x.isLt,Nat.mod_eq_of_lt y.isLt] at low
    simp only [Nat.add_mul_div_left _ _ (Nat.two_pow_pos w),Nat.div_eq_of_lt x.isLt,Nat.div_eq_of_lt y.isLt,
      Nat.zero_add] at high
    rw [BitVec.eq_of_toNat_eq low,ih (Nat.succ.inj length) high]

theorem value_zeros (n : Nat) : value (List.replicate n (0 : BitVec w)) = 0 := by
  induction n with
  | zero => rfl
  | succ n ih => rw [List.replicate_succ,value_cons,ih]; simp

/-- Digits of `d` bits that lie inside the words. -/
theorem value_digit (positive : 0 < w) (xs : List (BitVec w)) (q s d : Nat) (fits : s + d ≤ w) :
    value xs / 2^(w * q + s) % 2^d = (xs.getD q 0).toNat / 2^s % 2^d := by
  induction xs generalizing q with
  | nil => simp
  | cons x xs ih =>
    cases q with
    | zero =>
      obtain ⟨rest,rfl⟩ := Nat.exists_eq_add_of_le fits
      rw [value_cons,Nat.mul_zero,Nat.zero_add,List.getD_cons_zero,Nat.pow_add,Nat.pow_add,Nat.mul_assoc,Nat.mul_assoc,
        Nat.add_mul_div_left _ _ (Nat.two_pow_pos s),Nat.add_mul_mod_self_left]
    | succ q =>
      have low := x.isLt
      rw [value_cons,Nat.mul_succ,Nat.add_right_comm,Nat.add_comm _ w,Nat.pow_add,← Nat.div_div_eq_div_mul,
        Nat.add_mul_div_left _ _ (Nat.two_pow_pos w),Nat.div_eq_of_lt low,Nat.zero_add,ih,List.getD_cons_succ]

/-! ### Carries -/

/-- A sum of two words and a carry, and the carry out of it. -/
def addWithCarry (x y : BitVec w) (c : Bool) : BitVec w × Bool :=
  (BitVec.ofNat w (x.toNat + y.toNat + c.toNat),2^w ≤ x.toNat + y.toNat + c.toNat)

theorem addWithCarry_value (x y : BitVec w) (c : Bool) :
    (addWithCarry x y c).1.toNat + 2^w * (addWithCarry x y c).2.toNat = x.toNat + y.toNat + c.toNat := by
  have first := x.isLt
  have second := y.isLt
  have carry := c.toNat_le
  rw [addWithCarry]
  dsimp only
  rw [BitVec.toNat_ofNat]
  by_cases wide : 2^w ≤ x.toNat + y.toNat + c.toNat
  · rw [decide_eq_true wide,Bool.toNat_true,Nat.mod_eq_sub_mod wide,Nat.mod_eq_of_lt (by omega)]
    omega
  · rw [decide_eq_false wide,Bool.toNat_false,Nat.mod_eq_of_lt (by omega),Nat.mul_zero,Nat.add_zero]

/-- `adds`, or `adcs`, and an `adcs` for each further word. -/
def addChain : List (BitVec w) → List (BitVec w) → Bool → List (BitVec w) × Bool
  | x :: xs,y :: ys,c =>
    let (sum,c) := addWithCarry x y c
    let (sums,c) := addChain xs ys c
    (sum :: sums,c)
  | _,_,c => ([],c)

theorem addChain_length {xs ys : List (BitVec w)} (length : xs.length = ys.length) (c : Bool) :
    (addChain xs ys c).1.length = xs.length := by
  induction xs generalizing ys c with
  | nil => rfl
  | cons x xs ih =>
    obtain _ | ⟨y,ys⟩ := ys
    · cases length
    exact congrArg Nat.succ (ih (Nat.succ.inj length) _)

theorem addChain_value {xs ys : List (BitVec w)} (length : xs.length = ys.length) (c : Bool) :
    value (addChain xs ys c).1 + 2^(w * xs.length) * (addChain xs ys c).2.toNat = value xs + value ys + c.toNat := by
  induction xs generalizing ys c with
  | nil =>
    obtain rfl : ys = [] := List.length_eq_zero_iff.mp length.symm
    simp [addChain]
  | cons x xs ih =>
    obtain _ | ⟨y,ys⟩ := ys
    · cases length
    have first := addWithCarry_value x y c
    have rest := ih (Nat.succ.inj length) (addWithCarry x y c).2
    rw [addChain]
    dsimp only
    rw [value_cons,value_cons,value_cons,List.length_cons,Nat.mul_succ,Nat.pow_add]
    calc (addWithCarry x y c).1.toNat + 2^w * value (addChain xs ys (addWithCarry x y c).2).1 +
          2^(w * xs.length) * 2^w * (addChain xs ys (addWithCarry x y c).2).2.toNat
        = (addWithCarry x y c).1.toNat + 2^w * (value (addChain xs ys (addWithCarry x y c).2).1 +
          2^(w * xs.length) * (addChain xs ys (addWithCarry x y c).2).2.toNat) := by ring
      _ = ((addWithCarry x y c).1.toNat + 2^w * (addWithCarry x y c).2.toNat) + 2^w * (value xs + value ys) := by
        rw [rest]; ring
      _ = x.toNat + 2^w * value xs + (y.toNat + 2^w * value ys) + c.toNat := by rw [first]; ring

/-- A sum that fits leaves no carry. -/
theorem addChain_fits {xs ys : List (BitVec w)} (length : xs.length = ys.length) {c : Bool}
    (fits : value xs + value ys + c.toNat < 2^(w * xs.length)) :
    value (addChain xs ys c).1 = value xs + value ys + c.toNat := by
  have sum := addChain_value length c
  cases carry : (addChain xs ys c).2
  · rw [carry] at sum
    simpa using sum
  · rw [carry,Bool.toNat_true] at sum
    omega

/-- `subs`, or `sbcs`, and an `sbcs` for each further word: the carry says that nothing is borrowed. -/
def subChain (xs ys : List (BitVec w)) (c : Bool) : List (BitVec w) × Bool := addChain xs (ys.map (~~~ ·)) c

theorem value_not (xs : List (BitVec w)) : value (xs.map (~~~ ·)) + value xs + 1 = 2^(w * xs.length) := by
  induction xs with
  | nil => rfl
  | cons x xs ih =>
    have small := x.isLt
    rw [List.map_cons,value_cons,value_cons,List.length_cons,Nat.mul_succ,Nat.pow_add,← ih,BitVec.toNat_not]
    have word : 2^w - 1 - x.toNat + x.toNat + 1 = 2^w := by omega
    calc 2^w - 1 - x.toNat + 2^w * value (xs.map (~~~ ·)) + (x.toNat + 2^w * value xs) + 1
        = (2^w - 1 - x.toNat + x.toNat + 1) + 2^w * (value (xs.map (~~~ ·)) + value xs) := by ring
      _ = (value (xs.map (~~~ ·)) + value xs + 1) * 2^w := by rw [word]; ring

theorem subChain_length {xs ys : List (BitVec w)} (length : xs.length = ys.length) (c : Bool) :
    (subChain xs ys c).1.length = xs.length := addChain_length (by rw [List.length_map,length]) c

theorem subChain_value {xs ys : List (BitVec w)} (length : xs.length = ys.length) :
    value (subChain xs ys true).1 + value ys = value xs + 2^(w * xs.length) * (!(subChain xs ys true).2).toNat := by
  have width : xs.length = (ys.map (~~~ ·)).length := length.trans (List.length_map _).symm
  have sum := addChain_value width true
  have complement := value_not ys
  rw [← length] at complement
  rw [subChain]
  cases carry : (addChain xs (ys.map (~~~ ·)) true).2
  · rw [carry,Bool.toNat_false,Nat.mul_zero,Bool.toNat_true] at sum
    rw [Bool.not_false,Bool.toNat_true,Nat.mul_one]
    omega
  · rw [carry,Bool.toNat_true,Nat.mul_one] at sum
    rw [Bool.not_true,Bool.toNat_false,Nat.mul_zero]
    omega

/-- The carry compares. -/
theorem subChain_carry {xs ys : List (BitVec w)} (length : xs.length = ys.length) :
    (subChain xs ys true).2 = true ↔ value ys ≤ value xs := by
  have difference := subChain_value length
  have small := value_lt (subChain xs ys true).1
  rw [subChain_length length] at small
  cases carry : (subChain xs ys true).2
  · simp only [carry,Bool.not_false,Bool.toNat_true,Nat.mul_one] at difference
    simp only [Bool.false_eq_true,false_iff]
    omega
  · simp only [carry,Bool.not_true,Bool.toNat_false,Nat.mul_zero] at difference
    simp only [true_iff]
    omega

theorem subChain_exact {xs ys : List (BitVec w)} (length : xs.length = ys.length) (le : value ys ≤ value xs) :
    value (subChain xs ys true).1 = value xs - value ys := by
  have difference := subChain_value length
  rw [(subChain_carry length).mpr le,Bool.not_true,Bool.toNat_false,Nat.mul_zero] at difference
  omega

/-! ### Modular sums -/

/-- One subtraction of the modulus, if it leaves something. -/
def reduceOnce (m xs : List (BitVec w)) : List (BitVec w) :=
  let (less,c) := subChain xs m true
  if c then less else xs

theorem reduceOnce_length {m xs : List (BitVec w)} (length : xs.length = m.length) :
    (reduceOnce m xs).length = xs.length := by
  rw [reduceOnce]
  dsimp only
  split
  · exact subChain_length length true
  · rfl

theorem reduceOnce_value {m xs : List (BitVec w)} (length : xs.length = m.length) :
    value (reduceOnce m xs) = if value m ≤ value xs then value xs - value m else value xs := by
  rw [reduceOnce]
  dsimp only
  by_cases le : value m ≤ value xs
  · rw [if_pos ((subChain_carry length).mpr le),if_pos le,subChain_exact length le]
  · rw [if_neg (mt (subChain_carry length).mp le),if_neg le]

theorem reduceOnce_mod {m xs : List (BitVec w)} (length : xs.length = m.length) (small : value xs < 2 * value m) :
    value (reduceOnce m xs) = value xs % value m := by
  rw [reduceOnce_value length]
  split
  · next le => rw [Nat.mod_eq_sub_mod le,Nat.mod_eq_of_lt (by omega)]
  · next gt => rw [Nat.mod_eq_of_lt (by omega)]

/-- A sum less the modulus, if it has a carry or is not below the modulus. -/
def addMod (m xs ys : List (BitVec w)) : List (BitVec w) :=
  let (sum,c) := addChain xs ys false
  let (less,c') := subChain sum m true
  if c || c' then less else sum

theorem addMod_length {m xs ys : List (BitVec w)} (length : xs.length = m.length) (length' : ys.length = m.length) :
    (addMod m xs ys).length = m.length := by
  have width := (addChain_length (length.trans length'.symm) false).trans length
  rw [addMod]
  dsimp only
  split
  · exact (subChain_length width true).trans width
  · exact width

theorem addMod_spec {m xs ys : List (BitVec w)} (length : xs.length = m.length) (length' : ys.length = m.length)
    (first : value xs < value m) (second : value ys < value m) :
    value (addMod m xs ys) = (value xs + value ys) % value m := by
  have sum := addChain_value (length.trans length'.symm) false
  have count := addChain_length (length.trans length'.symm) false
  have width := count.trans length
  have difference := subChain_value width
  have compared := subChain_carry width
  have modulus := value_lt m
  rw [length,Bool.toNat_false,Nat.add_zero] at sum
  rw [width] at difference
  rw [addMod]
  dsimp only
  cases wide : (addChain xs ys false).2
  · rw [wide,Bool.toNat_false,Nat.mul_zero,Nat.add_zero] at sum
    rw [Bool.false_or]
    by_cases le : value m ≤ value (addChain xs ys false).1
    · rw [if_pos (compared.mpr le),subChain_exact width le,← sum,Nat.mod_eq_sub_mod le,Nat.mod_eq_of_lt (by omega)]
    · rw [if_neg (mt compared.mp le),← sum,Nat.mod_eq_of_lt (by omega)]
  · rw [wide,Bool.toNat_true,Nat.mul_one] at sum
    have gt : ¬value m ≤ value (addChain xs ys false).1 := by omega
    have borrow : (subChain (addChain xs ys false).1 m true).2 = false := Bool.eq_false_iff.mpr (mt compared.mp gt)
    rw [borrow,Bool.not_false,Bool.toNat_true,Nat.mul_one] at difference
    rw [Bool.true_or,if_pos rfl,Nat.mod_eq_sub_mod (by omega),Nat.mod_eq_of_lt (by omega)]
    omega

/-- A difference and the modulus, if something is borrowed. -/
def subMod (m xs ys : List (BitVec w)) : List (BitVec w) :=
  let (less,c) := subChain xs ys true
  if c then less else (addChain less m false).1

theorem subMod_length {m xs ys : List (BitVec w)} (length : xs.length = m.length) (length' : ys.length = m.length) :
    (subMod m xs ys).length = m.length := by
  have width := (subChain_length (length.trans length'.symm) true).trans length
  rw [subMod]
  dsimp only
  split
  · exact width
  · exact (addChain_length width false).trans width

theorem subMod_spec {m xs ys : List (BitVec w)} (length : xs.length = m.length) (length' : ys.length = m.length)
    (first : value xs < value m) (second : value ys < value m) :
    value (subMod m xs ys) = (value xs + (value m - value ys)) % value m := by
  have same := length.trans length'.symm
  have difference := subChain_value same
  have width := (subChain_length same true).trans length
  have sum := addChain_value width false
  have count := addChain_length width false
  have modulus := value_lt m
  have bound := value_lt (addChain (subChain xs ys true).1 m false).1
  have bound' := value_lt (subChain xs ys true).1
  rw [length] at difference
  rw [width,Bool.toNat_false,Nat.add_zero] at sum
  rw [count,width] at bound
  rw [width] at bound'
  rw [subMod]
  dsimp only
  cases c : (subChain xs ys true).2
  · rw [c,Bool.not_false,Bool.toNat_true,Nat.mul_one] at difference
    rw [if_neg Bool.false_ne_true,Nat.mod_eq_of_lt (by omega)]
    cases carry : (addChain (subChain xs ys true).1 m false).2
    · rw [carry,Bool.toNat_false] at sum
      omega
    · rw [carry,Bool.toNat_true] at sum
      omega
  · rw [c,Bool.not_true,Bool.toNat_false,Nat.mul_zero] at difference
    rw [if_pos rfl,Nat.mod_eq_sub_mod (by omega),Nat.mod_eq_of_lt (by omega)]
    omega

/-! ### Products -/

/-- `umulh`. -/
def umulh (x y : BitVec w) : BitVec w := BitVec.ofNat w (x.toNat * y.toNat / 2^w)

theorem umulh_toNat (x y : BitVec w) : (umulh x y).toNat = x.toNat * y.toNat / 2^w := by
  rw [umulh,BitVec.toNat_ofNat]
  refine Nat.mod_eq_of_lt (Nat.div_lt_of_lt_mul ?_)
  exact Nat.mul_lt_mul'' x.isLt y.isLt

theorem mul_value (x y : BitVec w) : (x * y).toNat + 2^w * (umulh x y).toNat = x.toNat * y.toNat := by
  rw [umulh_toNat,BitVec.toNat_mul]
  exact Nat.mod_add_div _ _

/-- The lower words of the products with one word, and the upper ones. -/
def mulLow (xs : List (BitVec w)) (y : BitVec w) : List (BitVec w) := xs.map (· * y)

def mulHigh (xs : List (BitVec w)) (y : BitVec w) : List (BitVec w) := xs.map (umulh · y)

@[simp] theorem mulLow_length (xs : List (BitVec w)) (y : BitVec w) : (mulLow xs y).length = xs.length :=
  List.length_map _

@[simp] theorem mulHigh_length (xs : List (BitVec w)) (y : BitVec w) : (mulHigh xs y).length = xs.length :=
  List.length_map _

theorem mulLow_mulHigh (xs : List (BitVec w)) (y : BitVec w) :
    value (mulLow xs y) + 2^w * value (mulHigh xs y) = value xs * y.toNat := by
  induction xs with
  | nil => simp [mulLow,mulHigh]
  | cons x xs ih =>
    rw [mulLow,mulHigh] at ih ⊢
    rw [List.map_cons,List.map_cons,value_cons,value_cons,value_cons]
    calc (x * y).toNat + 2^w * value (xs.map (· * y)) + 2^w * ((umulh x y).toNat + 2^w * value (xs.map (umulh · y)))
        = ((x * y).toNat + 2^w * (umulh x y).toNat) + 2^w *
          (value (xs.map (· * y)) + 2^w * value (xs.map (umulh · y))) := by ring
      _ = (x.toNat + 2^w * value xs) * y.toNat := by rw [mul_value,ih]; ring

/-- A row of a product onto what has been added up so far: the lower words along one chain of
    carries, whose carry is the new word on top, and the upper ones one word higher along another. -/
def productRow (t xs : List (BitVec w)) (y : BitVec w) : List (BitVec w) :=
  match addChain t (mulLow xs y) false with
  | (t0 :: ts,c) => t0 :: (addChain (ts ++ [BitVec.ofNat w c.toNat]) (mulHigh xs y) false).1
  | ([],_) => []

theorem toNat_carry (positive : 0 < w) (c : Bool) : (BitVec.ofNat w c.toNat).toNat = c.toNat := by
  rw [BitVec.toNat_ofNat]
  exact Nat.mod_eq_of_lt (lt_of_le_of_lt c.toNat_le (Nat.one_lt_two_pow positive.ne'))

theorem productRow_length {t xs : List (BitVec w)} (length : t.length = xs.length) (some : xs ≠ []) (y : BitVec w) :
    (productRow t xs y).length = xs.length + 1 := by
  have low := addChain_length (length.trans (mulLow_length xs y).symm) false
  rw [productRow]
  generalize addChain t (mulLow xs y) false = sum at low
  obtain ⟨_ | ⟨t0,ts⟩,c⟩ := sum
  · exact absurd (List.length_eq_zero_iff.mp (length.symm.trans low.symm)) some
  dsimp only at low ⊢
  rw [List.length_cons] at low
  rw [List.length_cons,addChain_length (by rw [List.length_append,mulHigh_length,List.length_singleton]; omega),
    List.length_append,List.length_singleton]
  omega

/-- There is room for a row, so that the last carry is none. -/
theorem productRow_value (positive : 0 < w) {t xs : List (BitVec w)} (length : t.length = xs.length)
    (some : xs ≠ []) (y : BitVec w) :
    value (productRow t xs y) = value t + value xs * y.toNat := by
  have room : value t + value xs * y.toNat < 2^w * 2^(w * xs.length) := by
    have first := value_lt t
    have second := value_lt xs
    have third := y.isLt
    rw [length] at first
    calc value t + value xs * y.toNat < 2^(w * xs.length) + 2^(w * xs.length) * y.toNat :=
          Nat.add_lt_add_of_lt_of_le first (Nat.mul_le_mul_right _ second.le)
      _ = (y.toNat + 1) * 2^(w * xs.length) := by ring
      _ ≤ 2^w * 2^(w * xs.length) := Nat.mul_le_mul_right _ third
  have low := addChain_length (length.trans (mulLow_length xs y).symm) false
  have lowSum := addChain_value (length.trans (mulLow_length xs y).symm) false
  have product := mulLow_mulHigh xs y
  rw [productRow]
  generalize addChain t (mulLow xs y) false = sum at low lowSum
  obtain ⟨_ | ⟨t0,ts⟩,c⟩ := sum
  · exact absurd (List.length_eq_zero_iff.mp (length.symm.trans low.symm)) some
  dsimp only at low lowSum ⊢
  rw [List.length_cons] at low
  have same : (ts ++ [BitVec.ofNat w c.toNat]).length = (mulHigh xs y).length := by
    rw [List.length_append,mulHigh_length,List.length_singleton]
    omega
  have width : (ts ++ [BitVec.ofNat w c.toNat]).length = xs.length := same.trans (mulHigh_length xs y)
  have upper : value (ts ++ [BitVec.ofNat w c.toNat]) = value ts + 2^(w * ts.length) * c.toNat := by
    rw [value_append,value_cons,value_nil,Nat.mul_zero,Nat.add_zero,toNat_carry positive]
  have power : 2^(w * t.length) = 2^w * 2^(w * ts.length) := by
    rw [← low,Nat.mul_succ,Nat.pow_add,Nat.mul_comm]
  rw [value_cons,power,Bool.toNat_false,Nat.add_zero] at lowSum
  have whole : t0.toNat + 2^w * (value (ts ++ [BitVec.ofNat w c.toNat]) + value (mulHigh xs y)) =
      value t + value xs * y.toNat := by
    rw [upper,← product]
    linarith
  rw [value_cons,addChain_fits same,Bool.toNat_false,Nat.add_zero]
  · exact whole
  · rw [width,Bool.toNat_false,Nat.add_zero]
    refine Nat.lt_of_mul_lt_mul_left (lt_of_le_of_lt ?_ room) (a := 2^w)
    rw [← whole]
    exact Nat.le_add_left _ _

/-- The first row is written and not added. -/
def firstRow (xs : List (BitVec w)) (y : BitVec w) : List (BitVec w) :=
  match mulLow xs y with
  | t0 :: ts => t0 :: (addChain (mulHigh xs y) (ts ++ [0]) false).1
  | [] => []

theorem firstRow_length {xs : List (BitVec w)} (some : xs ≠ []) (y : BitVec w) :
    (firstRow xs y).length = xs.length + 1 := by
  obtain ⟨x,xs,rfl⟩ := List.exists_cons_of_ne_nil some
  rw [firstRow,mulLow,List.map_cons,List.length_cons,addChain_length (by simp),mulHigh_length]

theorem firstRow_value {xs : List (BitVec w)} (some : xs ≠ []) (y : BitVec w) :
    value (firstRow xs y) = value xs * y.toNat := by
  have product := mulLow_mulHigh xs y
  have room : value xs * y.toNat < 2^w * 2^(w * xs.length) := by
    rw [Nat.mul_comm]
    exact Nat.mul_lt_mul'' y.isLt (value_lt xs)
  obtain ⟨x,xs,rfl⟩ := List.exists_cons_of_ne_nil some
  rw [firstRow,mulLow,List.map_cons]
  rw [mulLow,List.map_cons,value_cons] at product
  have last : value (xs.map (· * y) ++ [0]) = value (xs.map (· * y)) := by
    rw [value_append]
    simp
  have same : (mulHigh (x :: xs) y).length = (xs.map (· * y) ++ [0]).length := by simp
  rw [value_cons,addChain_fits same,last,Bool.toNat_false,Nat.add_zero]
  · linarith
  · rw [last,mulHigh_length,Bool.toNat_false,Nat.add_zero]
    refine Nat.lt_of_mul_lt_mul_left (lt_of_le_of_lt ?_ room) (a := 2^w)
    linarith [Nat.zero_le (x * y).toNat]

/-- Rows for the words of `ys`, each one word higher than the row before. -/
def productRows (xs : List (BitVec w)) : List (BitVec w) → List (BitVec w) → List (BitVec w)
  | [],t => t
  | y :: ys,t =>
    match productRow t xs y with
    | t0 :: ts => t0 :: productRows xs ys ts
    | [] => []

theorem productRows_spec (positive : 0 < w) {xs : List (BitVec w)} (some : xs ≠ []) (ys : List (BitVec w))
    {t : List (BitVec w)}
    (length : t.length = xs.length) :
    (productRows xs ys t).length = ys.length + xs.length ∧
    value (productRows xs ys t) = value t + value xs * value ys := by
  induction ys generalizing t with
  | nil => simp [productRows,length]
  | cons y ys ih =>
    have row := productRow_length length some y
    have sum := productRow_value positive length some y
    rw [productRows]
    generalize productRow t xs y = next at row sum
    obtain _ | ⟨t0,ts⟩ := next
    · cases row
    dsimp only
    obtain ⟨count,rest⟩ := ih (Nat.succ.inj row)
    rw [value_cons] at sum
    rw [List.length_cons,count,List.length_cons,value_cons,rest,value_cons]
    refine ⟨Nat.add_right_comm _ _ _,?_⟩
    calc t0.toNat + 2^w * (value ts + value xs * value ys) = (t0.toNat + 2^w * value ts) + 2^w *
      (value xs * value ys) := by ring
      _ = value t + value xs * (y.toNat + 2^w * value ys) := by rw [sum]; ring

/-- The product of two numbers. -/
def product (xs ys : List (BitVec w)) : List (BitVec w) :=
  match ys with
  | [] => []
  | y :: ys =>
    match firstRow xs y with
    | t0 :: ts => t0 :: productRows xs ys ts
    | [] => []

theorem product_spec (positive : 0 < w) {xs ys : List (BitVec w)} (some : xs ≠ []) :
    (ys ≠ [] → (product xs ys).length = xs.length + ys.length) ∧ value (product xs ys) = value xs * value ys := by
  obtain _ | ⟨y,ys⟩ := ys
  · simp [product]
  have row := firstRow_length some y
  have first := firstRow_value some y
  rw [product]
  generalize firstRow xs y = next at row first
  obtain _ | ⟨t0,ts⟩ := next
  · cases row
  dsimp only
  obtain ⟨count,rest⟩ := productRows_spec positive some ys (Nat.succ.inj row)
  rw [value_cons] at first
  refine ⟨fun _ => ?_,?_⟩
  · rw [List.length_cons,count,List.length_cons]
    omega
  · rw [value_cons,rest,value_cons]
    calc t0.toNat + 2^w * (value ts + value xs * value ys) = (t0.toNat + 2^w * value ts) + 2^w *
      (value xs * value ys) := by ring
      _ = value xs * (y.toNat + 2^w * value ys) := by rw [first]; ring

end Sarm.Words
