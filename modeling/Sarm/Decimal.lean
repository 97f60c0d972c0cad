import Mathlib.Tactic.IntervalCases
import Sarm.Messages
import Sarm.Response
import Sarm.Strings

/-!
Numbers in decimal. `itoa` writes the digits of a register backwards, from the end of a
buffer on; `atoi_n` looks at sixteen octets at once for one that is no digit, and reads the
number octet by octet.
-/
namespace Sarm.H2
open Sarm.Hpack (ascii)
open Sarm.Messages (decimal)

/-! ### Strings of digits -/

theorem digit_octet {d : Nat} (small : d < 10) : UInt8.ofNat (d + '0'.toNat) = UInt8.ofNat d.digitChar.toNat := by
  interval_cases d <;> rfl

/-- The digits in front of those written already. -/
theorem itoaLoop_repr : ∀ (fuel n : Nat) (digits : List UInt8), n < 10^(fuel + 1) →
    itoaLoop (fuel + 1) n digits = ascii n.repr ++ digits := by
  intro fuel
  induction fuel with
  | zero =>
    intro n digits small
    rw [itoaLoop,if_pos (by omega),ascii,Nat.toList_repr,Nat.toDigits_of_lt_base (by omega),
      Nat.mod_eq_of_lt (by omega),digit_octet (by omega)]
    rfl
  | succ fuel ih =>
    intro n digits small
    rw [itoaLoop,ascii,Nat.toList_repr,Nat.toDigits_eq_if (by decide)]
    by_cases last : n < 10
    · rw [if_pos (by omega),if_pos last,Nat.mod_eq_of_lt last,digit_octet last]
      rfl
    · rw [if_neg (by omega),if_neg last,ih _ _ (by rw [Nat.pow_succ] at small; omega),
        digit_octet (Nat.mod_lt n (by decide)),ascii,Nat.toList_repr,List.map_append,List.append_assoc]
      rfl

theorem itoa_repr {n : Nat} (small : n < 2^64) : itoa n = ascii n.repr :=
  (itoaLoop_repr 19 n [] (by omega)).trans (List.append_nil _)

theorem repr_length {n : Nat} (small : n < 2^64) : (ascii n.repr).length ≤ 20 := by
  rw [ascii,List.length_map,Nat.toList_repr,Nat.length_toDigits_le_iff (by decide) (by decide)]
  omega

theorem itoaLoop_digits : ∀ (fuel n : Nat) (digits : List UInt8), (∀ d ∈ digits, (48 : UInt8) ≤ d ∧ d ≤ 57) →
    ∀ d ∈ itoaLoop fuel n digits, (48 : UInt8) ≤ d ∧ d ≤ 57 := by
  intro fuel
  induction fuel with
  | zero => exact fun n digits all => all
  | succ fuel ih =>
    intro n digits all
    have digit : (48 : UInt8) ≤ UInt8.ofNat (n % 10 + '0'.toNat) ∧ UInt8.ofNat (n % 10 + '0'.toNat) ≤ 57 := by
      have digits : ∀ k < 10, (48 : UInt8) ≤ UInt8.ofNat (k + '0'.toNat) ∧ UInt8.ofNat (k + '0'.toNat) ≤ 57 := by
        decide
      exact digits (n % 10) (Nat.mod_lt n (by decide))
    have more : ∀ d ∈ UInt8.ofNat (n % 10 + '0'.toNat) :: digits, (48 : UInt8) ≤ d ∧ d ≤ 57 := by
      intro d mem
      rcases List.mem_cons.mp mem with rfl | mem
      · exact digit
      · exact all d mem
    rw [itoaLoop]
    split
    · exact more
    · exact ih _ _ more

theorem itoa_digits (n : Nat) : ∀ d ∈ itoa n, (48 : UInt8) ≤ d ∧ d ≤ 57 := itoaLoop_digits 20 n [] (by simp)

theorem itoaLoop_value : ∀ (fuel n : Nat) (digits : List UInt8), n < 10^fuel → 0 < fuel →
    (itoaLoop fuel n digits).foldl (fun value digit => 10 * value + (digit.toNat - 48)) 0 =
      digits.foldl (fun value digit => 10 * value + (digit.toNat - 48)) n := by
  intro fuel
  induction fuel with
  | zero => intro n digits _ none; contradiction
  | succ fuel ih =>
    intro n digits small _
    have digit : (UInt8.ofNat (n % 10 + '0'.toNat)).toNat - 48 = n % 10 := by
      have digits : ∀ k < 10, (UInt8.ofNat (k + '0'.toNat)).toNat - 48 = k := by decide
      exact digits (n % 10) (Nat.mod_lt n (by decide))
    rw [itoaLoop]
    split
    · next last =>
      rw [List.foldl_cons,digit]
      congr 1
      omega
    · next more =>
      have positive : 0 < fuel := by
        by_contra none
        rw [Nat.eq_zero_of_not_pos none] at small
        omega
      rw [ih _ _ (by rw [Nat.pow_succ] at small; omega) positive,List.foldl_cons,digit]
      congr 1
      omega

theorem itoaLoop_ne_nil : ∀ (fuel n : Nat) (digits : List UInt8), digits ≠ [] ∨ 0 < fuel →
    itoaLoop fuel n digits ≠ [] := by
  intro fuel
  induction fuel with
  | zero => intro n digits either; exact either.resolve_right (Nat.lt_irrefl 0)
  | succ fuel ih =>
    intro n digits _
    rw [itoaLoop]
    split
    · simp
    · exact ih _ _ (.inl (by simp))

theorem itoa_decimal {n : Nat} (small : n < 10^20) : decimal (itoa n) = some n := by
  rw [decimal,if_pos]
  · exact congrArg some (itoaLoop_value 20 n [] small (by decide))
  · refine ⟨itoaLoop_ne_nil 20 n [] (.inr (by decide)),?_⟩
    rw [List.all_eq_true]
    intro d mem
    obtain ⟨low,high⟩ := itoa_digits n d mem
    simp [low,high]

theorem itoaLoop_length :
    ∀ (fuel n : Nat) (digits : List UInt8), (itoaLoop fuel n digits).length ≤ digits.length + fuel := by
  intro fuel
  induction fuel with
  | zero => intro n digits; exact Nat.le_refl _
  | succ fuel ih =>
    intro n digits
    rw [itoaLoop]
    split
    · simp
    · have more := ih (n / 10) (UInt8.ofNat (n % 10 + '0'.toNat) :: digits)
      rw [List.length_cons] at more
      omega

theorem itoa_length (n : Nat) : (itoa n).length ≤ 20 := itoaLoop_length 20 n []

end Sarm.H2

namespace Sarm.Decimal
open Sarm.Memory Sarm.Neon Sarm.H2
open Sarm.Hpack (ascii)
open Sarm.Messages (decimal)
open Sarm.Octets (forall_octet)
open Sarm.Strings (cmhs dup octet_lanes halves_zero)

/-! ### The code -/

/-- The string that `itoa` leaves in memory. -/
structure Written where
  mem : Mem
  x0 : Nat
  x1 : Nat

/-- `1:` of `itoa`: the digit goes in front of the `x2` that are there. -/
def itoaPass (m : Mem) (x0 : BitVec 64) (x1 x2 : Nat) : Written :=
  let x4 := x0 / 10
  let x5 := x0 - x4 * 10 + 48
  let x1 := x1 - 1
  let m := store m x1 ⟨x5.setWidth 8⟩
  let x2 := x2 + 1
  if x4 = 0 then ⟨m,x1,x2⟩ else itoaPass m x4 x1 x2
termination_by x0.toNat
decreasing_by
  rename_i more
  have quotient : (x0 / 10).toNat = x0.toNat / 10 := BitVec.toNat_udiv
  have positive : (x0 / 10).toNat ≠ 0 := fun none => more (BitVec.eq_of_toNat_eq none)
  omega

/-- `ITOA_BUF_SIZE` -/
def itoaBufSize : Nat := 20

def itoa (m : Mem) (x0 : BitVec 64) (x1 : Nat) : Written := itoaPass m x0 (x1 + itoaBufSize) 0

/-- The number, and whether the carry flag is set, which says that there is none. -/
structure Parsed where
  x0 : BitVec 64
  carry : Bool
  deriving DecidableEq

/-- `Latoi_n_error` -/
def atoiError : Parsed := ⟨0,true⟩

/-- `ldrb`, and less the octet of zero. -/
def digitOf (octet : UInt8) : BitVec 32 := octet.toBitVec.setWidth 32 - 48

/-- `Lconversion_loop` -/
def conversionLoop (m : Mem) : Nat → Nat → BitVec 64 → Parsed
  | 0, _, x2 => ⟨x2,false⟩
  | x1+1, x0, x2 =>
    let w3 := digitOf (m x0)
    if 10 ≤ w3 then atoiError else conversionLoop m x1 (x0 + 1) (x2 * 10 + w3.setWidth 64)

/-- `Lscalar_prepare` -/
def scalarPrepare (m : Mem) (x0 x1 : Nat) : Parsed := if x1 = 0 then atoiError else conversionLoop m x1 x0 0

/-- `sub`, octet by octet. -/
def subLanes (a b : BitVec 128) : BitVec 128 := pack fun k => octet a k - octet b k

def atoi_n (m : Mem) (x0 x1 : Nat) : Parsed :=
  if 19 ≤ x1 then atoiError
  else if x1 < 16 then scalarPrepare m x0 x1
  else
    let v1 := cmhs (subLanes (ld1 m x0) (dup 48)) (dup 10)
    if lo v1 ≠ 0 then atoiError
    else if hi v1 ≠ 0 then atoiError
    else if x1 = 16 then scalarPrepare m x0 x1
    else if 10 ≤ digitOf (m (x0 + 16)) then atoiError
    else if x1 = 17 then scalarPrepare m x0 x1
    else if 10 ≤ digitOf (m (x0 + 17)) then atoiError
    else scalarPrepare m x0 x1

/-! ### Reading -/

/-- Less than ten is left of an octet of zero taken from a digit, and of no other octet. -/
theorem digitOf_spec : ∀ octet : UInt8, (10 ≤ digitOf octet ↔ ¬isDigit octet) ∧
    (isDigit octet → (digitOf octet).toNat = octet.toNat - '0'.toNat ∧ octet.toNat - '0'.toNat < 10) :=
  forall_octet (by decide +kernel)

/-- The number is as it is worked out without a bound, since it has at most 19 digits. -/
theorem conversionLoop_all (m : Mem) : ∀ (x1 x0 read : Nat) (x2 : BitVec 64), x2.toNat < 10^read → read + x1 ≤ 19 →
    conversionLoop m x1 x0 x2 = if (slice m x0 x1).all isDigit then
      ⟨BitVec.ofNat 64 ((slice m x0 x1).foldl (fun value digit => 10 * value + (digit.toNat - '0'.toNat)) x2.toNat),
    false⟩
      else atoiError := by
  intro x1
  induction x1 with
  | zero =>
    intro x0 read x2 _ _
    rw [conversionLoop,slice_zero,List.foldl_nil,BitVec.ofNat_toNat,BitVec.setWidth_eq]
    rfl
  | succ x1 ih =>
    intro x0 read x2 small room
    obtain ⟨other,exact_⟩ := digitOf_spec (m x0)
    rw [conversionLoop,slice_succ,List.all_cons,List.foldl_cons]
    by_cases digit : isDigit (m x0) = true
    · obtain ⟨value,single⟩ := exact_ digit
      have most : 10^(read + 1) ≤ 10^19 := Nat.pow_le_pow_right (by decide) (by omega)
      have next : (x2 * 10 + (digitOf (m x0)).setWidth 64).toNat = 10 * x2.toNat + ((m x0).toNat - '0'.toNat) := by
        rw [Nat.pow_succ] at most
        rw [BitVec.toNat_add,BitVec.toNat_mul,BitVec.toNat_setWidth,value,show (10 : BitVec 64).toNat = 10 from rfl]
        omega
      have bound : (x2 * 10 + (digitOf (m x0)).setWidth 64).toNat < 10^(read + 1) := by
        rw [next,Nat.pow_succ]
        omega
      rw [if_neg fun none => other.mp none digit,ih _ _ _ bound (by omega),next,digit,Bool.true_and]
    · rw [if_pos (other.mpr digit),Bool.eq_false_of_not_eq_true digit,Bool.false_and]
      rfl

/-- What a reply of the number's reading is as a reply of the routine. -/
def reply : Option Nat → Parsed
  | some n => ⟨BitVec.ofNat 64 n,false⟩
  | none => atoiError

theorem scalarPrepare_reply (m : Mem) (x0 : Nat) {x1 : Nat} (few : x1 < 19) :
    scalarPrepare m x0 x1 = reply (atoiN (slice m x0 x1)) := by
  have length : (slice m x0 x1).length = x1 := slice_length ..
  rw [scalarPrepare,atoiN,length]
  by_cases none : x1 = 0
  · rw [if_pos none,none,slice_zero,if_pos (.inr (.inl rfl))]
    rfl
  have some_ : slice m x0 x1 ≠ [] := fun empty => none (by rw [← length,empty]; rfl)
  rw [if_neg none,conversionLoop_all m x1 x0 0 0 (by decide) (by omega)]
  by_cases all : (slice m x0 x1).all isDigit = true
  · rw [if_pos all,if_neg (by rw [all]; simp [some_]; omega)]
    rfl
  · rw [if_neg all,if_pos (.inr (.inr (Bool.eq_false_of_not_eq_true all)))]
    rfl

/-- No lane of a block is set if its octets are digits. -/
theorem block_digits (m : Mem) (x0 : Nat) :
    lo (cmhs (subLanes (ld1 m x0) (dup 48)) (dup 10)) ||| hi (cmhs (subLanes (ld1 m x0) (dup 48)) (dup 10)) = 0 ↔
      ∀ k < 16, isDigit (m (x0 + k)) := by
  have lane : ∀ octet : UInt8, (if (10 : UInt8) ≤ octet - 48 then (0xff : UInt8) else 0) = 0 ↔ isDigit octet :=
    forall_octet (by decide +kernel)
  rw [halves_zero]
  refine forall₂_congr fun k inside => ?_
  rw [cmhs,octet_lanes _ _ _ inside,subLanes,dup,dup,octet_pack _ inside,octet_pack _ inside,octet_pack _ inside,
    octet_ld1 _ _ inside,← lane]
  simp only [decide_eq_true_eq]

/-- An octet that is no digit makes the number fail. -/
theorem reply_other {m : Mem} {x0 x1 k : Nat} (inside : k < x1) (other : ¬isDigit (m (x0 + k))) :
    reply (atoiN (slice m x0 x1)) = atoiError := by
  have some_ : (slice m x0 x1).all isDigit = false := by
    rw [List.all_eq_false]
    refine ⟨m (x0 + k),?_,other⟩
    rw [slice,List.mem_map]
    exact ⟨x0 + k,List.mem_range'_1.mpr ⟨Nat.le_add_right _ _,Nat.add_lt_add_left inside _⟩,rfl⟩
  rw [atoiN,if_pos (.inr (.inr some_))]
  rfl

/-- The blocks find what the loop finds. -/
theorem atoi_n_reply (m : Mem) (x0 x1 : Nat) : atoi_n m x0 x1 = reply (atoiN (slice m x0 x1)) := by
  have length : (slice m x0 x1).length = x1 := slice_length ..
  have last : ∀ k, k < x1 → 10 ≤ digitOf (m (x0 + k)) → atoiError = reply (atoiN (slice m x0 x1)) :=
    fun k inside past => (reply_other inside ((digitOf_spec _).1.mp past)).symm
  rw [atoi_n]
  by_cases many : 19 ≤ x1
  · rw [if_pos many,atoiN,if_pos (.inl (by rwa [length]))]
    rfl
  rw [if_neg many]
  have scalar := scalarPrepare_reply m x0 (Nat.lt_of_not_le many)
  by_cases short : x1 < 16
  · rw [if_pos short,scalar]
  rw [if_neg short]
  dsimp only
  have block := block_digits m x0
  generalize cmhs (subLanes (ld1 m x0) (dup 48)) (dup 10) = v1 at block ⊢
  have failed : lo v1 ||| hi v1 ≠ 0 → atoiError = reply (atoiN (slice m x0 x1)) := by
    intro set
    rw [Ne,block] at set
    obtain ⟨k,set⟩ := not_forall.mp set
    obtain ⟨inside,other⟩ := Classical.not_imp.mp set
    exact (reply_other (by omega) other).symm
  by_cases low : lo v1 ≠ 0
  · rw [if_pos low]
    exact failed fun none => low (BitVec.or_eq_zero_iff.mp none).1
  rw [if_neg low]
  by_cases high : hi v1 ≠ 0
  · rw [if_pos high]
    exact failed fun none => high (BitVec.or_eq_zero_iff.mp none).2
  rw [if_neg high]
  by_cases sixteen : x1 = 16
  · rw [if_pos sixteen,scalar]
  rw [if_neg sixteen]
  by_cases other : 10 ≤ digitOf (m (x0 + 16))
  · rw [if_pos other]
    exact last 16 (by omega) other
  rw [if_neg other]
  by_cases seventeen : x1 = 17
  · rw [if_pos seventeen,scalar]
  rw [if_neg seventeen]
  by_cases other : 10 ≤ digitOf (m (x0 + 17))
  · rw [if_pos other]
    exact last 17 (by omega) other
  rw [if_neg other,scalar]

/-! ### Writing -/

/-- The remainder, as a digit. -/
theorem remainder_digit (x0 : BitVec 64) :
    (⟨(x0 - x0 / 10 * 10 + 48).setWidth 8⟩ : UInt8) = UInt8.ofNat (x0.toNat % 10 + '0'.toNat) := by
  have small := x0.isLt
  have quotient : (x0 / 10).toNat = x0.toNat / 10 := BitVec.toNat_udiv
  have product : (x0 / 10 * 10).toNat = x0.toNat / 10 * 10 := by
    rw [BitVec.toNat_mul,quotient,show (10 : BitVec 64).toNat = 10 from rfl]
    omega
  have digit : (x0 - x0 / 10 * 10 + 48).toNat = x0.toNat % 10 + '0'.toNat := by
    rw [BitVec.toNat_add,BitVec.toNat_sub,product,show (48 : BitVec 64).toNat = 48 from rfl,
      show '0'.toNat = 48 from rfl]
    omega
  apply UInt8.toNat_inj.mp
  change ((x0 - x0 / 10 * 10 + 48).setWidth 8).toNat = _
  rw [BitVec.toNat_setWidth,digit,UInt8.toNat_ofNat']

/-- The string in front of which the digits stood, with nothing else written than at most
    `room` octets in front of `x1`. -/
structure Puts (m : Mem) (room x1 x2 : Nat) (digits : List UInt8) (w : Written) : Prop where
  text : slice w.mem w.x0 w.x1 = digits
  ends : w.x0 + w.x1 = x1 + x2
  low : x1 ≤ w.x0 + room
  same : ∀ i, i + room < x1 ∨ x1 ≤ i → w.mem i = m i

theorem Puts.refl (m : Mem) (x1 x2 : Nat) : Puts m 0 x1 x2 (slice m x1 x2) ⟨m,x1,x2⟩ :=
  ⟨rfl,rfl,Nat.le_refl x1,fun _ _ => rfl⟩

theorem Puts.mono {m : Mem} {room more x1 x2 : Nat} {digits : List UInt8} {w : Written}
    (puts : Puts m room x1 x2 digits w)
    (le : room ≤ more) : Puts m more x1 x2 digits w :=
  ⟨puts.text,puts.ends,puts.low.trans (Nat.add_le_add_left le _),fun i out => puts.same i (by omega)⟩

/-- What is put in front of a digit that was put is put in front of what was there before. -/
theorem Puts.earlier {m : Mem} {room x1 x2 : Nat} {digit : UInt8} {digits : List UInt8} {w : Written}
    (inside : 0 < x1)
    (puts : Puts (store m (x1 - 1) digit) room (x1 - 1) (x2 + 1) digits w) : Puts m (room + 1) x1 x2 digits w := by
  obtain ⟨text,ends,low,same⟩ := puts
  refine ⟨text,by omega,by omega,fun i out => ?_⟩
  rw [same i (by omega),store_other _ _ (by omega)]

theorem slice_put (m : Mem) {x1 : Nat} (x2 : Nat) (digit : UInt8) (inside : 0 < x1) :
    slice (store m (x1 - 1) digit) (x1 - 1) (x2 + 1) = digit :: slice m x1 x2 := by
  rw [slice_succ,store_same,Nat.sub_add_cancel inside]
  congr 1
  exact slice_congr fun i _ => store_other _ _ (by omega)

/-- The digits are those of the loop over lists. -/
theorem itoaPass_puts : ∀ (fuel : Nat) (m : Mem) (x0 : BitVec 64) (x1 x2 : Nat), x0.toNat < 10^(fuel + 1) →
    fuel < x1 → Puts m (fuel + 1) x1 x2 (itoaLoop (fuel + 1) x0.toNat (slice m x1 x2)) (itoaPass m x0 x1 x2) := by
  intro fuel
  induction fuel with
  | zero =>
    intro m x0 x1 x2 small room
    have quotient : (x0 / 10).toNat = x0.toNat / 10 := BitVec.toNat_udiv
    have last : x0 / 10 = 0 := BitVec.eq_of_toNat_eq (quotient.trans (by change _ = 0; omega))
    rw [itoaPass]
    rw [if_pos last,itoaLoop,if_pos (by omega),remainder_digit,← slice_put m x2 _ room]
    exact (Puts.refl _ _ _).earlier room
  | succ fuel ih =>
    intro m x0 x1 x2 small room
    have inside : 0 < x1 := Nat.zero_lt_of_lt room
    have quotient : (x0 / 10).toNat = x0.toNat / 10 := BitVec.toNat_udiv
    rw [itoaPass]
    rw [itoaLoop,remainder_digit,← slice_put m x2 _ inside]
    by_cases last : x0 / 10 = 0
    · have single : x0.toNat / 10 = 0 := by rw [← quotient,last]; rfl
      rw [if_pos last,if_pos single]
      exact ((Puts.refl _ _ _).earlier inside).mono (by omega)
    · have more : x0.toNat / 10 ≠ 0 := fun none => last (BitVec.eq_of_toNat_eq (quotient.trans none))
      rw [if_neg last,if_neg more,← quotient]
      refine (ih _ _ _ _ ?_ (by omega)).earlier inside
      rw [Nat.pow_succ] at small
      omega

theorem itoa_puts (m : Mem) (x0 : BitVec 64) (x1 : Nat) :
    Puts m 20 (x1 + 20) 0 (H2.itoa x0.toNat) (itoa m x0 x1) := by
  have small := x0.isLt
  exact itoaPass_puts 19 m x0 (x1 + 20) 0 (by omega) (by omega)

/-! ### Strings of digits and numbers -/

/-- A string that stands for a number, and none that is shorter does. -/
structure Shortest (s : List UInt8) (n : Nat) : Prop where
  stands : decimal s = some n
  least : ∀ t, decimal t = some n → s.length ≤ t.length

theorem foldl_bound : ∀ (digits : List UInt8) (value : Nat), (∀ digit ∈ digits, digit.toNat - 48 < 10) →
    digits.foldl (fun value digit => 10 * value + (digit.toNat - 48)) value < (value + 1) * 10^digits.length := by
  intro digits
  induction digits with
  | nil => intro value _; simp
  | cons digit digits ih =>
    intro value each
    rw [List.forall_mem_cons] at each
    have rest := ih (10 * value + (digit.toNat - 48)) each.2
    rw [List.foldl_cons,List.length_cons,Nat.pow_succ]
    calc _ < (10 * value + (digit.toNat - 48) + 1) * 10^digits.length := rest
      _ ≤ ((value + 1) * 10) * 10^digits.length := Nat.mul_le_mul_right _ (by omega)
      _ = (value + 1) * (10^digits.length * 10) := by rw [Nat.mul_assoc,Nat.mul_comm 10]

/-- What a string stands for has at most as many digits. -/
theorem decimal_bound {s : List UInt8} {n : Nat} (stands : decimal s = some n) : s ≠ [] ∧ n < 10^s.length := by
  rw [decimal] at stands
  split at stands
  · next digits =>
    refine ⟨digits.1,?_⟩
    rw [← Option.some.inj stands]
    have each : ∀ digit ∈ s, digit.toNat - 48 < 10 := by
      intro digit mem
      have inside := List.all_eq_true.mp digits.2 digit mem
      simp only [Bool.and_eq_true,decide_eq_true_eq,UInt8.le_iff_toNat_le] at inside
      have high : digit.toNat ≤ 57 := inside.2
      omega
    simpa using foldl_bound s 0 each
  · cases stands

theorem itoa_length_le {n k : Nat} (small : n < 2^64) (positive : 0 < k) : (H2.itoa n).length ≤ k ↔ n < 10^k := by
  rw [itoa_repr small,ascii,List.length_map,Nat.toList_repr,Nat.length_toDigits_le_iff (by decide) positive]

theorem itoa_shortest {n : Nat} (small : n < 2^64) : Shortest (H2.itoa n) n := by
  refine ⟨itoa_decimal (by omega),fun t stands => ?_⟩
  obtain ⟨some_,bound⟩ := decimal_bound stands
  exact (itoa_length_le small (List.length_pos_of_ne_nil some_)).mpr bound

theorem atoiN_iff {s : List UInt8} {n : Nat} : atoiN s = some n ↔ s.length ≤ 18 ∧ decimal s = some n := by
  have same : isDigit = fun digit => decide (48 ≤ digit) && decide (digit ≤ 57) := rfl
  rw [atoiN,decimal,same]
  by_cases long : 19 ≤ s.length
  · rw [if_pos (.inl long)]
    exact iff_of_false nofun fun both => by omega
  by_cases proper : s ≠ [] ∧ s.all (fun digit => decide (48 ≤ digit) && decide (digit ≤ 57)) = true
  · rw [if_neg (by simp only [proper]; simp; omega),if_pos proper]
    exact ⟨fun value => ⟨by omega,value⟩,fun both => both.2⟩
  · rw [if_neg proper,if_pos]
    · exact iff_of_false nofun fun both => nomatch both.2
    · rw [not_and_or,not_not,Bool.not_eq_true] at proper
      exact .inr proper

/-- The routine accepts the strings of at most 18 digits. -/
theorem atoi_n_iff (m : Mem) (x0 x1 : Nat) (v : BitVec 64) :
    atoi_n m x0 x1 = ⟨v,false⟩ ↔ x1 ≤ 18 ∧ decimal (slice m x0 x1) = some v.toNat := by
  have accepted := @atoiN_iff (slice m x0 x1) v.toNat
  rw [slice_length] at accepted
  rw [atoi_n_reply,← accepted]
  cases read : atoiN (slice m x0 x1) with
  | none => exact iff_of_false nofun nofun
  | some n =>
    obtain ⟨few,stands⟩ := atoiN_iff.mp read
    have bound := (decimal_bound stands).2
    have most : 10^(slice m x0 x1).length ≤ 10^18 := Nat.pow_le_pow_right (by decide) few
    have word : n < 2^64 := by omega
    rw [reply,Parsed.mk.injEq,Option.some.injEq]
    constructor
    · rintro ⟨rfl,_⟩
      exact (BitVec.toNat_ofNat _ _ ▸ Nat.mod_eq_of_lt word).symm
    · rintro rfl
      exact ⟨BitVec.eq_of_toNat_eq (by simp),rfl⟩

theorem itoa_x1 (m : Mem) (n : BitVec 64) (x1 : Nat) : (itoa m n x1).x1 = (H2.itoa n.toNat).length := by
  rw [← (itoa_puts m n x1).text,slice_length]

/-- The string that is written is the shortest for the number and stands at the end of the buffer;
    a string is read if it has at most 18 octets and all are digits; and what is written is
    read as what it was written for. -/
theorem decimal_conversion :
    (∀ (m : Mem) (n : BitVec 64) (x1 : Nat),
      let w := itoa m n x1
      Shortest (slice w.mem w.x0 w.x1) n.toNat ∧ (w.x1 ≤ 20 ∧ x1 ≤ w.x0 ∧ w.x0 + w.x1 = x1 + 20) ∧
      ChangesOnly [(x1,20)] m w.mem ∧ (w.x1 ≤ 18 → atoi_n w.mem w.x0 w.x1 = ⟨n,false⟩)) ∧
    ∀ (m : Mem) (x0 x1 : Nat), atoi_n m x0 x1 = reply (atoiN (slice m x0 x1)) ∧
      ∀ v, atoi_n m x0 x1 = ⟨v,false⟩ ↔ x1 ≤ 18 ∧ decimal (slice m x0 x1) = some v.toNat := by
  refine ⟨fun m n x1 => ?_,fun m x0 x1 => ⟨atoi_n_reply m x0 x1,atoi_n_iff m x0 x1⟩⟩
  intro w
  obtain ⟨text,ends,low,same⟩ : Puts m 20 (x1 + 20) 0 (H2.itoa n.toNat) w := itoa_puts m n x1
  have shortest := itoa_shortest n.isLt
  rw [← text] at shortest
  have length : w.x1 ≤ 20 := by
    rw [show w.x1 = _ from itoa_x1 m n x1]
    exact itoa_length n.toNat
  refine ⟨shortest,⟨length,by omega,by omega⟩,?_,fun few => ?_⟩
  · intro i out
    have outside := out _ (List.mem_singleton_self _)
    exact same i (by dsimp only at outside; omega)
  · exact (atoi_n_iff _ _ _ _).mpr ⟨few,shortest.stands⟩

theorem decimal_conversion_two : (itoa (fun _ => 0) 42 0).x1 ≤ 18 ∧
    atoi_n (itoa (fun _ => 0) 42 0).mem (itoa (fun _ => 0) 42 0).x0 (itoa (fun _ => 0) 42 0).x1 = ⟨42,false⟩ := by
  have few : (itoa (fun _ => 0) 42 0).x1 ≤ 18 := by
    rw [itoa_x1]
    decide
  exact ⟨few,(decimal_conversion.1 (fun _ => 0) 42 0).2.2.2 few⟩

end Sarm.Decimal
