import Mathlib.Data.List.Basic
import Mathlib.Tactic.Ring

/-!
Strings of octets as numbers, the first octet the highest.
-/
namespace Sarm.Octets

/-- What holds of every octet that is the `UInt8` of a number below 256. -/
theorem forall_octet {P : UInt8 → Prop} (each : ∀ n < 256, P (UInt8.ofNat n)) (octet : UInt8) : P octet := by
  have here := each octet.toNat octet.toNat_lt
  rwa [UInt8.ofNat_toNat] at here

/-- The number that octets are the digits of. -/
def value (octets : List UInt8) : Nat := octets.foldl (fun n octet => 256 * n + octet.toNat) 0

theorem foldl_value (octets : List UInt8) (n : Nat) :
    octets.foldl (fun n octet => 256 * n + octet.toNat) n = 256^octets.length * n + value octets := by
  induction octets generalizing n with
  | nil => simp [value]
  | cons octet octets ih =>
    rw [value,List.foldl_cons,List.foldl_cons,ih,ih,List.length_cons,Nat.pow_succ]
    ring

@[simp]
theorem value_nil : value [] = 0 := rfl

theorem value_cons (octet : UInt8) (octets : List UInt8) :
    value (octet :: octets) = 256^octets.length * octet.toNat + value octets := by
  rw [value,List.foldl_cons,foldl_value]
  simp

theorem value_append (front back : List UInt8) : value (front ++ back) = 256^back.length * value front + value back := by
  rw [value,List.foldl_append,foldl_value]
  rfl

theorem value_lt (octets : List UInt8) : value octets < 256^octets.length := by
  induction octets with
  | nil => simp
  | cons octet octets ih =>
    have small := octet.toNat_lt
    rw [value_cons,List.length_cons,Nat.pow_succ]
    calc 256^octets.length * octet.toNat + value octets
        < 256^octets.length * octet.toNat + 256^octets.length := Nat.add_lt_add_left ih _
      _ = 256^octets.length * (octet.toNat + 1) := by ring
      _ ≤ 256^octets.length * 256 := Nat.mul_le_mul_left _ small

/-- Zeros in front do not count. -/
theorem value_zeros (n : Nat) (octets : List UInt8) : value (List.replicate n 0 ++ octets) = value octets := by
  induction n with
  | zero => rfl
  | succ n ih =>
    rw [List.replicate_succ,List.cons_append,value_cons,ih]
    simp

end Sarm.Octets
