import Sarm.Neon
import Sarm.Words

/-!
Strings of doublewords in memory, the lowest one first.
-/
namespace Sarm.Limbs
open Sarm.Memory Sarm.Words
open Sarm.Neon (ldr str ldr_str ldr_congr ldr_str_apart str_outside)

abbrev Limb := BitVec 64

/-- The `n` doublewords from `a` on. -/
def limbs (m : Mem) (a : Nat) : Nat → List Limb
  | 0 => []
  | n+1 => ldr 64 m a :: limbs m (a+8) n

/-- Doublewords stored one after the other. -/
def storeLimbs (m : Mem) (a : Nat) : List Limb → Mem
  | [] => m
  | x :: xs => storeLimbs (str m a x) (a+8) xs

@[simp] theorem limbs_length (m : Mem) (a n : Nat) : (limbs m a n).length = n := by
  induction n generalizing a with
  | zero => rfl
  | succ n ih => rw [limbs,List.length_cons,ih]

theorem limbs_add (m : Mem) (a n k : Nat) : limbs m a (n + k) = limbs m a n ++ limbs m (a + 8 * n) k := by
  induction n generalizing a with
  | zero => rw [Nat.zero_add]; rfl
  | succ n ih => rw [Nat.succ_add,limbs,ih,limbs,List.cons_append,Nat.add_assoc,Nat.mul_succ,Nat.add_comm (8 * n)]

theorem storeLimbs_outside {xs : List Limb} {m : Mem} {a i : Nat} (out : i < a ∨ a + 8 * xs.length ≤ i) :
    storeLimbs m a xs i = m i := by
  induction xs generalizing m a with
  | nil => rfl
  | cons x xs ih =>
    rw [List.length_cons] at out
    rw [storeLimbs,ih (by omega)]
    exact str_outside x (by omega)

theorem storeLimbs_changes {n : Nat} {xs : List Limb} (length : xs.length = n) (m : Mem) (a : Nat) :
    ChangesOnly [(a,8 * n)] m (storeLimbs m a xs) :=
  fun _ out => storeLimbs_outside (length ▸ out _ (List.mem_singleton_self _))

theorem limbs_storeLimbs (m : Mem) (a : Nat) (xs : List Limb) : limbs (storeLimbs m a xs) a xs.length = xs := by
  induction xs generalizing m a with
  | nil => rfl
  | cons x xs ih =>
    have first : ldr 64 (storeLimbs (str m a x) (a+8) xs) a = x := by
      refine Eq.trans (ldr_congr 8 rfl (by decide) fun k inside => storeLimbs_outside (by omega)) ?_
      exact ldr_str 8 rfl (by decide) m a x
    rw [List.length_cons,limbs,storeLimbs,first,ih]

theorem limbs_stored {m : Mem} {a n : Nat} {xs : List Limb} (length : xs.length = n) :
    limbs (storeLimbs m a xs) a n = xs :=
  length ▸ limbs_storeLimbs m a xs

/-- What is stored does not depend on what was there. -/
theorem storeLimbs_inside {xs : List Limb} (m m' : Mem) {a i : Nat} (low : a ≤ i) (high : i < a + 8 * xs.length) :
    storeLimbs m a xs i = storeLimbs m' a xs i := by
  induction xs generalizing m m' a with
  | nil => simp at high; omega
  | cons x xs ih =>
    rw [List.length_cons] at high
    rw [storeLimbs,storeLimbs]
    by_cases first : i < a + 8
    · rw [storeLimbs_outside (by omega),storeLimbs_outside (by omega)]
      exact (blit_inside low (by omega)).trans (blit_inside low (by omega)).symm
    · exact ih _ _ (by omega) (by omega)

/-- Storing again replaces what has been stored. -/
theorem storeLimbs_twice {xs ys : List Limb} (m : Mem) (a : Nat) (fewer : xs.length ≤ ys.length) :
    storeLimbs (storeLimbs m a xs) a ys = storeLimbs m a ys := by
  funext i
  by_cases inside : a ≤ i ∧ i < a + 8 * ys.length
  · exact storeLimbs_inside _ _ inside.1 inside.2
  · rw [storeLimbs_outside (by omega),storeLimbs_outside (by omega),storeLimbs_outside (by omega)]

end Sarm.Limbs
