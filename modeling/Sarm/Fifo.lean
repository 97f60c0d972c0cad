import Mathlib.Algebra.Order.BigOperators.Group.List
import Mathlib.Algebra.Ring.Nat
import Mathlib.Data.List.Basic
import Mathlib.Tactic.Common

/-!
A first-in first-out queue bounded by the total weight of its entries. Making
room drops entries from the oldest end until the rest fits; an entry heavier
than the whole bound empties the queue and is not kept. A `Queue` carries its
bound as a field, so an overfull queue cannot be built.
-/
namespace Sarm.Fifo

universe u
variable {α : Type u} (weight : α → Nat)

/-- The weight of all entries together. -/
def total (q : List α) : Nat := (q.map weight).sum

@[simp] theorem total_nil : total weight [] = 0 := rfl

@[simp] theorem total_cons (e : α) (q : List α) : total weight (e :: q) = weight e + total weight q := by
  simp [total]

@[simp] theorem total_append (q r : List α) : total weight (q ++ r) = total weight q + total weight r := by
  simp [total]

/-- What is left once oldest entries have been dropped until `limit` holds the rest. -/
def evict (limit : Nat) : List α → List α
  | [] => []
  | e :: q => if total weight (e :: q) ≤ limit then e :: q else evict limit q

theorem evict_fits {limit : Nat} {q : List α} (fits : total weight q ≤ limit) : evict weight limit q = q := by
  cases q with
  | nil => rfl
  | cons e q => rw [evict,if_pos fits]

theorem evict_full {limit : Nat} {e : α} {q : List α} (full : limit < total weight (e :: q)) :
    evict weight limit (e :: q) = evict weight limit q := by
  rw [evict,if_neg (by omega)]

theorem total_evict (limit : Nat) (q : List α) : total weight (evict weight limit q) ≤ limit := by
  induction q with
  | nil => simp [evict]
  | cons e q ih =>
    rw [evict]
    split
    · assumption
    · exact ih

/-- Only oldest entries are dropped. -/
theorem evict_suffix (limit : Nat) (q : List α) : evict weight limit q <:+ q := by
  induction q with
  | nil => exact List.suffix_rfl
  | cons e q ih =>
    rw [evict]
    split
    · exact List.suffix_rfl
    · exact ih.trans (List.suffix_cons e q)

theorem length_le_total {least : Nat} (heavy : ∀ e, least ≤ weight e) (q : List α) :
    least * q.length ≤ total weight q := by
  induction q with
  | nil => simp
  | cons e q ih =>
    have head := heavy e
    rw [List.length_cons,Nat.mul_succ,total_cons]
    omega

/-- The `i`-th most recent entry, counting from 1. -/
def recent (q : List α) : Nat → Option α
  | 0 => none
  | i+1 => q.reverse[i]?

theorem recent_eq_none_iff (q : List α) (i : Nat) : recent q i = none ↔ i = 0 ∨ q.length < i := by
  cases i with
  | zero => simp [recent]
  | succ i =>
    rw [recent,List.getElem?_eq_none_iff,List.length_reverse]
    omega

theorem recent_eq_getElem {q : List α} {i : Nat} (positive : i ≠ 0) (inside : i ≤ q.length) :
    recent q i = q[q.length - i]? := by
  obtain ⟨j,rfl⟩ := Nat.exists_eq_succ_of_ne_zero positive
  have bound : j < q.length := by omega
  rw [recent,List.getElem?_reverse bound,Nat.sub_sub,Nat.add_comm]

/-- A queue together with the bound it keeps, oldest entry first. -/
structure Queue where
  max : Nat
  entries : List α
  fits : total weight entries ≤ max

namespace Queue
variable {weight}

/-- No entries. -/
def empty (max : Nat) : Queue weight := ⟨max,[],Nat.zero_le max⟩

/-- Append the newest entry after making room for it; an entry that cannot fit
    leaves an empty queue. -/
def push (q : Queue weight) (e : α) : Queue weight :=
  if room : weight e ≤ q.max then
    ⟨q.max,evict weight (q.max - weight e) q.entries ++ [e],by
      have kept := total_evict weight (q.max - weight e) q.entries
      simp only [total_append,total_cons,total_nil]
      omega⟩
  else empty q.max

/-- Change the bound, dropping what no longer fits. -/
def resize (q : Queue weight) (max : Nat) : Queue weight :=
  ⟨max,evict weight max q.entries,total_evict weight max q.entries⟩

@[simp] theorem empty_max (max : Nat) : (empty max : Queue weight).max = max := rfl
@[simp] theorem empty_entries (max : Nat) : (empty max : Queue weight).entries = [] := rfl
@[simp] theorem resize_max (q : Queue weight) (max : Nat) : (q.resize max).max = max := rfl
@[simp] theorem resize_entries (q : Queue weight) (max : Nat) :
    (q.resize max).entries = evict weight max q.entries := rfl

@[simp] theorem push_max (q : Queue weight) (e : α) : (q.push e).max = q.max := by
  unfold push
  split <;> rfl

theorem push_entries (q : Queue weight) (e : α) (room : weight e ≤ q.max) :
    (q.push e).entries = evict weight (q.max - weight e) q.entries ++ [e] := by
  rw [push,dif_pos room]

theorem push_oversized (q : Queue weight) (e : α) (big : q.max < weight e) : q.push e = empty q.max := by
  rw [push,dif_neg (by omega)]

end Queue

end Sarm.Fifo
