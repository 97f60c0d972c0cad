import Sarm.Memory

/-!
Octets laid into a memory, one run behind the other: what a writer of a message leaves, and that it
changes nothing else.
-/
namespace Sarm.Memory

/-- Octets stored one after the other. -/
def layAt (m : Mem) (a : Nat) (text : List UInt8) : Mem := blit m a (ofBytes text) text.length

/-- From `a` on there is the text, and nothing else has changed. -/
structure Lays (m : Mem) (a : Nat) (text : List UInt8) (m' : Mem) : Prop where
  laid : slice m' a text.length = text
  changes : ChangesOnly [(a,text.length)] m m'

theorem Lays.nil (m : Mem) (a : Nat) : Lays m a [] m := ⟨rfl,.refl _ _⟩

theorem Lays.octets (m : Mem) (a : Nat) (text : List UInt8) : Lays m a text (layAt m a text) := by
  refine ⟨?_,fun i outside => blit_outside (outside (a,text.length) (List.mem_singleton_self _))⟩
  rw [layAt,slice_blit_same,slice_ofBytes]

theorem Lays.octet (m : Mem) (a : Nat) (b : UInt8) : Lays m a [b] (store m a b) := by
  refine ⟨by simp [slice_succ],fun i outside => store_other _ _ ?_⟩
  have := outside (a,1) (List.mem_singleton_self _)
  omega

/-- A forward copy from elsewhere. -/
theorem Lays.copy (m : Mem) {a src n size count : Nat} (whole : size * count = n) (apart : Clear a n src n) :
    Lays m a (slice m src n) (copyBlocks size count m a src) := by
  subst whole
  unfold Clear at apart
  rw [copyBlocks_forward size count m a src (by omega)]
  refine ⟨?_,fun i outside => ?_⟩
  · rw [slice_length,slice_blit_same,slice_shift,Nat.add_zero]
  · have := outside (a,(slice m src (size * count)).length) (List.mem_singleton_self _)
    rw [slice_length] at this
    exact blit_outside this

/-- What is elsewhere is as it was. -/
theorem Lays.keeps {m m' : Mem} {a b n : Nat} {text : List UInt8} (lays : Lays m a text m')
    (apart : Clear a text.length b n) : slice m' b n = slice m b n :=
  lays.changes.slice (List.forall_mem_singleton.mpr apart)

/-- One text behind the other. -/
theorem Lays.append {m m1 m2 : Mem} {a : Nat} {front back : List UInt8} (first : Lays m a front m1)
    (second : Lays m1 (a + front.length) back m2) : Lays m a (front ++ back) m2 := by
  constructor
  · rw [List.length_append,slice_add,second.laid,second.changes.slice (by simp),first.laid]
  · refine (first.changes.mono ?_).trans (second.changes.mono ?_)
    · simp
    · simp
      omega

theorem Lays.behind {m m1 m2 : Mem} {a b : Nat} {front back : List UInt8} (first : Lays m a front m1)
    (second : Lays m1 b back m2) (place : b = a + front.length) : Lays m a (front ++ back) m2 := by
  subst place
  exact first.append second

/-- What is copied behind a text is what was there before it. -/
theorem Lays.copied {m m1 : Mem} {a b src n size count : Nat} {front : List UInt8} (first : Lays m a front m1)
    (whole : size * count = n) (apart : Clear a (front.length + n) src n) (place : b = a + front.length) :
    Lays m a (front ++ slice m src n) (copyBlocks size count m1 b src) := by
  have copy := @Lays.copy m1 b src n size count whole (apart.part (by omega) (by omega) le_rfl le_rfl)
  rw [first.keeps (apart.part le_rfl (by omega) le_rfl le_rfl)] at copy
  exact first.behind copy place

/-- The text in front is laid last. -/
theorem Lays.before {m m1 m2 : Mem} {a : Nat} {front back : List UInt8} (second : Lays m (a + front.length) back m1)
    (first : Lays m1 a front m2) : Lays m a (front ++ back) m2 := by
  constructor
  · rw [List.length_append,slice_add,first.laid,first.changes.slice (by simp),second.laid]
  · refine (second.changes.mono ?_).trans (first.changes.mono ?_)
    · simp
      omega
    · simp

end Sarm.Memory
