import Mathlib.Data.BitVec
import Mathlib.Data.List.Basic
import Mathlib.Tactic.Common

/-!
Byte memory seen as a function of the address: reading a run of bytes (`slice`),
overwriting a run (`blit`), and the forward block copy that a `memcpy` performs
inside one memory. A copy to a lower address, or to a place it does not overlap,
equals the simultaneous overwrite, because no block is read after a byte of it has
been written over.
-/
namespace Sarm.Memory

/-- Bytes by address. -/
abbrev Mem := Nat → UInt8

/-- The `n` bytes from address `off` on, in order. -/
def slice (m : Mem) (off n : Nat) : List UInt8 := (List.range' off n).map m

/-- `m` with the `n` bytes from `dst` on taken from `src`. -/
def blit (m : Mem) (dst : Nat) (src : Mem) (n : Nat) : Mem :=
  fun i => if dst ≤ i ∧ i < dst + n then src (i - dst) else m i

/-- `f` with the value at `i` replaced. -/
def store {α : Type} (f : Nat → α) (i : Nat) (a : α) : Nat → α := fun j => if j = i then a else f j

/-- The memory from address `off` on. -/
def shift (m : Mem) (off : Nat) : Mem := fun i => m (off + i)

/-- A memory that starts with the given bytes. -/
def ofBytes (bytes : List UInt8) : Mem := fun i => bytes.getD i 0

/-- `count` blocks of `size` bytes copied one after the other, lowest first. Each
    block is read in full before it is stored. -/
def copyBlocks (size : Nat) : Nat → Mem → Nat → Nat → Mem
  | 0, m, _, _ => m
  | count+1, m, dst, src => copyBlocks size count (blit m dst (shift m src) size) (dst + size) (src + size)

/-! ### Reading -/

@[simp] theorem slice_length (m : Mem) (off n : Nat) : (slice m off n).length = n := by simp [slice]

@[simp] theorem slice_zero (m : Mem) (off : Nat) : slice m off 0 = [] := rfl

theorem slice_succ (m : Mem) (off n : Nat) : slice m off (n+1) = m off :: slice m (off+1) n := by
  simp [slice,List.range'_succ]

theorem slice_add (m : Mem) (off a b : Nat) : slice m off (a+b) = slice m off a ++ slice m (off+a) b := by
  rw [slice,← List.range'_append_1,List.map_append]
  rfl

theorem slice_drop (m : Mem) (off n k : Nat) : (slice m off n).drop k = slice m (off+k) (n-k) := by
  apply List.ext_getElem
  · simp
  · intro i _ _
    simp [slice,Nat.add_assoc]

theorem slice_getD (m : Mem) (a : Nat) {n i : Nat} (inside : i < n) : (slice m a n).getD i 0 = m (a+i) := by
  rw [List.getD_eq_getElem?_getD]
  simp [slice,inside]

theorem slice_congr {m m' : Mem} {off off' n : Nat} (same : ∀ i < n, m (off+i) = m' (off'+i)) :
    slice m off n = slice m' off' n := by
  apply List.ext_getElem (by simp)
  intro i inside _
  have bound : i < n := by simpa using inside
  simpa [slice] using same i bound

theorem slice_eq_iff {m m' : Mem} {off off' n : Nat} :
    slice m off n = slice m' off' n ↔ ∀ i < n, m (off+i) = m' (off'+i) := by
  refine ⟨fun equal i inside => ?_,slice_congr⟩
  have element := congrArg (fun l => l[i]?) equal
  simpa [slice,inside] using element

theorem slice_shift (m : Mem) (base off n : Nat) : slice (shift m base) off n = slice m (base+off) n :=
  slice_congr (fun i _ => by simp [shift,Nat.add_assoc])

/-- A run inside a longer run. -/
theorem slice_drop_take {m : Mem} {off n a b : Nat} (fits : a + b ≤ n) :
    ((slice m off n).drop a).take b = slice m (off+a) b := by
  obtain ⟨rest,rfl⟩ := Nat.exists_eq_add_of_le fits
  rw [Nat.add_assoc,slice_add,slice_add]
  simp

theorem slice_ofBytes (bytes : List UInt8) : slice (ofBytes bytes) 0 bytes.length = bytes := by
  apply List.ext_getElem (by simp)
  intro i _ inside
  simp [slice,ofBytes,inside]

theorem slice_ofBytes_append (bytes rest : List UInt8) : slice (ofBytes (bytes ++ rest)) 0 bytes.length = bytes := by
  apply List.ext_getElem (by simp)
  intro i _ inside
  simp [slice,ofBytes,List.getElem?_append_left,inside]

theorem ofBytes_slice {m : Mem} {off n i : Nat} (inside : i < n) : ofBytes (slice m off n) i = m (off+i) := by
  simp [ofBytes,slice,inside]

/-! ### Overwriting -/

@[simp] theorem store_same {α : Type} (f : Nat → α) (i : Nat) (a : α) : store f i a i = a := if_pos rfl

@[simp] theorem store_other {α : Type} (f : Nat → α) {i j : Nat} (a : α) (other : j ≠ i) : store f i a j = f j :=
  if_neg other

theorem blit_inside {m src : Mem} {dst n i : Nat} (low : dst ≤ i) (high : i < dst + n) :
    blit m dst src n i = src (i - dst) := by
  simp [blit,low,high]

theorem blit_outside {m src : Mem} {dst n i : Nat} (out : i < dst ∨ dst + n ≤ i) : blit m dst src n i = m i := by
  have no : ¬ (dst ≤ i ∧ i < dst + n) := by omega
  simp [blit,no]

@[simp] theorem blit_zero (m src : Mem) (dst : Nat) : blit m dst src 0 = m := by
  funext i
  exact blit_outside (by omega)

theorem slice_blit_same (m src : Mem) (dst n : Nat) : slice (blit m dst src n) dst n = slice src 0 n := by
  apply slice_congr
  intro i inside
  rw [blit_inside (by omega) (by omega)]
  congr 1
  omega

theorem slice_blit_before {m src : Mem} {dst n off k : Nat} (before : off + k ≤ dst) :
    slice (blit m dst src n) off k = slice m off k :=
  slice_congr (fun i inside => blit_outside (by omega))

theorem slice_blit_after {m src : Mem} {dst n off k : Nat} (after : dst + n ≤ off) :
    slice (blit m dst src n) off k = slice m off k :=
  slice_congr (fun i _ => blit_outside (by omega))

/-- Overwriting two adjacent runs is overwriting their union. -/
theorem blit_blit (m src : Mem) (dst a b : Nat) :
    blit (blit m dst src a) (dst + a) (shift src a) b = blit m dst src (a + b) := by
  funext i
  simp only [blit,shift]
  by_cases low : dst ≤ i
  · by_cases first : i < dst + a
    · rw [if_neg (by omega),if_pos (by omega),if_pos (by omega)]
    · by_cases second : i < dst + a + b
      · rw [if_pos (by omega),if_pos (by omega)]
        congr 1
        omega
      · rw [if_neg (by omega),if_neg (by omega),if_neg (by omega)]
  · rw [if_neg (by omega),if_neg (by omega),if_neg (by omega)]

theorem blit_congr {m src src' : Mem} {dst n : Nat} (same : ∀ i < n, src i = src' i) :
    blit m dst src n = blit m dst src' n := by
  funext i
  simp only [blit]
  split
  · exact same _ (by omega)
  · rfl

/-! ### Copying forward -/

/-- A forward copy is the simultaneous overwrite unless it would run into bytes it
    has written: the target is not above the source, or the two do not overlap. -/
theorem copyBlocks_forward (size : Nat) : ∀ (count : Nat) (m : Mem) (dst src : Nat),
    dst ≤ src ∨ src + size * count ≤ dst →
      copyBlocks size count m dst src = blit m dst (shift m src) (size * count) := by
  intro count
  induction count with
  | zero => intro m dst src _; simp [copyBlocks]
  | succ count ih =>
    intro m dst src safe
    rw [Nat.mul_succ] at safe
    have tail := ih (blit m dst (shift m src) size) (dst + size) (src + size) (by omega)
    -- The first block lies outside every byte that is still to be read.
    have unread : blit (blit m dst (shift m src) size) (dst + size)
          (shift (blit m dst (shift m src) size) (src + size)) (size * count) =
        blit (blit m dst (shift m src) size) (dst + size) (shift (shift m src) size) (size * count) := by
      apply blit_congr
      intro i inside
      simp only [shift]
      rw [blit_outside (by omega),Nat.add_assoc]
    rw [copyBlocks,tail,unread,blit_blit]
    congr 1
    rw [Nat.mul_succ,Nat.add_comm]

/-- Whatever it overlaps, a copy changes only its target. -/
theorem copyBlocks_outside (size : Nat) : ∀ (count : Nat) (m : Mem) (dst src i : Nat),
    i < dst ∨ dst + size * count ≤ i → copyBlocks size count m dst src i = m i := by
  intro count
  induction count with
  | zero => intro m dst src i _; rfl
  | succ count ih =>
    intro m dst src i out
    rw [Nat.mul_succ] at out
    rw [copyBlocks,ih _ _ _ _ (by omega),blit_outside (by omega)]

/-! ### What a run may change -/

/-- `m'` is `m` outside these runs of addresses, each given by its start and length. -/
def ChangesOnly (regions : List (Nat × Nat)) (m m' : Mem) : Prop :=
  ∀ i, (∀ r ∈ regions, i < r.1 ∨ r.1 + r.2 ≤ i) → m' i = m i

theorem ChangesOnly.refl (regions : List (Nat × Nat)) (m : Mem) : ChangesOnly regions m m := fun _ _ => rfl

theorem ChangesOnly.trans {regions : List (Nat × Nat)} {m m' m'' : Mem} (first : ChangesOnly regions m m')
    (second : ChangesOnly regions m' m'') : ChangesOnly regions m m'' := by
  intro i outside
  rw [second i outside,first i outside]

/-- Each run lies in one of the wider ones. -/
theorem ChangesOnly.mono {regions wider : List (Nat × Nat)} {m m' : Mem} (changes : ChangesOnly regions m m')
    (inside : ∀ r ∈ regions, ∃ w ∈ wider, w.1 ≤ r.1 ∧ r.1 + r.2 ≤ w.1 + w.2) : ChangesOnly wider m m' := by
  intro i outside
  apply changes i
  intro r member
  obtain ⟨w,within,low,high⟩ := inside r member
  have := outside w within
  omega

theorem ChangesOnly.slice {regions : List (Nat × Nat)} {m m' : Mem} (changes : ChangesOnly regions m m') {a n : Nat}
    (apart : ∀ r ∈ regions, a + n ≤ r.1 ∨ r.1 + r.2 ≤ a) : slice m' a n = slice m a n := by
  apply slice_congr
  intro i inside
  apply changes
  intro r member
  have := apart r member
  omega

/-- The `n` addresses from `a` on have none of the `k` from `b` on. -/
def Clear (b k a n : Nat) : Prop := a + n ≤ b ∨ b + k ≤ a

/-- A part of each. -/
theorem Clear.part {b k a n b' k' a' n' : Nat} (clear : Clear b k a n) (low : b ≤ b') (high : b' + k' ≤ b + k)
    (low' : a ≤ a')
    (high' : a' + n' ≤ a + n) : Clear b' k' a' n' := by
  unfold Clear at *
  omega

theorem Clear.symm {b k a n : Nat} (clear : Clear b k a n) : Clear a n b k := Or.symm clear

theorem ChangesOnly.clear {b k a n : Nat} {rest : List (Nat × Nat)} (first : Clear b k a n)
    (others : ∀ r ∈ rest, a + n ≤ r.1 ∨ r.1 + r.2 ≤ a) : ∀ r ∈ (b,k) :: rest, a + n ≤ r.1 ∨ r.1 + r.2 ≤ a :=
  List.forall_mem_cons.mpr ⟨first,others⟩

theorem ChangesOnly.slice_pair {b k c l a n : Nat} {m m' : Mem} (changes : ChangesOnly [(b,k),(c,l)] m m')
    (first : Clear b k a n)
    (second : Clear c l a n) : Memory.slice m' a n = Memory.slice m a n :=
  changes.slice (ChangesOnly.clear first (ChangesOnly.clear second (by simp)))

end Sarm.Memory
