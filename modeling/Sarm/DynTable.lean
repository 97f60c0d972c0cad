import Sarm.Memory

/-!
The HPACK dynamic table: a circular array of length pairs (`entries`), oldest at
`tail`, over a linear byte arena (`bytes`) that holds the names and values of the
live entries one after the other, oldest first. No entry stores its offset.

Every access to a slot or to the arena is checked here against the size of the
array it goes to, and `outOfBounds` stands for one that would leave it; the
machine code makes no such check.
-/
namespace Sarm.Hpack
open Sarm.Memory

/-- `H2_HPACK_HEADER_TABLE_SIZE`, also the capacity of the arena. -/
def headerTableSize : Nat := 4096
/-- `H2_HPACK_DYN_CAP_ENTRIES`. -/
def dynCapEntries : Nat := 128

/-- How an HPACK routine fails. -/
inductive HpackError where
  | compression
  | outOfBounds
  deriving DecidableEq, Repr

/-- A 64-bit addition that branches away on wraparound. -/
def ckadd (a b : Nat) : Option Nat := if a + b < 2^64 then some (a + b) else none

/-- Forward copy inside one memory: 16 bytes at a time, then byte by byte. -/
def memcpy (m : Mem) (dst src n : Nat) : Mem :=
  copyBlocks 1 (n % 16) (copyBlocks 16 (n / 16) m dst src) (dst + 16 * (n / 16)) (src + 16 * (n / 16))

structure DynEntry where
  nameLen : Nat
  valueLen : Nat
  deriving DecidableEq, Repr

/-- The dynamic table's globals `h2_hpack_dyn_max`, `_size`, `_used`, `_count`,
    `_tail`, `_entries` and `_bytes`. -/
structure DynTable where
  max : Nat
  size : Nat
  used : Nat
  count : Nat
  tail : Nat
  entries : Nat → DynEntry
  bytes : Mem

/-- Where the bytes handed to an insertion are read from: memory outside the
    arena, or an offset in the arena itself. -/
inductive Source where
  | outside (m : Mem)
  | arena (off : Nat)

def DynTable.slot (t : DynTable) (i : Nat) : Except HpackError DynEntry :=
  if i < dynCapEntries then .ok (t.entries i) else .error .outOfBounds

/-- The slot after `i`, round the array. -/
def nextSlot (i : Nat) : Nat := (i + 1) % dynCapEntries

/-- `n` bytes at `off` lie in the arena; no byte is touched when `n` is 0. -/
def inArena (off n : Nat) : Bool := n = 0 || off + n ≤ headerTableSize

def arenaMove (bytes : Mem) (dst src n : Nat) : Except HpackError Mem :=
  if inArena dst n && inArena src n then .ok (memcpy bytes dst src n) else .error .outOfBounds

def arenaStore (bytes : Mem) (dst : Nat) (source : Source) (n : Nat) : Except HpackError Mem :=
  match source with
  | .outside m => if inArena dst n then .ok (blit bytes dst m n) else .error .outOfBounds
  | .arena off => arenaMove bytes dst off n

/-- The registers of an eviction loop: running size, count and oldest slot, and
    the bytes freed so far. -/
structure Evicting where
  size : Nat
  count : Nat
  tail : Nat
  freed : Nat

def evictOne (t : DynTable) (r : Evicting) : Except HpackError Evicting :=
  match t.slot r.tail with
  | .error e => .error e
  | .ok entry => .ok
      { size := r.size - (entry.nameLen + entry.valueLen + 32)
        count := r.count - 1
        tail := nextSlot r.tail
        freed := r.freed + (entry.nameLen + entry.valueLen) }

/-- Evict while the loop's test asks for it. `live` bounds the turns by the
    entries there are: one more turn would read a slot that holds no entry. -/
def evictWhile (t : DynTable) (more : Evicting → Bool) : Nat → Evicting → Except HpackError Evicting
  | live, r =>
    if more r then
      match live with
      | 0 => .error .outOfBounds
      | live+1 =>
        match evictOne t r with
        | .error e => .error e
        | .ok r' => evictWhile t more live r'
    else .ok r

def DynTable.start (t : DynTable) : Evicting := ⟨t.size,t.count,t.tail,0⟩

/-- The table emptied, as for an entry larger than the maximum. -/
def DynTable.cleared (t : DynTable) : DynTable := { t with size := 0, used := 0, count := 0, tail := 0 }

/-- The eviction loop of an insertion: until the entry fits and a slot is free. -/
def insertEvict (t : DynTable) (entrySize : Nat) : Except HpackError Evicting :=
  evictWhile t (fun r => t.max < r.size + entrySize || dynCapEntries ≤ r.count) t.count t.start

/-- The arena after `freed` bytes have gone from its front. -/
def compact (bytes : Mem) (freed live : Nat) : Except HpackError Mem :=
  if freed = 0 then .ok bytes else arenaMove bytes 0 freed live

def h2HpackDynInsert (t : DynTable) (name : Source) (nameLen : Nat) (value : Source) (valueLen : Nat) :
    Except HpackError DynTable :=
  match (ckadd nameLen valueLen).bind (ckadd · 32) with
  | none => .ok t.cleared
  | some entrySize =>
    if t.max < entrySize then .ok t.cleared else do
      let r ← insertEvict t entrySize
      let live := t.used - r.freed
      let compacted ← compact t.bytes r.freed live
      let named ← arenaStore compacted live name nameLen
      let valued ← arenaStore named (live + nameLen) value valueLen
      let head := (r.tail + r.count) % dynCapEntries
      .ok { max := t.max
            size := r.size + entrySize
            used := live + nameLen + valueLen
            count := r.count + 1
            tail := r.tail
            entries := fun i => if i = head then ⟨nameLen,valueLen⟩ else t.entries i
            bytes := valued }

/-- The eviction loop of a size update: until the new maximum holds the rest. -/
def resizeEvict (t : DynTable) (max : Nat) : Except HpackError Evicting :=
  evictWhile t (fun r => max < r.size) t.count t.start

def h2HpackDynResize (t : DynTable) (max : Nat) : Except HpackError DynTable := do
  let r ← resizeEvict t max
  let live := t.used - r.freed
  let compacted ← compact t.bytes r.freed live
  .ok { t with max := max, size := r.size, count := r.count, tail := r.tail, used := live, bytes := compacted }

def h2HpackDynReset (t : DynTable) : DynTable :=
  { t with max := headerTableSize, size := 0, used := 0, count := 0, tail := 0 }

/-- What a lookup returns: offsets and lengths in the arena. -/
structure DynRef where
  name : Nat
  nameLen : Nat
  value : Nat
  valueLen : Nat
  deriving DecidableEq, Repr

/-- Walk `steps` entries from slot `i`, adding up their lengths. -/
def lookupWalk (t : DynTable) : Nat → Nat → Nat → Except HpackError (Nat × Nat)
  | 0, i, off => .ok (i,off)
  | steps+1, i, off =>
    match t.slot i with
    | .error e => .error e
    | .ok entry => lookupWalk t steps (nextSlot i) (off + (entry.nameLen + entry.valueLen))

def h2HpackDynLookup (t : DynTable) (index : Nat) : Except HpackError DynRef :=
  if index = 0 ∨ t.count < index then .error .compression else do
    let (i,off) ← lookupWalk t (t.count - index) t.tail 0
    let entry ← t.slot i
    .ok ⟨off,entry.nameLen,off + entry.nameLen,entry.valueLen⟩

/-! ### One lemma for each small operation -/

theorem memcpy_forward (m : Mem) {dst src : Nat} (n : Nat) (safe : dst ≤ src ∨ src + n ≤ dst) :
    memcpy m dst src n = blit m dst (shift m src) n := by
  have blocks := copyBlocks_forward 16 (n / 16) m dst src (by omega)
  rw [memcpy,blocks,copyBlocks_forward 1 (n % 16) _ _ _ (by omega)]
  have tail : blit (blit m dst (shift m src) (16 * (n / 16))) (dst + 16 * (n / 16))
        (shift (blit m dst (shift m src) (16 * (n / 16))) (src + 16 * (n / 16))) (1 * (n % 16)) =
      blit (blit m dst (shift m src) (16 * (n / 16))) (dst + 16 * (n / 16))
        (shift (shift m src) (16 * (n / 16))) (1 * (n % 16)) := by
    apply blit_congr
    intro i inside
    simp only [shift]
    rw [blit_outside (by omega),Nat.add_assoc]
  rw [tail,blit_blit]
  congr 1
  omega

theorem memcpy_outside (m : Mem) {dst src n i : Nat} (out : i < dst ∨ dst + n ≤ i) : memcpy m dst src n i = m i := by
  rw [memcpy,copyBlocks_outside _ _ _ _ _ _ (by omega),copyBlocks_outside _ _ _ _ _ _ (by omega)]

theorem slot_inside (t : DynTable) {i : Nat} (inside : i < dynCapEntries) : t.slot i = .ok (t.entries i) := by
  rw [DynTable.slot,if_pos inside]

theorem nextSlot_lt (i : Nat) : nextSlot i < dynCapEntries := Nat.mod_lt _ (by decide)

theorem nextSlot_add (i k : Nat) : (nextSlot i + k) % dynCapEntries = (i + (k + 1)) % dynCapEntries := by
  simp only [nextSlot,dynCapEntries]
  omega

theorem arenaMove_forward (bytes : Mem) {dst src n : Nat} (safe : dst ≤ src ∨ src + n ≤ dst)
    (low : dst + n ≤ headerTableSize) (high : src + n ≤ headerTableSize) :
    arenaMove bytes dst src n = .ok (blit bytes dst (shift bytes src) n) := by
  have target : inArena dst n = true := by simp [inArena]; omega
  have origin : inArena src n = true := by simp [inArena]; omega
  rw [arenaMove,target,origin,memcpy_forward bytes n safe]
  rfl

/-- The bytes a source stands for lie in the arena, or outside it. -/
def Source.Inside (n : Nat) : Source → Prop
  | .outside _ => True
  | .arena off => off + n ≤ headerTableSize

theorem arenaStore_outside (bytes : Mem) {dst n : Nat} (m : Mem) (fits : dst + n ≤ headerTableSize) :
    arenaStore bytes dst (.outside m) n = .ok (blit bytes dst m n) := by
  have inside : inArena dst n = true := by simp [inArena]; omega
  simp [arenaStore,inside]

/-- A store succeeds where there is room for it, and changes only its target. -/
theorem arenaStore_total (bytes : Mem) {dst n : Nat} {source : Source} (fits : dst + n ≤ headerTableSize)
    (inside : source.Inside n) :
    ∃ bytes', arenaStore bytes dst source n = .ok bytes' ∧ ∀ i, i < dst ∨ dst + n ≤ i → bytes' i = bytes i := by
  cases source with
  | outside m => exact ⟨_,arenaStore_outside bytes m fits,fun i out => blit_outside out⟩
  | arena off =>
    have target : inArena dst n = true := by simp [inArena]; omega
    have origin : inArena off n = true := by
      simp only [Source.Inside] at inside
      simp [inArena]; omega
    exact ⟨memcpy bytes dst off n,by simp [arenaStore,arenaMove,target,origin],fun i out => memcpy_outside bytes out⟩

theorem compact_eq (bytes : Mem) {freed live : Nat} (fits : freed + live ≤ headerTableSize) :
    compact bytes freed live = .ok (if freed = 0 then bytes else blit bytes 0 (shift bytes freed) live) := by
  rw [compact]
  split
  · rfl
  · exact arenaMove_forward bytes (.inl (Nat.zero_le _)) (by omega) fits

theorem evictWhile_stop {t : DynTable} {more : Evicting → Bool} {r : Evicting} (live : Nat)
    (stop : more r = false) : evictWhile t more live r = .ok r := by
  unfold evictWhile
  simp [stop]

theorem evictWhile_step {t : DynTable} {more : Evicting → Bool} {r r' : Evicting} (live : Nat)
    (go : more r = true) (one : evictOne t r = .ok r') :
    evictWhile t more (live+1) r = evictWhile t more live r' := by
  rw [evictWhile]
  simp [go,one]

end Sarm.Hpack
