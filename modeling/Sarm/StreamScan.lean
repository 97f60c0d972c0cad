import Sarm.BitScan
import Sarm.TableOps

/-!
The stream table as it lies in memory: ids of 32 bits in one array, and a word of bits each for the
slots in use and for the closed ones. Lookups and allocations go over it without branches, and come
to what a plain scan of the entries comes to.
-/
namespace Sarm.H2.Packed
open Sarm.Memory Sarm.BitScan

/-- `h2_stream_ids`, `h2_stream_used`, `h2_stream_closed` and `h2_streams`. -/
structure Table where
  ids : Nat → BitVec 32
  used : BitVec 64
  closed : BitVec 64
  streams : Nat → Stream

/-- The slots' numbers plus one. -/
def slotIds : List (BitVec 8) := (List.range maxStreams).map fun i => BitVec.ofNat 8 (i + 1)

/-- Four ids, as a register holds them. -/
def quad (ids : Nat → BitVec 32) (k : Nat) : List (BitVec 32) := [ids (4*k),ids (4*k+1),ids (4*k+2),ids (4*k+3)]

/-- One pass over the ids: the lowest slot that holds `w`, or a number that is no slot. -/
def scanIds (ids : Nat → BitVec 32) (w : BitVec 32) : Nat :=
  let v0 := List.replicate 4 w
  let v1 := cmeq (quad ids 0) v0
  let v2 := cmeq (quad ids 1) v0
  let v3 := cmeq (quad ids 2) v0
  let v4 := cmeq (quad ids 3) v0
  let v5 := cmeq (quad ids 4) v0
  let v6 := cmeq (quad ids 5) v0
  let v7 := cmeq (quad ids 6) v0
  let v16 := cmeq (quad ids 7) v0
  let v1 := uzp1 (halves 16 v1) (halves 16 v2)
  let v3 := uzp1 (halves 16 v3) (halves 16 v4)
  let v5 := uzp1 (halves 16 v5) (halves 16 v6)
  let v7 := uzp1 (halves 16 v7) (halves 16 v16)
  let v1 := uzp1 (halves 8 v1) (halves 8 v3)
  let v5 := uzp1 (halves 8 v5) (halves 8 v7)
  let v1 := orn (slotIds.take 16) v1
  let v5 := orn (slotIds.drop 16) v5
  let v1 := umin v1 v5
  ((uminv v1).setWidth 64 - 1#64).toNat

def h2StreamFind (t : Table) (id : Nat) : Option Nat :=
  if id / 2^31 ≠ 0 then none
  else
    let slot := scanIds t.ids (BitVec.ofNat 32 id)
    if maxStreams ≤ slot then none else some slot

/-- The closed slots in `mask`, the lowest first; `slot` and `best` are the oldest so far. The fuel
    bounds the turns by the bits there are. -/
def recycleLoop (ids : Nat → BitVec 32) : Nat → BitVec 64 → Nat → BitVec 32 → Option Nat
  | 0, _, _, _ => none
  | fuel+1, mask, slot, best =>
    let next := lowest mask
    let id := ids next
    let slot' := if id < best then next else slot
    let best' := if id < best then id else best
    let rest := dropLowest mask
    if rest = 0#64 then some slot' else recycleLoop ids fuel rest slot' best'

def initSlot (t : Table) (c : Conn) (slot id : Nat) : Except H2Error Nat × Table × Conn :=
  (.ok slot,
    { ids := store t.ids slot (BitVec.ofNat 32 id)
      used := t.used ||| (1#64 <<< slot)
      closed := t.closed &&& ~~~(1#64 <<< slot)
      streams := store t.streams slot ⟨id,.idle,0,false,BitVec.ofNat 64 c.initialWindowSize⟩ },
    { c with lastStreamId := id })

/-- The entry or the error, and what has become of the table and the connection. -/
def h2StreamCreate (t : Table) (c : Conn) (id : Nat) : Except H2Error Nat × Table × Conn :=
  let slot := scanIds t.ids (BitVec.ofNat 32 id)
  if slot < maxStreams then (.ok slot,t,c)
  else
    let free := lowest (~~~t.used)
    if free < maxStreams then initSlot t c free id
    else if t.closed = 0#64 then (.error .refusedStream,t,c)
    else match recycleLoop t.ids 64 t.closed 0 (BitVec.allOnes 32) with
      | some slot => initSlot t c slot id
      | none => (.error .internalError,t,c)

/-! ### The pass over the ids -/

section
variable {ids : Nat → BitVec 32} {w : BitVec 32}

/-- What a slot contributes to the minimum. -/
def lane (ids : Nat → BitVec 32) (w : BitVec 32) (i : Nat) : BitVec 8 :=
  if ids i == w then BitVec.ofNat 8 (i + 1) else BitVec.allOnes 8

theorem quad_equal (k : Nat) : cmeq (quad ids k) (List.replicate 4 w) = ((quad ids k).map (· == w)).map (mask (2 * 16)) :=
  cmeq_splat (quad ids k) w

/-- Four registers narrowed into one. -/
theorem narrowed (a b c d : List Bool) :
    uzp1 (halves 8 (uzp1 (halves 16 (a.map (mask (2 * 16)))) (halves 16 (b.map (mask (2 * 16))))))
    (halves 8 (uzp1 (halves 16 (c.map (mask (2 * 16)))) (halves 16 (d.map (mask (2 * 16)))))) =
      (a ++ b ++ (c ++ d)).map (mask 8) := by
  rw [uzp1_halves a b,uzp1_halves c d]
  exact uzp1_halves (w := 8) (a ++ b) (c ++ d)

theorem scanIds_lanes : scanIds ids w =
    ((uminv ((List.range 16).map fun i => least (lane ids w i) (lane ids w (16 + i)))).setWidth 64 - 1#64).toNat := by
  have front : (quad ids 0).map (· == w) ++ (quad ids 1).map (· == w) ++
    ((quad ids 2).map (· == w) ++ (quad ids 3).map (· == w)) =
      (List.range 16).map fun i => ids i == w := rfl
  have back : (quad ids 4).map (· == w) ++ (quad ids 5).map (· == w) ++
    ((quad ids 6).map (· == w) ++ (quad ids 7).map (· == w)) =
      (List.range 16).map fun i => ids (16 + i) == w := rfl
  have low : slotIds.take 16 = (List.range 16).map fun i => BitVec.ofNat 8 (i + 1) := by decide
  have high : slotIds.drop 16 = (List.range 16).map fun i => BitVec.ofNat 8 (16 + i + 1) := by decide
  rw [scanIds,quad_equal,quad_equal,quad_equal,quad_equal,quad_equal,quad_equal,quad_equal,quad_equal,narrowed,
    narrowed,front,back,low,high,orn_mask,orn_mask,umin_map]
  rfl

theorem lane_toNat {i : Nat} (inside : i < 32) : (lane ids w i).toNat = if ids i = w then i + 1 else 255 := by
  rw [lane]
  by_cases here : ids i = w
  · rw [if_pos (beq_iff_eq.mpr here),if_pos here,BitVec.toNat_ofNat]
    omega
  · rw [if_neg (here ∘ beq_iff_eq.mp),if_neg here]
    rfl

/-- The pass finds the lowest slot with the id, or no slot. -/
theorem scanIds_cases : (∃ i < maxStreams, scanIds ids w = i ∧ ids i = w ∧ ∀ j < i, ids j ≠ w) ∨
    (maxStreams ≤ scanIds ids w ∧ ∀ j < maxStreams, ids j ≠ w) := by
  rw [scanIds_lanes]
  obtain ⟨each,one⟩ := uminv_least (lane ids w) 16
  generalize uminv ((List.range 16).map fun i => least (lane ids w i) (lane ids w (16 + i))) = r at each one
  have width : (r.setWidth 64 - 1#64).toNat = if r.toNat = 0 then 2^64 - 1 else r.toNat - 1 := by
    have small := r.isLt
    rw [BitVec.toNat_sub,BitVec.toNat_setWidth,BitVec.toNat_ofNat]
    split <;> omega
  rw [width]
  have slots : maxStreams = 32 := rfl
  -- No lane holds zero, and the one that is least tells which slot it is of.
  have found : r.toNat = 255 ∨ ∃ i < 32, r.toNat = i + 1 ∧ ids i = w := by
    rcases one with none_ | ⟨i,inside,same⟩
    · exact .inl (by rw [none_]; rfl)
    · rw [same,lane_toNat inside]
      split
      next here => exact .inr ⟨i,inside,rfl,here⟩
      next => exact .inl rfl
  rcases found with none_ | ⟨i,inside,same,here⟩
  · refine .inr ⟨by rw [none_]; decide,?_⟩
    intro j below there
    have bound := each j below
    rw [BitVec.le_def,lane_toNat below,if_pos there] at bound
    omega
  · refine .inl ⟨i,inside,by rw [if_neg (by omega)]; omega,here,?_⟩
    intro j before there
    have bound := each j (by omega)
    rw [BitVec.le_def,lane_toNat (by omega),if_pos there] at bound
    omega

end

/-! ### What the words say -/

/-- The table by its slots. -/
def Table.view (t : Table) : H2.Table where
  ids i := (t.ids i).toNat
  used i := t.used.getLsbD i
  closed i := t.closed.getLsbD i
  streams := t.streams

theorem view_injective {t t' : Table} (same : t'.view = t.view) : t' = t := by
  obtain ⟨ids,used,closed,streams⟩ := H2.Table.mk.inj same
  cases t
  cases t'
  rw [Table.mk.injEq]
  refine ⟨?_,?_,?_,streams⟩
  · funext i
    exact BitVec.toNat_inj.mp (congrFun ids i)
  · exact BitVec.eq_of_getLsbD_eq fun i _ => congrFun used i
  · exact BitVec.eq_of_getLsbD_eq fun i _ => congrFun closed i

/-- The index and the bitmaps agree with the entries; ids are of 31 bits, and there are no closed
    slots beyond the last. -/
structure Table.Represented (t : Table) : Prop where
  view : t.view.Represented
  small : ∀ i < maxStreams, (t.ids i).toNat < 2^31
  closed : ∀ i, maxStreams ≤ i → t.closed.getLsbD i = false

theorem ofNat_eq_iff {x : BitVec 32} {id : Nat} (small : id < 2^32) : x = BitVec.ofNat 32 id ↔ x.toNat = id := by
  rw [← BitVec.toNat_inj,BitVec.toNat_ofNat,Nat.mod_eq_of_lt small]

theorem scan_find (t : Table) {id : Nat} (small : id < 2^32) :
    (if scanIds t.ids (BitVec.ofNat 32 id) < maxStreams then some (scanIds t.ids (BitVec.ofNat 32 id)) else none) =
      slots.find? fun i => t.view.ids i = id := by
  rcases @scanIds_cases t.ids (BitVec.ofNat 32 id) with ⟨i,inside,same,here,first⟩ | ⟨beyond,missing⟩
  · rw [same,if_pos inside]
    refine (List.find?_range_eq_some.mpr ⟨decide_eq_true ((ofNat_eq_iff small).mp here),List.mem_range.mpr inside,
      ?_⟩).symm
    intro j before
    have other : t.view.ids j ≠ id := fun same => first j before ((ofNat_eq_iff small).mpr same)
    rw [decide_eq_false other]
    rfl
  · rw [if_neg (Nat.not_lt.mpr beyond)]
    refine (List.find?_eq_none.mpr ?_).symm
    intro j member same
    exact missing j (mem_slots.mp member) ((ofNat_eq_iff small).mpr (of_decide_eq_true same))

theorem find_refines (t : Table) (id : Nat) : h2StreamFind t id = H2.h2StreamFind t.view id := by
  rw [h2StreamFind,H2.h2StreamFind]
  by_cases wide : 2^31 ≤ id
  · rw [if_pos wide,if_pos (by omega)]
  · rw [if_neg wide,if_neg (by omega),← scan_find t (by omega)]
    by_cases inside : scanIds t.ids (BitVec.ofNat 32 id) < maxStreams
    · rw [if_pos inside,if_neg (Nat.not_le.mpr inside)]
    · rw [if_neg inside,if_pos (Nat.not_lt.mp inside)]

theorem lowest_find (t : Table) :
    (if lowest (~~~t.used) < maxStreams then some (lowest (~~~t.used)) else none) = slots.find? fun i =>
    !t.view.used i := by
  have bits : ∀ i < 64, (~~~t.used).getLsbD i = !t.used.getLsbD i := by
    intro i inside
    rw [BitVec.getLsbD_not,decide_eq_true inside,Bool.true_and]
  have slots_ : maxStreams = 32 := rfl
  by_cases inside : lowest (~~~t.used) < maxStreams
  · rw [if_pos inside]
    have some_ : ~~~t.used ≠ 0#64 := by
      intro full
      rw [full,lowest_zero] at inside
      omega
    refine (List.find?_range_eq_some.mpr ⟨?_,List.mem_range.mpr inside,?_⟩).symm
    · rw [← lowest_set some_,bits _ (by omega)]
      rfl
    · intro j before
      have taken := lowest_first before
      rw [bits j (by omega)] at taken
      rw [show (!t.view.used j) = false from taken]
      rfl
  · rw [if_neg inside]
    refine (List.find?_eq_none.mpr ?_).symm
    intro j member free
    have below := mem_slots.mp member
    have taken := lowest_first (x := ~~~t.used) (show j < lowest (~~~t.used) by omega)
    rw [bits j (by omega)] at taken
    exact Bool.false_ne_true (taken.symm.trans free)

/-- The loop goes over the set bits from the lowest on. -/
theorem recycleLoop_fold (ids : Nat → BitVec 32) : ∀ (fuel : Nat) (mask : BitVec 64) (slot : Nat) (best : BitVec 32),
    mask ≠ 0#64 → (setBits mask).length ≤ fuel →
      recycleLoop ids fuel mask slot best = some ((setBits mask).foldl (fun (best : Nat × Nat) i =>
        if (ids i).toNat < best.2 then (i,(ids i).toNat) else best) (slot,best.toNat)).1 := by
  intro fuel
  induction fuel with
  | zero =>
    intro mask slot best some_ short
    rw [setBits_cons some_] at short
    exact absurd short (Nat.not_succ_le_zero _)
  | succ fuel ih =>
    intro mask slot best some_ short
    rw [setBits_cons some_,List.length_cons] at short
    rw [recycleLoop,setBits_cons some_,List.foldl_cons]
    dsimp only
    have turn : (if (ids (lowest mask)).toNat < best.toNat then (lowest mask,(ids (lowest mask)).toNat) else
      (slot,best.toNat)) =
        (if ids (lowest mask) < best then lowest mask else slot,
          (if ids (lowest mask) < best then ids (lowest mask) else best).toNat) := by
      by_cases older : ids (lowest mask) < best
      · rw [if_pos older,if_pos older,if_pos (BitVec.lt_def.mp older)]
      · rw [if_neg older,if_neg older,if_neg (older ∘ BitVec.lt_def.mpr)]
    rw [turn]
    by_cases last : dropLowest mask = 0#64
    · rw [if_pos last,last,setBits_zero,List.foldl_nil]
    · rw [if_neg last]
      exact ih _ _ _ last (Nat.le_of_succ_le_succ short)

theorem closed_bits {t : Table} (represented : t.Represented) : setBits t.closed = slots.filter (t.closed.getLsbD ·) := by
  have beyond : ((List.range 32).map (32 + ·)).filter (t.closed.getLsbD ·) = [] := by
    rw [List.filter_eq_nil_iff]
    intro i member
    obtain ⟨j,_,rfl⟩ := List.mem_map.mp member
    rw [represented.closed _ (Nat.le_add_right 32 j)]
    exact Bool.false_ne_true
  have split : List.range 64 = slots ++ (List.range 32).map (32 + ·) := @List.range_add 32 32
  rw [setBits,split,List.filter_append,beyond,List.append_nil]

theorem recycle_slot {t : Table} (represented : t.Represented) (some_ : t.closed ≠ 0#64) :
    recycleLoop t.ids 64 t.closed 0 (BitVec.allOnes 32) = some (recycleSlot t.view) := by
  have short : (setBits t.closed).length ≤ 64 := (List.length_filter_le _ _).trans_eq List.length_range
  rw [recycleLoop_fold t.ids 64 t.closed 0 _ some_ short,closed_bits represented,List.foldl_filter]
  rfl

theorem closed_any {t : Table} (represented : t.Represented) : (t.closed = 0#64) ↔ slots.any t.view.closed = false := by
  rw [List.any_eq_false]
  constructor
  · intro none_ i _
    simp [Table.view,none_]
  · intro none_
    apply BitVec.eq_of_getLsbD_eq
    intro i _
    rw [BitVec.getLsbD_zero]
    by_cases inside : i < maxStreams
    · exact Bool.eq_false_iff.mpr (none_ i (mem_slots.mpr inside))
    · exact represented.closed i (Nat.not_lt.mp inside)

/-- What a slot's initialisation does to the words is what it does to the slots. -/
theorem initSlot_view (t : Table) (c : Conn) {slot id : Nat} (inside : slot < maxStreams) (small : id < 2^32) :
    ∃ t', initSlot t c slot id = (.ok slot,t',{ c with lastStreamId := id }) ∧
    t'.view = H2.initSlot t.view c slot id := by
  have slots_ : maxStreams = 32 := rfl
  have single (i : Nat) : (1#64 <<< slot).getLsbD i = decide (i = slot) := by
    rw [BitVec.getLsbD_shiftLeft,BitVec.getLsbD_one]
    by_cases here : i = slot
    · simp [here]
      omega
    · simp [here]
      omega
  refine ⟨_,rfl,?_⟩
  simp only [Table.view,H2.initSlot,H2.Table.mk.injEq,and_true]
  refine ⟨?_,?_,?_⟩
  · funext i
    by_cases here : i = slot
    · simpa [store,here] using small
    · simp [store,here]
  · funext i
    by_cases here : i = slot
    · simp [store,single,here]
    · simp [store,single,here]
  · funext i
    by_cases here : i = slot
    · simp [store,single,here]
    · rw [BitVec.getLsbD_and,BitVec.getLsbD_not,single,decide_eq_false here]
      by_cases wide : i < 64
      · simp [store,here,wide]
      · simp [store,here,BitVec.getLsbD_of_ge _ _ (Nat.not_lt.mp wide)]

/-- The slot for a new stream, by the words. -/
theorem fresh_refines {t : Table} (represented : t.Represented) :
    freshSlot t.view = if lowest (~~~t.used) < maxStreams then some (lowest (~~~t.used))
      else if t.closed = 0#64 then none else recycleLoop t.ids 64 t.closed 0 (BitVec.allOnes 32) := by
  rw [freshSlot,← lowest_find t]
  by_cases free : lowest (~~~t.used) < maxStreams
  · rw [if_pos free,if_pos free]
  · rw [if_neg free,if_neg free]
    by_cases none_ : t.closed = 0#64
    · rw [if_pos none_,(closed_any represented).mp none_]
      rfl
    · have some_ : slots.any t.view.closed = true := by
        rw [← Bool.not_eq_false]
        exact fun busy => none_ ((closed_any represented).mpr busy)
      rw [if_neg none_,some_,recycle_slot represented none_]
      rfl

/-- An allocation without branches comes to what the plain one comes to. -/
theorem create_refines {t : Table} (represented : t.Represented) (c : Conn) {id : Nat} (small : id < 2^32) :
    (∃ slot packed c', h2StreamCreate t c id = (.ok slot,packed,c') ∧
    H2.h2StreamCreate t.view c id = .ok (slot,packed.view,c')) ∨
      (h2StreamCreate t c id = (.error .refusedStream,t,c) ∧ H2.h2StreamCreate t.view c id = .error .refusedStream) := by
  have seen := @freshSlot_some t.view fun i inside => (represented.small i inside).trans (by decide)
  have fresh := fresh_refines represented
  have looped (some_ : t.closed ≠ 0#64) := recycle_slot represented some_
  rw [H2.h2StreamCreate,h2StreamCreate,← scan_find t small]
  generalize scanIds t.ids (BitVec.ofNat 32 id) = here
  generalize lowest (~~~t.used) = free at fresh
  generalize recycleLoop t.ids 64 t.closed 0 (BitVec.allOnes 32) = oldest at fresh looped
  by_cases present : here < maxStreams
  · rw [if_pos present,if_pos present]
    exact .inl ⟨here,t,c,rfl,rfl⟩
  rw [if_neg present,if_neg present]
  by_cases unused : free < maxStreams
  · rw [if_pos unused] at fresh ⊢
    rw [fresh]
    obtain ⟨t',initial,view⟩ := initSlot_view t c unused small
    exact .inl ⟨free,t',_,initial,by rw [view]⟩
  rw [if_neg unused] at fresh ⊢
  by_cases none_ : t.closed = 0#64
  · rw [if_pos none_] at fresh ⊢
    rw [fresh]
    exact .inr ⟨rfl,rfl⟩
  · rw [if_neg none_] at fresh ⊢
    rw [looped none_] at fresh ⊢
    obtain ⟨t',initial,view⟩ := initSlot_view t c (seen fresh).1 small
    rw [fresh]
    exact .inl ⟨_,t',_,initial,by rw [view]⟩

/-! ### The plain scan -/

/-- Where a stream gets its slot, by the entries: its own; or the lowest without a stream; or the
    closed one with the smallest id; or none. -/
inductive Allotted (entries : Nat → Stream) (id : Nat) : Option Nat → Prop where
  | existing {slot : Nat} (inside : slot < maxStreams) (own : (entries slot).streamId = id) : Allotted entries id
    (some slot)
  | free {slot : Nat} (missing : ∀ i < maxStreams, (entries i).streamId ≠ id) (inside : slot < maxStreams)
      (unused : (entries slot).streamId = 0) (lowest : ∀ i < slot, (entries i).streamId ≠ 0) : Allotted entries id
        (some slot)
  | recycled {slot : Nat} (missing : ∀ i < maxStreams, (entries i).streamId ≠ id) (full : ∀ i < maxStreams,
    (entries i).streamId ≠ 0)
      (inside : slot < maxStreams) (closed : (entries slot).state = .closed)
      (oldest : ∀ i < maxStreams, (entries i).state = .closed → (entries slot).streamId ≤ (entries i).streamId) :
      Allotted entries id (some slot)
  | refused (missing : ∀ i < maxStreams, (entries i).streamId ≠ id) (full : ∀ i < maxStreams, (entries i).streamId ≠ 0)
      (busy : ∀ i < maxStreams, (entries i).state ≠ .closed) : Allotted entries id none

/-- The best of a run of closed slots is one of them, unless none was better than the first. -/
theorem recycle_best {t : H2.Table} : ∀ (l : List Nat) (best : Nat × Nat),
    (l.foldl (recycleTurn t) best).2 ≤ best.2 ∧
    (∀ i ∈ l, t.closed i = true → (l.foldl (recycleTurn t) best).2 ≤ t.ids i) ∧
      (l.foldl (recycleTurn t) best = best ∨
    t.ids (l.foldl (recycleTurn t) best).1 = (l.foldl (recycleTurn t) best).2) := by
  intro l
  induction l with
  | nil => intro best; exact ⟨le_rfl,List.forall_mem_nil _,.inl rfl⟩
  | cons i l ih =>
    intro best
    obtain ⟨lower,lowest,own⟩ := ih (recycleTurn t best i)
    have turn : (recycleTurn t best i).2 ≤ best.2 ∧ (t.closed i = true → (recycleTurn t best i).2 ≤ t.ids i) ∧
        (recycleTurn t best i = best ∨ t.ids (recycleTurn t best i).1 = (recycleTurn t best i).2) := by
      rw [recycleTurn]
      split
      next closed =>
        split
        next older => exact ⟨older.le,fun _ => le_rfl,.inr rfl⟩
        next younger => exact ⟨le_rfl,fun _ => Nat.not_lt.mp younger,.inl rfl⟩
      next live => exact ⟨le_rfl,fun closed => absurd closed live,.inl rfl⟩
    rw [List.foldl_cons]
    refine ⟨lower.trans turn.1,List.forall_mem_cons.mpr ⟨fun closed => lower.trans (turn.2.1 closed),lowest⟩,?_⟩
    rcases own with same | own
    · rw [same]
      exact turn.2.2
    · exact .inr own

theorem recycleSlot_oldest {t : H2.Table} (small : ∀ i < maxStreams, t.ids i < 2^31) {slot : Nat}
    (inside : slot < maxStreams)
    (closed : t.closed slot = true) : ∀ i < maxStreams, t.closed i = true → t.ids (recycleSlot t) ≤ t.ids i := by
  obtain ⟨_,lowest,own⟩ := recycle_best (t := t) slots (0,2^32 - 1)
  have taken : t.ids (recycleSlot t) = (slots.foldl (recycleTurn t) (0,2^32 - 1)).2 := by
    rcases own with sentinel | own
    · have below := lowest slot (mem_slots.mpr inside) closed
      have := small slot inside
      rw [sentinel] at below
      omega
    · exact own
  intro i here closed'
  rw [taken]
  exact lowest i (mem_slots.mpr here) closed'

theorem missing_of_find {t : H2.Table} {id : Nat} (missing : (slots.find? fun i => t.ids i = id) = none) :
    ∀ i < maxStreams, t.ids i ≠ id := by
  intro i inside
  exact of_decide_eq_false (Bool.eq_false_iff.mpr (List.find?_eq_none.mp missing i (mem_slots.mpr inside)))

/-- An entry is in use exactly if it has an id. -/
theorem used_iff {t : H2.Table} (represented : t.Represented) {i : Nat} (inside : i < maxStreams) :
    t.used i = true ↔ (t.streams i).streamId ≠ 0 := by
  rw [← represented.ids i inside]
  exact represented.used i inside

theorem full_of_find {t : H2.Table} (represented : t.Represented) (free : slots.find? (fun i => !t.used i) = none) :
    ∀ i < maxStreams, (t.streams i).streamId ≠ 0 := by
  intro i inside
  have taken := List.find?_eq_none.mp free i (mem_slots.mpr inside)
  rw [Bool.not_eq_true,Bool.not_eq_false'] at taken
  exact (used_iff represented inside).mp taken

/-- The slot for an id that no entry has. -/
theorem freshSlot_allotted {t : H2.Table} (represented : t.Represented) (small : ∀ i < maxStreams, t.ids i < 2^31) {id : Nat}
    (missing : ∀ i < maxStreams, (t.streams i).streamId ≠ id) : Allotted t.streams id (freshSlot t) := by
  rw [freshSlot]
  cases free : slots.find? fun i => !t.used i with
  | some slot =>
    obtain ⟨unused,listed,lowest⟩ := List.find?_range_eq_some.mp free
    have inside := mem_slots.mp listed
    refine .free missing inside ?_ ?_
    · by_contra taken
      rw [(used_iff represented inside).mpr taken] at unused
      cases unused
    · intro i before
      have taken := lowest i before
      rw [Bool.not_not] at taken
      exact (used_iff represented (before.trans inside)).mp taken
  | none =>
    have full := full_of_find represented free
    dsimp only
    split
    next some_ =>
      have seen : t.Recyclable (recycleSlot t) :=
        recycle_seen (fun i inside => (small i inside).trans (by decide)) slots 0
        (fun i member => mem_slots.mp member)
        (List.any_eq_true.mp some_)
      have oldest := recycleSlot_oldest small seen.2 seen.1
      refine .recycled missing full seen.2 ((represented.closed _ seen.2).mp seen.1) ?_
      intro i inside closed
      have lower := oldest i inside ((represented.closed i inside).mpr closed)
      rwa [represented.ids i inside,represented.ids _ seen.2] at lower
    next none_ =>
      refine .refused missing full ?_
      intro i inside closed
      exact none_ (List.any_eq_true.mpr ⟨i,mem_slots.mpr inside,(represented.closed i inside).mpr closed⟩)

/-- The plain allocation is by the entries what it is by the index and the bitmaps. -/
theorem create_allotted {t : H2.Table} (represented : t.Represented) (small : ∀ i < maxStreams, t.ids i < 2^31)
    (c : Conn) (id : Nat) :
    match H2.h2StreamCreate t c id with
    | .ok (slot,t',c') =>
      Allotted t.streams id (some slot) ∧ (((∃ i < maxStreams, (t.streams i).streamId = id) ∧ t' = t ∧ c' = c) ∨
        ((∀ i < maxStreams, (t.streams i).streamId ≠ id) ∧ t' = H2.initSlot t c slot id ∧
    c' = { c with lastStreamId := id }))
    | .error e => Allotted t.streams id none ∧ e = .refusedStream := by
  rw [H2.h2StreamCreate]
  cases found : slots.find? fun i => t.ids i = id with
  | some slot =>
    have inside := mem_slots.mp (List.mem_of_find?_eq_some found)
    have own : (t.streams slot).streamId = id := by
      rw [← represented.ids slot inside]
      exact of_decide_eq_true (List.find?_some (p := fun i => decide (t.ids i = id)) found)
    exact ⟨.existing inside own,.inl ⟨⟨slot,inside,own⟩,rfl,rfl⟩⟩
  | none =>
    have missing : ∀ i < maxStreams, (t.streams i).streamId ≠ id := by
      intro i inside
      rw [← represented.ids i inside]
      exact missing_of_find found i inside
    have allotted := freshSlot_allotted represented small missing
    dsimp only
    cases fresh : freshSlot t with
    | some slot => exact ⟨fresh ▸ allotted,.inr ⟨missing,rfl,rfl⟩⟩
    | none => exact ⟨fresh ▸ allotted,rfl⟩

def Table.empty : Table := ⟨fun _ => 0#32,0#64,0#64,fun _ => Stream.zero⟩

theorem empty_represented : Table.empty.Represented := by
  refine ⟨⟨fun _ _ => rfl,?_,?_,?_,fun _ _ _ => rfl⟩,?_,fun i _ => BitVec.getLsbD_zero⟩
  · intro i _
    simp [Table.view,Table.empty]
  · intro i _
    simp [Table.view,Table.empty,Stream.zero]
  · intro i _ j _ proper
    exact absurd rfl proper
  · intro i _
    show (0#32).toNat < 2^31
    decide

end Sarm.H2.Packed
