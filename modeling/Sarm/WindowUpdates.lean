import Sarm.StreamWindows

/-!
Increments of the send window of a stream. The window is a signed word, which a SETTINGS frame may
bring below zero, and the sum of window and increment is compared as an unsigned one.
-/
namespace Sarm.H2
open Sarm.Memory

/-- An increment is added to the window as long as the sum is at most 2^31 - 1, and is a
    FLOW_CONTROL_ERROR otherwise. -/
def Core.Increments (c : Core) (hdr : FrameHeader) (payload : Mem) (slot : Nat) : Prop :=
  let sum := (c.table.streams slot).window.toInt + windowIncrement payload
  if sum ≤ 2^31 - 1 then
    ∃ window : BitVec 64, window.toInt = sum ∧
      h2HandleWindowUpdate c hdr payload =
        { c with table := c.table.modify slot fun s => { s with window := window } }.done
  else h2HandleWindowUpdate c hdr payload = c.fails .flowControlError

section
variable {w : BitVec 64} {n : Nat}

theorem unsigned_of_nonneg (small : n < 2^31) (positive : 0 ≤ w.toInt + n) :
    ((w + BitVec.ofNat 64 n).toNat : Int) = w.toInt + n := by
  rw [BitVec.toInt_eq_toNat_cond] at positive ⊢
  rw [BitVec.toNat_add,BitVec.toNat_ofNat]
  omega

theorem unsigned_of_neg (small : n < 2^31) (negative : w.toInt + n < 0) : 2^63 ≤ (w + BitVec.ofNat 64 n).toNat := by
  rw [BitVec.toInt_eq_toNat_cond] at negative
  rw [BitVec.toNat_add,BitVec.toNat_ofNat]
  omega

theorem toInt_of_small (small : w.toNat ≤ 2^31 - 1) : w.toInt = w.toNat := by
  rw [BitVec.toInt_eq_toNat_cond]
  omega

end

theorem windowIncrement_lt (payload : Mem) : windowIncrement payload < 2^31 := Nat.mod_lt _ (by decide)

/-- An update of a live stream is what it should be unless it leaves the window below zero. -/
theorem increments_iff (c : Core) (hdr : FrameHeader) (payload : Mem) (slot : Nat) (length : hdr.length = 4)
    (increment : windowIncrement payload ≠ 0) (stream : hdr.streamId ≠ 0)
    (found : h2StreamFind c.table hdr.streamId = some slot)
    (live : (c.table.streams slot).state ≠ .closed) :
    c.Increments hdr payload slot ↔ 0 ≤ (c.table.streams slot).window.toInt + windowIncrement payload := by
  have small := windowIncrement_lt payload
  -- What is left of the handler behind its other checks.
  have handled : h2HandleWindowUpdate c hdr payload =
      if maxFlowWindow <
        ((c.table.streams slot).window + BitVec.ofNat 64
        (windowIncrement payload)).toNat then c.fails .flowControlError
      else { c with table := c.table.modify slot fun s =>
        { s with window := (c.table.streams slot).window + BitVec.ofNat 64 (windowIncrement payload) } }.done := by
    rw [h2HandleWindowUpdate,if_neg (not_not.mpr length),if_neg increment,if_neg stream,found]
    exact if_neg live
  have bound : maxFlowWindow = 2^31 - 1 := rfl
  rw [Core.Increments,handled]
  constructor
  · intro right
    refine Int.not_lt.mp ?_
    intro negative
    have large := unsigned_of_neg small negative
    rw [if_pos (by omega),if_pos (by omega)] at right
    obtain ⟨window,_,accepted⟩ := right
    exact absurd (congrArg Outcome.error accepted) (by simp [Core.fails,Core.done])
  · intro positive
    have sum := unsigned_of_nonneg small positive
    by_cases fits : (c.table.streams slot).window.toInt + windowIncrement payload ≤ 2^31 - 1
    · rw [if_pos fits,if_neg (by omega)]
      exact ⟨_,by rw [toInt_of_small (by omega),sum],rfl⟩
    · rw [if_neg fits,if_pos (by omega)]

/-- Stream 1 has sent ten octets when the initial window size goes down to zero. -/
def overdrawn : List WindowOp :=
  [.create 1,.data ⟨1,0,none,List.replicate 10 0⟩,.settings ⟨6,frameSettings,0,0⟩ (ofBytes [0,4,0,0,0,0])]

/-- An update of stream 1. -/
def updateFirst : FrameHeader := ⟨4,frameWindowUpdate,0,1⟩

/-- An increment that fills the window up again. -/
theorem increments_iff_filled : ∃ b, runWindowOps overdrawn (.opened .initial) = some b ∧
    b.core.Increments updateFirst (ofBytes [0,0,0,10]) 0 := by
  obtain ⟨b,ran⟩ : ∃ b, runWindowOps overdrawn (.opened .initial) = some b :=
    Option.isSome_iff_exists.mp (by decide +kernel)
  have state : (runWindowOps overdrawn (.opened .initial)).map (fun b =>
      (h2StreamFind b.core.table 1,decide (b.core.table.Live 0),(b.core.table.streams 0).window.toInt)) =
        some (some 0,true,-10) := by
    decide +kernel
  rw [ran,Option.map_some,Option.some_inj,Prod.mk.injEq,Prod.mk.injEq,decide_eq_true_eq] at state
  obtain ⟨found,live,window⟩ := state
  have ten : windowIncrement (ofBytes [0,0,0,10]) = 10 := by decide
  exact ⟨b,ran,(increments_iff b.core updateFirst _ 0 rfl (by decide) (by decide) found live.2).mpr
    (by rw [window,ten]; decide)⟩

/-- A smaller one is refused, though the window has room for it. -/
theorem increment_refused :
    ∃ b, runWindowOps overdrawn (.opened .initial) = some b ∧ h2StreamFind b.core.table 1 = some 0 ∧
    b.core.table.Live 0 ∧ (b.core.table.streams 0).window.toInt + windowIncrement (ofBytes [0,0,0,1]) ≤ 2^31 - 1 ∧
      (h2HandleWindowUpdate b.core updateFirst (ofBytes [0,0,0,1])).error = some .flowControlError := by
  obtain ⟨b,ran⟩ : ∃ b, runWindowOps overdrawn (.opened .initial) = some b :=
    Option.isSome_iff_exists.mp (by decide +kernel)
  have state : (runWindowOps overdrawn (.opened .initial)).map (fun b =>
      (h2StreamFind b.core.table 1,decide (b.core.table.Live 0),(b.core.table.streams 0).window.toInt,
        (h2HandleWindowUpdate b.core updateFirst (ofBytes [0,0,0,1])).error)) =
          some (some 0,true,-10,some .flowControlError) := by
    decide +kernel
  rw [ran,Option.map_some,Option.some_inj,Prod.mk.injEq,Prod.mk.injEq,Prod.mk.injEq,decide_eq_true_eq] at state
  obtain ⟨found,live,window,refused⟩ := state
  exact ⟨b,ran,found,live,by rw [window]; decide,refused⟩

end Sarm.H2
