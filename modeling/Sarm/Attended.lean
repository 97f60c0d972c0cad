import Sarm.Headers
import Sarm.ServeOnce

/-!
What a frame leaves alone, and what becomes of the entry of its own stream. A
complete request is being served at the end of every step: the hook behind a frame
looks at the frame's stream, and no other has changed.
-/
namespace Sarm.H2
open Sarm.Memory Sarm.Trace

/-! ### The entries of other streams -/

/-- Every entry that is not the stream's is as it was, up to its window. -/
def Elsewhere (id : Nat) (t t' : Table) : Prop :=
  ∀ i, t'.ids i ≠ id → t'.ids i = t.ids i ∧ t'.streams i = { t.streams i with window := (t'.streams i).window }

variable {id : Nat}

theorem SameEntries.elsewhere {t t' : Table} (same : SameEntries t t') : Elsewhere id t t' :=
  fun i _ => ⟨by rw [same.ids],same.streams i⟩

theorem Elsewhere.refl (t : Table) : Elsewhere id t t := (SameEntries.refl t).elsewhere

theorem Elsewhere.trans {t t' t'' : Table} (first : Elsewhere id t t') (second : Elsewhere id t' t'') :
    Elsewhere id t t'' := by
  intro i other
  obtain ⟨ids,entry⟩ := second i other
  obtain ⟨ids',entry'⟩ := first i (by rw [← ids]; exact other)
  refine ⟨ids.trans ids',?_⟩
  rw [entry,entry']

theorem setState_elsewhere {t : Table} {slot : Nat} (own : t.ids slot = id) (state : StreamState) :
    Elsewhere id t (t.setState slot state) := by
  intro i other
  have apart : i ≠ slot := by
    rintro rfl
    exact other own
  simp [Table.setState,apart]

theorem setFlags_elsewhere {t : Table} {slot : Nat} (own : t.ids slot = id) (flags : Nat) :
    Elsewhere id t (t.setFlags slot flags) := by
  intro i other
  have apart : i ≠ slot := by
    rintro rfl
    exact other own
  simp [Table.setFlags,Table.modify,apart]

theorem initSlot_elsewhere (t : Table) (c : Conn) (slot : Nat) : Elsewhere id t (initSlot t c slot id) := by
  intro i other
  have apart : i ≠ slot := by
    rintro rfl
    exact other (by simp [initSlot])
  simp [initSlot,apart]

theorem event_elsewhere {t t' : Table} {slot : Nat} {event : StreamEvent} (own : t.ids slot = id)
    (executed : h2StreamEvent t slot event = .ok t') : Elsewhere id t t' ∧ t'.ids slot = id := by
  obtain ⟨state,_,rfl⟩ := event_cases executed
  exact ⟨setState_elsewhere own state,own⟩

theorem endStream_elsewhere {c : Core} {slot : Nat} (own : c.table.ids slot = id) (hdr : FrameHeader) :
    Elsewhere id c.table (c.endStream hdr slot).core.table := by
  rw [Core.endStream]
  split
  · split
    · exact .refl _
    · next table executed => exact (event_elsewhere own executed).1
  · exact .refl _

theorem setting_same (c : Core) (id value : Nat) : SameEntries c.table (c.setting id value).1.table := by
  rw [Core.setting]
  split
  · exact .refl _
  split
  · exact .refl _
  split
  · exact .refl _
  split
  · rw [Core.setInitialWindow]
    split
    · exact .refl _
    dsimp only
    have shifted := shiftWindows_same (BitVec.ofNat 64 value - BitVec.ofNat 64 c.conn.initialWindowSize) slots c.table
    split
    · exact .refl _
    · split
      · next table done => rw [done] at shifted; exact shifted
      · next table failed => rw [failed] at shifted; exact shifted
  split
  · split <;> exact .refl _
  split <;> exact .refl _

theorem settingsLoop_same (payload : Mem) : ∀ (count off : Nat) (c : Core),
    SameEntries c.table (settingsLoop payload count off c).1.table := by
  intro count
  induction count with
  | zero => intro off c; exact .refl _
  | succ count ih =>
    intro off c
    have entry := setting_same c (bigEndian payload off 2) (bigEndian payload (off + 2) 4)
    rw [settingsLoop]
    split
    · next c' e failed => rw [failed] at entry; exact entry
    · next c' done => rw [done] at entry; exact entry.trans (ih _ c')

theorem settings_same (c : Core) (hdr : FrameHeader) (payload : Mem) :
    SameEntries c.table (h2HandleSettings c hdr payload).core.table := by
  rw [h2HandleSettings]
  split
  · exact .refl _
  split
  · split <;> exact .refl _
  split
  · exact .refl _
  have entries := settingsLoop_same payload (hdr.length / settingsEntryLen) 0 c
  split
  · next c' e failed => rw [failed] at entries; exact entries
  · next c' done => rw [done] at entries; exact entries

theorem update_same (c : Core) (hdr : FrameHeader) (payload : Mem) :
    SameEntries c.table (h2HandleWindowUpdate c hdr payload).core.table := by
  rw [h2HandleWindowUpdate]
  dsimp only
  split
  · exact .refl _
  split
  · exact .refl _
  split
  · split <;> exact .refl _
  split
  · split <;> exact .refl _
  split
  · exact .refl _
  split
  · exact .refl _
  · exact .window _ _ _

/-- The entry of a HEADERS frame is its stream's. -/
theorem admit_elsewhere {c : Core} {hdr : FrameHeader} {slot : Nat} {table : Table} {conn : Conn}
    (small : hdr.streamId < 2^31) (admitted : admitStream c hdr = .ok (slot,table,conn)) :
    Elsewhere hdr.streamId c.table table ∧ table.ids slot = hdr.streamId := by
  obtain ⟨_,⟨rfl,_,found⟩ | ⟨_,_,_,rfl,_⟩⟩ := admit_cases small admitted
  · exact ⟨.refl _,(find_some found).2.1⟩
  · exact ⟨initSlot_elsewhere _ _ _,by simp [initSlot]⟩

/-! ### Complete requests -/

/-- A complete request is being served, unless its stream is `id`, and what is served is
    complete or over. -/
def Core.Attended (c : Core) (id : Nat) : Prop :=
  ∀ i < maxStreams, ((c.table.streams i).state = .halfClosedRemote → (c.table.streams i).serving = true ∨
    c.table.ids i = id) ∧
    ((c.table.streams i).serving = true → (c.table.streams i).state = .halfClosedRemote ∨
      (c.table.streams i).state = .closed)

/-- No stream has the id 0. -/
theorem Core.Attended.weaken {c : Core} (formed : c.WellFormed) (attended : c.Attended 0) (id : Nat) : c.Attended id := by
  intro i inside
  obtain ⟨complete,served⟩ := attended i inside
  refine ⟨fun half => ?_,served⟩
  rcases complete half with serving | free
  · exact .inl serving
  · rw [(formed.agrees i inside).free free] at half
    cases half

/-- Where other entries are left alone, it is the own one that matters. -/
theorem Core.Attended.elsewhere {c c' : Core} (attended : c.Attended 0) (formed : c.WellFormed)
    (others : Elsewhere id c.table c'.table)
    (own : ∀ i < maxStreams, c'.table.ids i = id → (c'.table.streams i).serving = true →
      (c'.table.streams i).state = .halfClosedRemote ∨ (c'.table.streams i).state = .closed) : c'.Attended id := by
  intro i inside
  by_cases here : c'.table.ids i = id
  · exact ⟨fun _ => .inr here,own i inside here⟩
  · obtain ⟨ids,entry⟩ := others i here
    obtain ⟨complete,served⟩ := attended.weaken formed id i inside
    rw [entry,ids]
    exact ⟨complete,served⟩

/-- What is served is complete or over. -/
def Core.Marked (c : Core) : Prop := ∀ i < maxStreams, (c.table.streams i).serving = true →
  (c.table.streams i).state = .halfClosedRemote ∨ (c.table.streams i).state = .closed

theorem step_marked {c c' : Core} (step : TableStep c c') (marked : c.Marked) : c'.Marked := by
  intro i inside serving
  cases step with
  | @enter slot id _ _ _ _ _ =>
    by_cases here : i = slot
    · simp [initSlot,here] at serving
    · simp only [initSlot,store_other _ _ here] at serving ⊢
      exact marked i inside serving
  | @event table slot event _ _ kept executed =>
    obtain ⟨state,next,rfl⟩ := event_cases executed
    by_cases here : i = slot
    · subst here
      simp only [Table.setState,store_same] at serving ⊢
      -- An entry that is being served has no further step.
      rcases marked i inside serving with half | closed
      · rw [half] at next
        cases event <;> simp [transitions] at next kept
      · rw [closed] at next
        cases event <;> simp [transitions] at next kept
    · simp only [Table.setState,store_other _ _ here] at serving ⊢
      exact marked i inside serving
  | @flags slot flags _ =>
    by_cases here : i = slot
    · simp [Table.setFlags,Table.modify,here] at serving
    · simp only [Table.setFlags,Table.modify,store_other _ _ here] at serving ⊢
      exact marked i inside serving
  | windows same _ =>
    rw [same.streams i] at serving ⊢
    exact marked i inside serving

theorem path_marked {c c' : Core} (path : TablePath c c') (marked : c.Marked) : c'.Marked := by
  induction path with
  | refl => exact marked
  | tail _ step ih => exact step_marked step ih

theorem dispatch_marked {c : Core} {hdr : FrameHeader} (formed : c.WellFormed) (small : hdr.streamId < 2^31)
    (payload : Mem)
    (marked : c.Marked) : (h2DispatchFrame c hdr payload).core.Marked := by
  rcases dispatch_table formed small payload with path | ⟨type,slot,reset,_,core⟩
  · exact path_marked path marked
  · rw [core]
    intro i inside serving
    by_cases here : i = slot
    · right
      simp [Table.setState,here]
    · simp only [Table.setState,store_other _ _ here] at serving ⊢
      exact marked i inside serving

/-! ### Frames -/

theorem headers_elsewhere {c : Core} {hdr : FrameHeader} (small : hdr.streamId < 2^31) (payload : Mem) :
    Elsewhere hdr.streamId c.table (h2HandleHeaders c hdr payload).core.table := by
  -- The entry, its first step and its flags.
  have opened : ∀ {slot : Nat} {table table' : Table} {conn : Conn}, admitStream c hdr = .ok (slot,table,conn) →
      h2StreamEvent table slot .recvHeaders = .ok table' →
      Elsewhere hdr.streamId c.table (table'.setFlags slot hdr.flags) ∧
        (table'.setFlags slot hdr.flags).ids slot = hdr.streamId := by
    intro slot table table' conn admitted event
    obtain ⟨entered,own⟩ := admit_elsewhere small admitted
    obtain ⟨moved,own'⟩ := event_elsewhere own event
    exact ⟨(entered.trans moved).trans (setFlags_elsewhere own' hdr.flags),own'⟩
  have came := headers_cases c hdr payload
  generalize h2HandleHeaders c hdr payload = outcome at came ⊢
  cases came with
  | refused _ => exact .refl _
  | late admitted _ => exact (admit_elsewhere small admitted).1
  | unframed admitted event _ => exact (opened admitted event).1
  | undecoded admitted event _ _ => exact (opened admitted event).1
  | malformed admitted event _ _ _ => exact (opened admitted event).1
  | accepted admitted event _ _ _ =>
    obtain ⟨others,own⟩ := opened admitted event
    exact others.trans (endStream_elsewhere own hdr)

/-- A frame leaves the entries of other streams alone. -/
theorem dispatch_elsewhere (c : Core) {hdr : FrameHeader} (small : hdr.streamId < 2^31) (payload : Mem) :
    Elsewhere hdr.streamId c.table (h2DispatchFrame c hdr payload).core.table := by
  refine dispatch_rule (P := fun outcome => Elsewhere hdr.streamId c.table outcome.core.table) ?_
  intro type outcome handled
  cases handled with
  | data _ =>
    rw [h2HandleData]
    split
    · exact .refl _
    next slot found =>
    have own := (find_some found).2.1
    split
    · exact .refl _
    · next table executed =>
      obtain ⟨moved,own'⟩ := event_elsewhere own executed
      exact moved.trans (endStream_elsewhere own' hdr)
  | headers _ => exact headers_elsewhere (c := c.noted type) small payload
  | rstStream _ =>
    rw [h2HandleRstStream]
    split
    · exact .refl _
    split
    · exact .refl _
    split
    · exact .refl _
    next slot found =>
    split
    · exact .refl _
    · next table executed => exact (event_elsewhere (find_some found).2.1 executed).1
  | settings _ => exact (settings_same (c.noted type) hdr payload).elsewhere
  | ping _ =>
    rw [h2HandlePing]
    split
    · exact .refl _
    split
    · exact .refl _
    split <;> exact .refl _
  | goaway _ =>
    rw [h2HandleGoaway]
    split
    · exact .refl _
    split <;> exact .refl _
  | windowUpdate _ => exact (update_same (c.noted type) hdr payload).elsewhere
  | passed _ _ _ => exact .refl _

theorem dispatch_attended {c : Core} {hdr : FrameHeader} (formed : c.WellFormed) (small : hdr.streamId < 2^31)
    (payload : Mem)
    (attended : c.Attended 0) : (h2DispatchFrame c hdr payload).core.Attended hdr.streamId := by
  have marked := dispatch_marked formed small payload (fun i inside => (attended i inside).2)
  exact attended.elsewhere formed (dispatch_elsewhere c small payload) (fun i inside _ => marked i inside)

/-- What is half closed was so before, and served or not as it is. -/
def Uncompleted (t t' : Table) : Prop :=
  ∀ i, (t'.streams i).state = .halfClosedRemote →
    (t.streams i).state = .halfClosedRemote ∧ (t.streams i).serving = (t'.streams i).serving

theorem SameEntries.uncompleted {t t' : Table} (same : SameEntries t t') : Uncompleted t t' := by
  intro i half
  rw [same.streams i] at half ⊢
  exact ⟨half,rfl⟩

theorem Uncompleted.refl (t : Table) : Uncompleted t t := (SameEntries.refl t).uncompleted

theorem Uncompleted.trans {t t' t'' : Table} (first : Uncompleted t t') (second : Uncompleted t' t'') :
    Uncompleted t t'' := by
  intro i half
  obtain ⟨half',serving'⟩ := second i half
  obtain ⟨half,serving⟩ := first i half'
  exact ⟨half,serving.trans serving'⟩

theorem setState_uncompleted {state : StreamState} (other : state ≠ .halfClosedRemote) (t : Table) (slot : Nat) :
    Uncompleted t (t.setState slot state) := by
  intro i half
  by_cases here : i = slot
  · subst here
    simp only [Table.setState,store_same] at half
    exact absurd half other
  · have same : (t.setState slot state).streams i = t.streams i := by simp [Table.setState,here]
    rw [same] at half ⊢
    exact ⟨half,rfl⟩

/-- Every step but the last of a request. -/
theorem event_uncompleted {t t' : Table} {slot : Nat} {event : StreamEvent} (early : event ≠ .recvEndStream)
    (executed : h2StreamEvent t slot event = .ok t') : Uncompleted t t' := by
  obtain ⟨state,next,rfl⟩ := event_cases executed
  refine setState_uncompleted ?_ t slot
  rintro rfl
  cases before : (t.streams slot).state <;> rw [before] at next <;> cases event <;> simp [transitions] at next early

theorem endStream_uncompleted {c : Core} {slot : Nat} {hdr : FrameHeader} (failed : (c.endStream hdr slot).error ≠ none) :
    (c.endStream hdr slot).core = c := by
  rw [Core.endStream] at failed ⊢
  split at failed
  · next last =>
    rw [if_pos last]
    split at failed
    · rfl
    · exact absurd rfl failed
  · exact absurd rfl failed

theorem setFlags_uncompleted {t : Table} {slot : Nat} (opened : (t.streams slot).state = .opened) (flags : Nat) :
    Uncompleted t (t.setFlags slot flags) := by
  intro i half
  by_cases here : i = slot
  · subst here
    simp [Table.setFlags,Table.modify,opened] at half
  · have same : (t.setFlags slot flags).streams i = t.streams i := by simp [Table.setFlags,Table.modify,here]
    rw [same] at half ⊢
    exact ⟨half,rfl⟩

theorem admit_uncompleted {c : Core} {hdr : FrameHeader} {slot : Nat} {table : Table} {conn : Conn}
    (small : hdr.streamId < 2^31) (admitted : admitStream c hdr = .ok (slot,table,conn)) : Uncompleted c.table table := by
  obtain ⟨_,⟨rfl,_,_⟩ | ⟨_,_,_,rfl,_⟩⟩ := admit_cases small admitted
  · exact .refl _
  · intro i half
    by_cases here : i = slot
    · simp [initSlot,here] at half
    · have same : (initSlot c.table c.conn slot hdr.streamId).streams i = c.table.streams i := by simp [initSlot,here]
      rw [same] at half ⊢
      exact ⟨half,rfl⟩

theorem headers_uncompleted {c : Core} {hdr : FrameHeader} {payload : Mem} (small : hdr.streamId < 2^31)
    (failed : (h2HandleHeaders c hdr payload).error ≠ none) :
    Uncompleted c.table (h2HandleHeaders c hdr payload).core.table := by
  have opened : ∀ {slot : Nat} {table table' : Table} {conn : Conn}, admitStream c hdr = .ok (slot,table,conn) →
      h2StreamEvent table slot .recvHeaders = .ok table' → Uncompleted c.table (table'.setFlags slot hdr.flags) := by
    intro slot table table' conn admitted event
    have entered := (admit_uncompleted small admitted).trans (event_uncompleted (by decide) event)
    exact entered.trans (setFlags_uncompleted (headersEvent_opened event) hdr.flags)
  revert failed
  have came := headers_cases c hdr payload
  generalize h2HandleHeaders c hdr payload = outcome at came ⊢
  cases came with
  | refused _ => exact fun _ => .refl _
  | late admitted _ => exact fun _ => admit_uncompleted small admitted
  | unframed admitted event _ => exact fun _ => opened admitted event
  | undecoded admitted event _ _ => exact fun _ => opened admitted event
  | malformed admitted event _ _ _ => exact fun _ => opened admitted event
  | accepted admitted event _ _ _ =>
    intro failed
    rw [endStream_uncompleted failed]
    exact opened admitted event

/-- A frame that is rejected completes no request. -/
theorem dispatch_uncompleted {c : Core} {hdr : FrameHeader} {payload : Mem} (small : hdr.streamId < 2^31)
    (failed : (h2DispatchFrame c hdr payload).error ≠ none) :
    Uncompleted c.table (h2DispatchFrame c hdr payload).core.table := by
  revert failed
  refine dispatch_rule (P := fun outcome => outcome.error ≠ none → Uncompleted c.table outcome.core.table) ?_
  intro type outcome handled
  cases handled with
  | data _ =>
    rw [h2HandleData]
    split
    · exact fun _ => .refl _
    split
    · exact fun _ => .refl _
    · next table executed =>
      intro failed
      rw [endStream_uncompleted failed]
      exact event_uncompleted (by decide) executed
  | headers _ => exact headers_uncompleted (c := c.noted type) small
  | rstStream _ =>
    rw [h2HandleRstStream]
    split
    · exact fun _ => .refl _
    split
    · exact fun _ => .refl _
    split
    · exact fun _ => .refl _
    split
    · exact fun _ => .refl _
    · next table executed => exact fun _ => event_uncompleted (by decide) executed
  | settings _ => exact fun _ => (settings_same (c.noted type) hdr payload).uncompleted
  | ping _ =>
    rw [h2HandlePing]
    split
    · exact fun _ => .refl _
    split
    · exact fun _ => .refl _
    split <;> exact fun _ => .refl _
  | goaway _ =>
    rw [h2HandleGoaway]
    split
    · exact fun _ => .refl _
    split <;> exact fun _ => .refl _
  | windowUpdate _ => exact fun _ => (update_same (c.noted type) hdr payload).uncompleted
  | passed _ _ _ => exact fun _ => .refl _

theorem dispatch_failed_attended {c : Core} {hdr : FrameHeader} {payload : Mem} (formed : c.WellFormed)
    (small : hdr.streamId < 2^31) (attended : c.Attended 0) (failed : (h2DispatchFrame c hdr payload).error ≠ none) :
    (h2DispatchFrame c hdr payload).core.Attended 0 := by
  have marked := dispatch_marked formed small payload (fun i inside => (attended i inside).2)
  intro i inside
  refine ⟨fun half => ?_,marked i inside⟩
  obtain ⟨half',serving⟩ := dispatch_uncompleted small failed i half
  rcases (attended i inside).1 half' with served | free
  · rw [← serving]
    exact .inl served
  · rw [(formed.agrees i inside).free free] at half'
    cases half'

end Sarm.H2
