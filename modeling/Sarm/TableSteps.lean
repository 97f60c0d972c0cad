import Sarm.Handlers
import Mathlib.Logic.Relation

/-!
What the handlers do to the stream table: entries are made, take the steps of the
stream state machine, get the flags of a HEADERS frame, or have their windows
changed. The index, the bitmaps and the entries agree all along.
-/
namespace Sarm.H2
open Sarm.Memory

/-- The same entries, up to their windows. -/
structure SameEntries (t t' : Table) : Prop where
  ids : t'.ids = t.ids
  used : t'.used = t.used
  closed : t'.closed = t.closed
  streams : ∀ i, t'.streams i = { t.streams i with window := (t'.streams i).window }

theorem SameEntries.refl (t : Table) : SameEntries t t := ⟨rfl,rfl,rfl,fun _ => rfl⟩

theorem SameEntries.trans {t t' t'' : Table} (first : SameEntries t t') (second : SameEntries t' t'') :
    SameEntries t t'' := by
  refine ⟨second.ids.trans first.ids,second.used.trans first.used,second.closed.trans first.closed,?_⟩
  intro i
  rw [second.streams i,first.streams i]

theorem SameEntries.window (t : Table) (slot : Nat) (window : BitVec 64) :
    SameEntries t (t.modify slot fun s => { s with window := window }) := by
  refine ⟨rfl,rfl,rfl,?_⟩
  intro i
  by_cases here : i = slot
  · subst here
    simp [Table.modify]
  · simp [Table.modify,here]

/-! ### The table of a connection -/

/-- The index and the bitmaps agree with an entry. -/
structure Table.Agrees (t : Table) (i : Nat) : Prop where
  id : (t.streams i).streamId = t.ids i
  used : t.used i = true ↔ t.ids i ≠ 0
  closed : t.closed i = true ↔ (t.streams i).state = .closed
  free : t.ids i = 0 → (t.streams i).state = .idle

/-- A stream has at most one entry, it is one of the client's, and not above the
    highest id. -/
structure Core.WellFormed (c : Core) : Prop where
  agrees : ∀ i < maxStreams, c.table.Agrees i
  odd : ∀ i < maxStreams, c.table.ids i ≠ 0 → c.table.ids i % 2 = 1
  distinct : ∀ i < maxStreams, ∀ j < maxStreams, c.table.ids i ≠ 0 → c.table.ids i = c.table.ids j → i = j
  bounded : ∀ i < maxStreams, c.table.ids i ≤ c.conn.lastStreamId
  small : c.conn.lastStreamId < 2^31

/-- A slot a new stream may be given holds no stream, or one that is closed. -/
theorem Core.WellFormed.fresh {c : Core} (formed : c.WellFormed) {slot : Nat} (fresh : freshSlot c.table = some slot) :
    slot < maxStreams ∧ (c.table.ids slot = 0 ∨ (c.table.streams slot).state = .closed) := by
  have small : ∀ i < maxStreams, c.table.ids i < 2^32 - 1 := by
    intro i inside
    have bounded := formed.bounded i inside
    have limit := formed.small
    omega
  obtain ⟨inside,which⟩ := freshSlot_some small fresh
  have agrees := formed.agrees slot inside
  refine ⟨inside,?_⟩
  rcases which with unused | ⟨closed,_⟩
  · left
    by_contra taken
    rw [agrees.used.mpr taken] at unused
    contradiction
  · exact .inr (agrees.closed.mp closed)

/-- The lookup finds the entry. -/
theorem Core.WellFormed.find {c : Core} (formed : c.WellFormed) {slot : Nat} (inside : slot < maxStreams)
    (proper : c.table.ids slot ≠ 0) : h2StreamFind c.table (c.table.ids slot) = some slot := by
  have bounded := formed.bounded slot inside
  have limit := formed.small
  cases found : h2StreamFind c.table (c.table.ids slot) with
  | none => exact absurd rfl (find_none found (by omega) slot inside)
  | some other =>
    obtain ⟨here,same,_⟩ := find_some found
    rw [formed.distinct slot inside other here proper same.symm]

/-! ### Steps -/

/-- A change of the table, other than the one an RST_STREAM frame makes. -/
inductive TableStep : Core → Core → Prop where
  | enter {c : Core} {slot id : Nat} (odd : id % 2 = 1) (above : c.conn.lastStreamId < id) (small : id < 2^31)
      (missing : ∀ i < maxStreams, c.table.ids i ≠ id) (fresh : freshSlot c.table = some slot) :
      TableStep c { c with table := initSlot c.table c.conn slot id, conn := { c.conn with lastStreamId := id } }
  | event {c : Core} {table : Table} {slot : Nat} {event : StreamEvent} (inside : slot < maxStreams)
      (proper : c.table.ids slot ≠ 0) (kept : event ≠ .recvRstStream)
      (executed : h2StreamEvent c.table slot event = .ok table) : TableStep c { c with table := table }
  | flags {c : Core} {slot flags : Nat} (opened : (c.table.streams slot).state = .opened) :
      TableStep c { c with table := c.table.setFlags slot flags }
  | windows {c c' : Core} (same : SameEntries c.table c'.table) (last : c'.conn.lastStreamId = c.conn.lastStreamId) :
      TableStep c c'

/-- Any number of changes. -/
abbrev TablePath : Core → Core → Prop := Relation.ReflTransGen TableStep

theorem TableStep.path {c c' : Core} (step : TableStep c c') : TablePath c c' := .single step

/-- Of the table nothing but windows changes. -/
theorem TablePath.windows {c c' : Core} (same : SameEntries c.table c'.table)
    (last : c'.conn.lastStreamId = c.conn.lastStreamId) : TablePath c c' :=
  (TableStep.windows same last).path

/-- Nothing of the table changes, nor the highest id. -/
theorem TablePath.still {c c' : Core} (table : c'.table = c.table) (last : c'.conn.lastStreamId = c.conn.lastStreamId) :
    TablePath c c' :=
  .windows (by rw [table]; exact .refl _) last

theorem setState_agrees {t : Table} {slot i : Nat} (state : StreamState) (proper : t.ids slot ≠ 0)
    (agrees : t.Agrees i) : (t.setState slot state).Agrees i := by
  by_cases here : i = slot
  · subst here
    exact ⟨by simpa [Table.setState] using agrees.id,agrees.used,by simp [Table.setState],fun free => absurd free proper⟩
  · refine ⟨?_,agrees.used,?_,?_⟩
    · simpa [Table.setState,here] using agrees.id
    · simpa [Table.setState,here] using agrees.closed
    · simpa [Table.setState,here] using agrees.free

/-- An entry in another state. -/
theorem Core.WellFormed.setState {c : Core} {slot : Nat} (formed : c.WellFormed) (state : StreamState)
    (proper : c.table.ids slot ≠ 0) : Core.WellFormed { c with table := c.table.setState slot state } :=
  ⟨fun i inside => setState_agrees state proper (formed.agrees i inside),formed.odd,formed.distinct,formed.bounded,
    formed.small⟩

/-- An entry changed in what the index and the bitmaps do not hold. -/
theorem modify_agrees {t : Table} {slot i : Nat} {f : Stream → Stream} (id : ∀ s, (f s).streamId = s.streamId)
    (state : ∀ s, (f s).state = s.state) (agrees : t.Agrees i) : (t.modify slot f).Agrees i := by
  by_cases here : i = slot
  · subst here
    refine ⟨?_,agrees.used,?_,?_⟩
    · simpa [Table.modify,id] using agrees.id
    · simpa [Table.modify,state] using agrees.closed
    · simpa [Table.modify,state] using agrees.free
  · refine ⟨?_,agrees.used,?_,?_⟩
    · simpa [Table.modify,here] using agrees.id
    · simpa [Table.modify,here] using agrees.closed
    · simpa [Table.modify,here] using agrees.free

theorem Core.WellFormed.modify {c : Core} {slot : Nat} {f : Stream → Stream} (formed : c.WellFormed)
    (id : ∀ s, (f s).streamId = s.streamId) (state : ∀ s, (f s).state = s.state) :
    Core.WellFormed { c with table := c.table.modify slot f } :=
  ⟨fun i inside => modify_agrees id state (formed.agrees i inside),formed.odd,formed.distinct,formed.bounded,formed.small⟩

theorem SameEntries.agrees {t t' : Table} (same : SameEntries t t') {i : Nat} (agrees : t.Agrees i) : t'.Agrees i := by
  obtain ⟨ids,used,closed,streams⟩ := same
  refine ⟨?_,?_,?_,?_⟩
  · rw [streams,ids]; exact agrees.id
  · rw [used,ids]; exact agrees.used
  · rw [streams,closed]; exact agrees.closed
  · rw [streams,ids]; exact agrees.free

/-- A new entry: no other has its id, which is the highest so far. -/
theorem Core.WellFormed.enter {c : Core} {slot id : Nat} (formed : c.WellFormed) (odd : id % 2 = 1)
    (above : c.conn.lastStreamId < id) (small : id < 2^31) (missing : ∀ i < maxStreams, c.table.ids i ≠ id) :
    Core.WellFormed { c with
      table := initSlot c.table c.conn slot id
      conn := { c.conn with lastStreamId := id } } := by
  refine ⟨?_,?_,?_,?_,small⟩
  · intro i inside
    have agrees := formed.agrees i inside
    by_cases here : i = slot
    · subst here
      refine ⟨by simp [initSlot],?_,by simp [initSlot],by simp [initSlot]⟩
      simp only [initSlot,store_same,true_iff]
      omega
    · refine ⟨?_,?_,?_,?_⟩
      · simpa [initSlot,here] using agrees.id
      · simpa [initSlot,here] using agrees.used
      · simpa [initSlot,here] using agrees.closed
      · simpa [initSlot,here] using agrees.free
  · intro i inside
    by_cases here : i = slot
    · simp [initSlot,here,odd]
    · simpa [initSlot,here] using formed.odd i inside
  · intro i insideI j insideJ
    by_cases hereI : i = slot
    · by_cases hereJ : j = slot
      · intro _ _; rw [hereI,hereJ]
      · intro _ same
        rw [hereI] at same
        simp only [initSlot,store_same,store_other _ _ hereJ] at same
        exact absurd same.symm (missing j insideJ)
    · by_cases hereJ : j = slot
      · intro _ same
        rw [hereJ] at same
        simp only [initSlot,store_same,store_other _ _ hereI] at same
        exact absurd same (missing i insideI)
      · simpa [initSlot,hereI,hereJ] using formed.distinct i insideI j insideJ
  · intro i inside
    by_cases here : i = slot
    · simp [initSlot,here]
    · have bounded := formed.bounded i inside
      simp only [initSlot,store_other _ _ here]
      omega

theorem step_formed {c c' : Core} (step : TableStep c c') (formed : c.WellFormed) : c'.WellFormed := by
  cases step with
  | enter odd above small missing fresh => exact formed.enter odd above small missing
  | event inside proper kept executed =>
    obtain ⟨state,_,rfl⟩ := event_cases executed
    exact formed.setState state proper
  | flags opened => exact formed.modify (fun _ => rfl) (fun _ => rfl)
  | windows same last =>
    refine ⟨fun i inside => same.agrees (formed.agrees i inside),?_,?_,?_,?_⟩
    · rw [same.ids]; exact formed.odd
    · rw [same.ids]; exact formed.distinct
    · rw [same.ids,last]; exact formed.bounded
    · rw [last]; exact formed.small

theorem path_formed {c c' : Core} (path : TablePath c c') (formed : c.WellFormed) : c'.WellFormed := by
  induction path with
  | refl => exact formed
  | tail _ step ih => exact step_formed step ih

/-! ### The handlers -/

/-- An event other than that of an RST_STREAM frame is refused by an entry that is
    free, unless it is a HEADERS frame's. -/
theorem event_proper {c : Core} {t : Table} {slot : Nat} {event : StreamEvent} (formed : c.WellFormed)
    (inside : slot < maxStreams) (later : event ≠ .recvHeaders) (executed : h2StreamEvent c.table slot event = .ok t) :
    c.table.ids slot ≠ 0 := by
  intro free
  obtain ⟨state,next,_⟩ := event_cases executed
  rw [(formed.agrees slot inside).free free] at next
  cases event <;> simp [transitions] at next later

theorem endStream_path {c : Core} {slot : Nat} (formed : c.WellFormed) (hdr : FrameHeader) (inside : slot < maxStreams) :
    TablePath c (c.endStream hdr slot).core := by
  rw [Core.endStream]
  split
  · split
    · exact .refl
    · next table executed =>
      exact (TableStep.event inside (event_proper formed inside (by decide) executed) (by decide) executed).path
  · exact .refl

theorem data_path {c : Core} (formed : c.WellFormed) (hdr : FrameHeader) (payload : Mem) :
    TablePath c (h2HandleData c hdr payload).core := by
  rw [h2HandleData]
  split
  · exact .refl
  next slot found =>
  have inside := (find_some found).1
  split
  · exact .refl
  · next table executed =>
    have step := TableStep.event inside (event_proper formed inside (by decide) executed) (by decide) executed
    exact step.path.trans (endStream_path (step_formed step formed) hdr inside)

/-- The entry a HEADERS frame is for is there already, or is a new one. -/
theorem admit_cases {c : Core} {hdr : FrameHeader} {slot : Nat} {table : Table} {conn : Conn}
    (small : hdr.streamId < 2^31) (admitted : admitStream c hdr = .ok (slot,table,conn)) :
    hdr.streamId % 2 = 1 ∧
      ((table = c.table ∧ conn = c.conn ∧ h2StreamFind c.table hdr.streamId = some slot) ∨
        (c.conn.lastStreamId < hdr.streamId ∧ (∀ i < maxStreams, c.table.ids i ≠ hdr.streamId) ∧
          freshSlot c.table = some slot ∧ table = initSlot c.table c.conn slot hdr.streamId ∧
          conn = { c.conn with lastStreamId := hdr.streamId })) := by
  rw [admitStream] at admitted
  split at admitted
  · contradiction
  · next there valid =>
    obtain ⟨found,_,odd⟩ := validate_some valid
    have same : slots.find? (fun i => c.table.ids i = hdr.streamId) = some there := by
      rwa [h2StreamFind,if_neg (Nat.not_le.mpr small)] at found
    rw [h2StreamCreate,same] at admitted
    cases admitted
    exact ⟨odd,.inl ⟨rfl,rfl,found⟩⟩
  · next valid =>
    obtain ⟨missing,_,odd,above⟩ := validate_none valid
    refine ⟨odd,.inr ?_⟩
    split at admitted
    · contradiction
    split at admitted
    · contradiction
    rcases create_cases admitted with ⟨_,_,inside,same⟩ | ⟨_,fresh,table,conn⟩
    · exact absurd same (find_none missing small slot inside)
    · exact ⟨above,find_none missing small,fresh,table,conn⟩

theorem admit_path {c : Core} {hdr : FrameHeader} {slot : Nat} {table : Table} {conn : Conn} (formed : c.WellFormed)
    (small : hdr.streamId < 2^31) (admitted : admitStream c hdr = .ok (slot,table,conn)) :
    TablePath c { c with table := table, conn := conn } ∧ slot < maxStreams ∧ table.ids slot ≠ 0 := by
  obtain ⟨odd,there | ⟨above,missing,fresh,table,conn⟩⟩ := admit_cases small admitted
  · obtain ⟨rfl,rfl,found⟩ := there
    obtain ⟨inside,same,_⟩ := find_some found
    exact ⟨.refl,inside,by omega⟩
  · subst table conn
    refine ⟨(TableStep.enter odd above small missing fresh).path,(formed.fresh fresh).1,?_⟩
    simp only [initSlot,store_same]
    omega

theorem receiveBlock_table (c : Core) (streamId : Nat) (block : Mem) (len : Nat) :
    (c.receiveBlock streamId block len).1.table = c.table ∧ (c.receiveBlock streamId block len).1.conn = c.conn := by
  rw [Core.receiveBlock]
  split
  · exact ⟨rfl,rfl⟩
  · split <;> exact ⟨rfl,rfl⟩

theorem headersEvent_opened {t t' : Table} {slot : Nat} (executed : h2StreamEvent t slot .recvHeaders = .ok t') :
    (t'.streams slot).state = .opened := by
  obtain ⟨state,next,rfl⟩ := event_cases executed
  have opened : state = .opened := by
    cases before : (t.streams slot).state <;> rw [before] at next <;> simp [transitions] at next <;> exact next.symm
  rw [opened]
  simp [Table.setState]

theorem enterHeaders_path {c : Core} {slot : Nat} (formed : c.WellFormed) (hdr : FrameHeader) (payload : Mem)
    (inside : slot < maxStreams) (proper : c.table.ids slot ≠ 0) :
    TablePath c (c.enterHeaders hdr payload slot).core := by
  rw [Core.enterHeaders]
  split
  · exact .refl
  next table entered =>
  have opening : TableStep c { c with table := table } := .event inside proper (by decide) entered
  have flagged : TableStep { c with table := table } { c with table := table.setFlags slot hdr.flags } :=
    .flags (headersEvent_opened entered)
  have sofar := opening.path.trans flagged.path
  dsimp only
  split
  · exact sofar
  next off len fragment =>
  obtain ⟨same,conn⟩ :=
    receiveBlock_table { c with table := table.setFlags slot hdr.flags } hdr.streamId (shift payload off) len
  have received : TablePath { c with table := table.setFlags slot hdr.flags }
      (Core.receiveBlock { c with table := table.setFlags slot hdr.flags } hdr.streamId (shift payload off) len).1 :=
    .still same (by rw [conn])
  split
  · next c' e failed => rw [failed] at received; exact sofar.trans received
  · next c' done =>
    rw [done] at received
    have whole := sofar.trans received
    exact whole.trans (endStream_path (path_formed whole formed) hdr inside)

theorem headers_path {c : Core} {hdr : FrameHeader} (formed : c.WellFormed) (small : hdr.streamId < 2^31)
    (payload : Mem) :
    TablePath c (h2HandleHeaders c hdr payload).core := by
  rw [h2HandleHeaders]
  split
  · exact .refl
  · next slot table conn admitted =>
    obtain ⟨entering,inside,proper⟩ := admit_path formed small admitted
    exact entering.trans (enterHeaders_path (path_formed entering formed) hdr payload inside proper)

theorem shiftWindows_same (delta : BitVec 64) :
    ∀ (l : List Nat) (t : Table), SameEntries t (shiftWindows delta l t).1 := by
  intro l
  induction l with
  | nil => intro t; exact .refl t
  | cons i l ih =>
    intro t
    rw [shiftWindows]
    split
    · exact ih t
    dsimp only
    split
    · exact .refl t
    · exact (SameEntries.window t i _).trans (ih _)

theorem setting_path (c : Core) (id value : Nat) : TablePath c (c.setting id value).1 := by
  rw [Core.setting]
  split
  · exact .still rfl rfl
  split
  · exact .still rfl rfl
  split
  · exact .still rfl rfl
  split
  · rw [Core.setInitialWindow]
    split
    · exact .refl
    dsimp only
    have shifted := shiftWindows_same (BitVec.ofNat 64 value - BitVec.ofNat 64 c.conn.initialWindowSize) slots c.table
    split
    · exact .still rfl rfl
    · split
      · next table done => rw [done] at shifted; exact .windows shifted rfl
      · next table failed => rw [failed] at shifted; exact .windows shifted rfl
  split
  · split
    · exact .refl
    · exact .still rfl rfl
  split
  · exact .still rfl rfl
  · exact .refl

theorem settingsLoop_path (payload : Mem) :
    ∀ (count off : Nat) (c : Core), TablePath c (settingsLoop payload count off c).1 := by
  intro count
  induction count with
  | zero => intro off c; exact .refl
  | succ count ih =>
    intro off c
    have entry := setting_path c (bigEndian payload off 2) (bigEndian payload (off + 2) 4)
    rw [settingsLoop]
    split
    · next c' e failed => rw [failed] at entry; exact entry
    · next c' done => rw [done] at entry; exact entry.trans (ih _ c')

theorem settings_path (c : Core) (hdr : FrameHeader) (payload : Mem) :
    TablePath c (h2HandleSettings c hdr payload).core := by
  rw [h2HandleSettings]
  split
  · exact .refl
  split
  · split
    · exact .refl
    · exact .still rfl rfl
  split
  · exact .refl
  have entries := settingsLoop_path payload (hdr.length / settingsEntryLen) 0 c
  split
  · next c' e failed => rw [failed] at entries; exact entries
  · next c' done => rw [done] at entries; exact entries

theorem update_path (c : Core) (hdr : FrameHeader) (payload : Mem) :
    TablePath c (h2HandleWindowUpdate c hdr payload).core := by
  rw [h2HandleWindowUpdate]
  dsimp only
  split
  · exact .refl
  split
  · exact .refl
  split
  · split
    · exact .refl
    · exact .still rfl rfl
  split
  · split <;> exact .refl
  split
  · exact .refl
  split
  · exact .refl
  · exact .windows (.window _ _ _) rfl

/-- An RST_STREAM frame that its handler accepts. -/
structure ResetFrame (before : Core) (hdr : FrameHeader) (slot : Nat) : Prop where
  type : hdr.type = frameRstStream
  length : hdr.length = 4
  proper : hdr.streamId ≠ 0
  found : h2StreamFind before.table hdr.streamId = some slot

/-- A frame moves the table along a path, or is an RST_STREAM frame and closes one
    entry. -/
theorem dispatch_table {c : Core} {hdr : FrameHeader} (formed : c.WellFormed) (small : hdr.streamId < 2^31)
    (payload : Mem) :
    TablePath c (h2DispatchFrame c hdr payload).core ∨
      ∃ type slot, ResetFrame c hdr slot ∧ (h2DispatchFrame c hdr payload).error = none ∧
        (h2DispatchFrame c hdr payload).core = { c.noted type with table := c.table.setState slot .closed } := by
  refine dispatch_rule (P := fun outcome => TablePath c outcome.core ∨ ∃ type slot, ResetFrame c hdr slot ∧
    outcome.error = none ∧ outcome.core = { c.noted type with table := c.table.setState slot .closed }) ?_
  intro type outcome handled
  have noted : TablePath c (c.noted type) := .still rfl rfl
  have formed' := path_formed noted formed
  cases handled with
  | data _ => exact .inl (noted.trans (data_path formed' hdr payload))
  | headers _ => exact .inl (noted.trans (headers_path formed' small payload))
  | rstStream is =>
    rw [h2HandleRstStream]
    split
    · exact .inl noted
    next length =>
    split
    · exact .inl noted
    next proper =>
    split
    · exact .inl noted
    next slot found =>
    split
    · exact .inl noted
    · next table executed =>
      right
      refine ⟨type,slot,⟨is,by omega,by omega,found⟩,rfl,?_⟩
      obtain ⟨state,next,rfl⟩ := event_cases executed
      have closed : state = .closed := by
        cases before : ((c.noted type).table.streams slot).state <;> rw [before] at next <;>
          simp [transitions] at next <;> exact next.symm
      rw [closed]
      rfl
  | settings _ => exact .inl (noted.trans (settings_path _ hdr payload))
  | ping _ =>
    left
    rw [h2HandlePing]
    split
    · exact noted
    split
    · exact noted
    split <;> exact noted
  | goaway _ =>
    left
    rw [h2HandleGoaway]
    split
    · exact noted
    split
    · exact noted
    · exact .still rfl rfl
  | windowUpdate _ => exact .inl (noted.trans (update_path _ hdr payload))
  | passed _ _ _ => exact .inl noted

theorem dispatch_formed {c : Core} {hdr : FrameHeader} (formed : c.WellFormed) (small : hdr.streamId < 2^31)
    (payload : Mem) :
    (h2DispatchFrame c hdr payload).core.WellFormed := by
  rcases dispatch_table formed small payload with path | ⟨type,slot,reset,_,core⟩
  · exact path_formed path formed
  · rw [core]
    have noted := path_formed (.still rfl rfl : TablePath c (c.noted type)) formed
    exact noted.setState .closed
      (by rw [show (c.noted type).table = c.table from rfl,(find_some reset.found).2.1]; exact reset.proper)

/-! ### Streams whose requests are complete -/

/-- A stream no newer than the newest whose entry, if it has one, has a property. -/
def Core.Old (c : Core) (Q : Stream → Prop) (id : Nat) : Prop :=
  id ≤ c.conn.lastStreamId ∧ ∀ i < maxStreams, c.table.ids i = id → Q (c.table.streams i)

/-- A property of complete requests that outlasts frames. -/
structure Lasting (Q : Stream → Prop) : Prop where
  complete : ∀ s, Q s → s.state = .closed ∨ s.state = .halfClosedRemote
  closes : ∀ s, Q s → Q { s with state := .closed }
  window : ∀ s window, Q s → Q { s with window := window }

theorem setState_old {c : Core} {Q : Stream → Prop} {id slot : Nat} {state : StreamState}
    (entry : Q (c.table.streams slot) → Q { c.table.streams slot with state := state }) (old : c.Old Q id) :
    Core.Old { c with table := c.table.setState slot state } Q id := by
  obtain ⟨last,all⟩ := old
  refine ⟨last,?_⟩
  intro i inside own
  by_cases here : i = slot
  · subst here
    simpa [Table.setState] using entry (all i inside own)
  · simpa [Table.setState,here] using all i inside own

theorem modify_old {c : Core} {Q : Stream → Prop} {id slot : Nat} {f : Stream → Stream} (entry : ∀ s, Q s → Q (f s))
    (old : c.Old Q id) :
    Core.Old { c with table := c.table.modify slot f } Q id := by
  obtain ⟨last,all⟩ := old
  refine ⟨last,?_⟩
  intro i inside own
  by_cases here : i = slot
  · subst here
    simpa [Table.modify] using entry _ (all i inside own)
  · simpa [Table.modify,here] using all i inside own

theorem step_old {c c' : Core} {Q : Stream → Prop} {id : Nat} (lasting : Lasting Q) (step : TableStep c c')
    (old : c.Old Q id) :
    c'.Old Q id := by
  cases step with
  | @enter slot new _ above _ _ _ =>
    obtain ⟨last,all⟩ := old
    refine ⟨Nat.le_of_lt (Nat.lt_of_le_of_lt last above),?_⟩
    intro i inside own
    by_cases here : i = slot
    · have newer : new = id := by simpa [initSlot,here] using own
      omega
    · simp only [initSlot,store_other _ _ here] at own ⊢
      exact all i inside own
  | @event table slot event _ _ kept executed =>
    obtain ⟨state,next,rfl⟩ := event_cases executed
    refine setState_old ?_ old
    -- A complete request takes no event but a reset.
    intro entry
    rcases lasting.complete _ entry with closed | half
    · rw [closed] at next
      cases event <;> simp [transitions] at next kept
    · rw [half] at next
      cases event <;> simp [transitions] at next kept
  | @flags slot flags opened =>
    obtain ⟨last,all⟩ := old
    refine ⟨last,?_⟩
    intro i inside own
    have other : i ≠ slot := by
      rintro rfl
      rcases lasting.complete _ (all i inside own) with closed | half
      · rw [opened] at closed
        contradiction
      · rw [opened] at half
        contradiction
    simpa [Table.setFlags,Table.modify,other] using all i inside own
  | windows same last =>
    refine ⟨by rw [last]; exact old.1,?_⟩
    intro i inside own
    rw [same.streams]
    exact lasting.window _ _ (old.2 i inside (by rw [← same.ids]; exact own))

theorem path_old {c c' : Core} {Q : Stream → Prop} {id : Nat} (lasting : Lasting Q) (path : TablePath c c')
    (old : c.Old Q id) :
    c'.Old Q id := by
  induction path with
  | refl => exact old
  | tail _ step ih => exact step_old lasting step ih

theorem dispatch_old {c : Core} {Q : Stream → Prop} {id : Nat} {hdr : FrameHeader} (lasting : Lasting Q)
    (formed : c.WellFormed)
    (small : hdr.streamId < 2^31) (payload : Mem) (old : c.Old Q id) : (h2DispatchFrame c hdr payload).core.Old Q id := by
  rcases dispatch_table formed small payload with path | ⟨type,slot,_,_,core⟩
  · exact path_old lasting path old
  · rw [core]
    exact setState_old (lasting.closes _) (old : (c.noted type).Old Q id)

end Sarm.H2
