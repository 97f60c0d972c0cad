import Sarm.Acts

/-!
Flow control of the whole connection. The send window is what a ledger of the log
says: the initial 65535 octets, the increments of the WINDOW_UPDATE frames for
stream 0 that were accepted, less the octets of the DATA frames sent, whichever
stream they were on and however deep the requests were nested.
-/
namespace Sarm.H2
open Sarm.Memory Sarm.Trace

/-- A WINDOW_UPDATE frame for the connection that its handler accepts. -/
def ConnUpdate (before : Core) (hdr : FrameHeader) (payload : Mem) : Prop :=
  hdr.type = frameWindowUpdate ∧ hdr.streamId = 0 ∧ (h2DispatchFrame before hdr payload).error = none

instance (before : Core) (hdr : FrameHeader) (payload : Mem) : Decidable (ConnUpdate before hdr payload) :=
  inferInstanceAs (Decidable (_ ∧ _ ∧ _))

/-- What an event adds to the window. -/
def Event.credit : Event → Int
  | .frame before _ hdr payload => if ConnUpdate before hdr payload then windowIncrement payload else 0
  | .data _ _ f => -f.payload.length
  | _ => 0

/-- The window a log accounts for. -/
def ledger (log : List Event) : Int := defaultInitialWindowSize + (log.map Event.credit).sum

@[simp] theorem ledger_snoc (log : List Event) (e : Event) : ledger (log ++ [e]) = ledger log + e.credit := by
  simp [ledger,Int.add_assoc]

/-! ### The handlers -/

theorem endStream_conn (c : Core) (hdr : FrameHeader) (slot : Nat) : (c.endStream hdr slot).core.conn = c.conn := by
  rw [Core.endStream]
  split
  · split <;> rfl
  · rfl

theorem data_conn (c : Core) (hdr : FrameHeader) (payload : Mem) : (h2HandleData c hdr payload).core.conn = c.conn := by
  rw [h2HandleData]
  split
  · rfl
  split
  · rfl
  · exact endStream_conn _ _ _

theorem receiveBlock_conn (c : Core) (streamId : Nat) (block : Mem) (len : Nat) :
    (c.receiveBlock streamId block len).1.conn = c.conn := by
  rw [Core.receiveBlock]
  split
  · rfl
  · split <;> rfl

theorem enterHeaders_conn (c : Core) (hdr : FrameHeader) (payload : Mem) (slot : Nat) :
    (c.enterHeaders hdr payload slot).core.conn = c.conn := by
  rw [Core.enterHeaders]
  split
  · rfl
  next table entered =>
  dsimp only
  split
  · rfl
  next off len fragment =>
  have received :=
    receiveBlock_conn { c with table := table.setFlags slot hdr.flags } hdr.streamId (shift payload off) len
  split
  · next c' e failed => rw [failed] at received; exact received
  · next c' done => rw [done] at received; exact (endStream_conn c' hdr slot).trans received

/-- A stream's entry, and nothing of the connection but the highest id. -/
theorem admit_conn {c : Core} {hdr : FrameHeader} {slot : Nat} {table : Table} {conn : Conn}
    (admitted : admitStream c hdr = .ok (slot,table,conn)) :
    conn = { c.conn with lastStreamId := conn.lastStreamId } := by
  have created : h2StreamCreate c.table c.conn hdr.streamId = .ok (slot,table,conn) := by
    rw [admitStream] at admitted
    split at admitted
    · contradiction
    · exact admitted
    · split at admitted
      · contradiction
      · split at admitted
        · contradiction
        · exact admitted
  rcases create_cases created with ⟨_,same,_⟩ | ⟨_,_,_,same⟩
  · rw [same]
  · rw [same]

theorem headers_window (c : Core) (hdr : FrameHeader) (payload : Mem) :
    (h2HandleHeaders c hdr payload).core.conn.window = c.conn.window := by
  rw [h2HandleHeaders]
  split
  · rfl
  · next slot table conn admitted =>
    rw [enterHeaders_conn]
    dsimp only
    rw [admit_conn admitted]

theorem rst_conn (c : Core) (hdr : FrameHeader) (payload : Mem) :
    (h2HandleRstStream c hdr payload).core.conn = c.conn := by
  rw [h2HandleRstStream]
  split
  · rfl
  split
  · rfl
  split
  · rfl
  · split <;> rfl

theorem setting_window (c : Core) (id value : Nat) : (c.setting id value).1.conn.window = c.conn.window := by
  rw [Core.setting]
  split
  · rfl
  split
  · rfl
  split
  · rfl
  split
  · rw [Core.setInitialWindow]
    split
    · rfl
    dsimp only
    split
    · rfl
    · split <;> rfl
  split
  · split <;> rfl
  split <;> rfl

theorem settingsLoop_window (payload : Mem) : ∀ (count off : Nat) (c : Core),
    (settingsLoop payload count off c).1.conn.window = c.conn.window := by
  intro count
  induction count with
  | zero => intro off c; rfl
  | succ count ih =>
    intro off c
    have entry := setting_window c (bigEndian payload off 2) (bigEndian payload (off + 2) 4)
    rw [settingsLoop]
    split
    · next c' e failed => rw [failed] at entry; exact entry
    · next c' done => rw [done] at entry; exact (ih _ c').trans entry

theorem settings_window (c : Core) (hdr : FrameHeader) (payload : Mem) :
    (h2HandleSettings c hdr payload).core.conn.window = c.conn.window := by
  rw [h2HandleSettings]
  have entries := settingsLoop_window payload (hdr.length / settingsEntryLen) 0 c
  split
  · rfl
  split
  · split <;> rfl
  split
  · rfl
  split
  · next c' e failed => rw [failed] at entries; exact entries
  · next c' done => rw [done] at entries; exact entries

/-- A WINDOW_UPDATE frame adds its increment to the connection's window exactly
    when it is for stream 0 and accepted, and leaves it within bounds. -/
theorem update_window (c : Core) (hdr : FrameHeader) (payload : Mem) :
    (h2HandleWindowUpdate c hdr payload).core.conn.window =
        c.conn.window +
    (if hdr.streamId = 0 ∧ (h2HandleWindowUpdate c hdr payload).error = none then windowIncrement payload else 0) ∧
      (c.conn.window ≤ maxFlowWindow → (h2HandleWindowUpdate c hdr payload).core.conn.window ≤ maxFlowWindow) := by
  rw [h2HandleWindowUpdate]
  dsimp only
  by_cases length : hdr.length ≠ 4
  · rw [if_pos length]; exact ⟨by simp [Core.fails],id⟩
  rw [if_neg length]
  by_cases zero : windowIncrement payload = 0
  · rw [if_pos zero]; exact ⟨by simp [Core.fails],id⟩
  rw [if_neg zero]
  by_cases conn : hdr.streamId = 0
  · rw [if_pos conn]
    by_cases halted : maxFlowWindow < c.conn.window + windowIncrement payload
    · rw [if_pos halted]; exact ⟨by simp [Core.fails],id⟩
    · rw [if_neg halted]
      refine ⟨by simp [Core.done,conn],fun _ => ?_⟩
      exact Nat.not_lt.mp halted
  · rw [if_neg conn]
    refine ⟨?_,?_⟩
    · split
      · split <;> simp [Core.fails,Core.done,conn]
      · split
        · simp [Core.done,conn]
        · split <;> simp [Core.fails,Core.done,conn]
    · split
      · split <;> exact id
      · split
        · exact id
        · split <;> exact id

/-- A dispatched frame and the connection's window. -/
theorem dispatch_window (c : Core) (hdr : FrameHeader) (payload : Mem) :
    (h2DispatchFrame c hdr payload).core.conn.window =
        c.conn.window + (if ConnUpdate c hdr payload then windowIncrement payload else 0) ∧
      (c.conn.window ≤ maxFlowWindow → (h2DispatchFrame c hdr payload).core.conn.window ≤ maxFlowWindow) := by
  refine dispatch_rule (P := fun outcome => outcome.core.conn.window = c.conn.window +
      (if hdr.type = frameWindowUpdate ∧ hdr.streamId = 0 ∧ outcome.error = none then windowIncrement payload else 0) ∧
    (c.conn.window ≤ maxFlowWindow → outcome.core.conn.window ≤ maxFlowWindow)) ?_
  intro type outcome handled
  have untouched : ∀ {outcome : Outcome}, hdr.type ≠ frameWindowUpdate → outcome.core.conn.window = c.conn.window →
      outcome.core.conn.window = c.conn.window +
          (if hdr.type = frameWindowUpdate ∧ hdr.streamId = 0 ∧
            outcome.error = none then windowIncrement payload else 0) ∧
        (c.conn.window ≤ maxFlowWindow → outcome.core.conn.window ≤ maxFlowWindow) := by
    intro outcome other same
    rw [if_neg (fun update => other update.1),same]
    exact ⟨rfl,id⟩
  cases handled with
  | data is => exact untouched (by rw [is]; decide) (by rw [data_conn]; rfl)
  | headers is => exact untouched (by rw [is]; decide) (headers_window _ _ _)
  | rstStream is => exact untouched (by rw [is]; decide) (by rw [rst_conn]; rfl)
  | settings is => exact untouched (by rw [is]; decide) (settings_window _ _ _)
  | ping is =>
    refine untouched (by rw [is]; decide) ?_
    rw [h2HandlePing]
    split
    · rfl
    split
    · rfl
    split <;> rfl
  | goaway is =>
    refine untouched (by rw [is]; decide) ?_
    rw [h2HandleGoaway]
    split
    · rfl
    split <;> rfl
  | windowUpdate is =>
    obtain ⟨exact_,bounded⟩ := update_window (c.noted type) hdr payload
    refine ⟨exact_.trans ?_,bounded⟩
    by_cases update : hdr.streamId = 0 ∧ (h2HandleWindowUpdate (c.noted type) hdr payload).error = none
    · rw [if_pos update,if_pos ⟨is,update⟩]
      rfl
    · rw [if_neg update,if_neg (fun both => update both.2)]
      rfl
  | passed _ _ update => exact untouched update rfl

/-! ### The runs -/

/-- The window is what the ledger says, and was whenever a DATA frame was sent. -/
structure Accounted (s : Server) : Prop where
  window : (s.core.conn.window : Int) = ledger s.log
  bounded : s.core.conn.window ≤ maxFlowWindow
  sent : Always (fun before e => 0 ≤ ledger before ∧ ledger before ≤ maxFlowWindow ∧
    ∀ c c' f, e = .data c c' f → (f.payload.length : Int) ≤ ledger before) s.log

/-- An event other than a DATA frame is logged in step with the window. -/
theorem Accounted.event {s s' : Server} {e : Event} (accounted : Accounted s) (log : s'.log = s.log ++ [e])
    (other : ∀ c c' f, e ≠ .data c c' f) (window : (s'.core.conn.window : Int) = s.core.conn.window + e.credit)
    (bounded : s'.core.conn.window ≤ maxFlowWindow) : Accounted s' := by
  obtain ⟨exact_,bound,sent⟩ := accounted
  refine ⟨?_,bounded,?_⟩
  · rw [log,ledger_snoc,window,exact_]
  · rw [log,always_snoc]
    refine ⟨sent,by omega,by omega,?_⟩
    intro c c' f data
    exact absurd data (other c c' f)

/-- Nothing is logged, and the window stays. -/
theorem Accounted.same {s s' : Server} (accounted : Accounted s) (log : s'.log = s.log)
    (window : s'.core.conn.window = s.core.conn.window) : Accounted s' := by
  obtain ⟨exact_,bound,sent⟩ := accounted
  exact ⟨by rw [log,window,exact_],by rw [window]; exact bound,by rw [log]; exact sent⟩

theorem chunk_window (c : Core) (serve : Serve) : chunkLength c serve ≤ c.conn.window := by
  rw [chunkLength]
  omega

theorem dataFrame_length (c : Core) (serve : Serve) :
    (dataFrame serve (chunkLength c serve)).payload.length = chunkLength c serve := by
  rw [dataFrame,List.length_take,chunkLength]
  omega

theorem accounted_keeps : acts.Keeps (fun _ => True) Accounted := by
  intro s s' act _ accounted
  have bound := accounted.bounded
  cases act with
  | moved core _ _ log _ => exact accounted.same log (by rw [core])
  | sent core _ _ log _ _ _ =>
    exact accounted.event log (by rintro _ _ _ ⟨⟩) (by rw [core]; simp [Event.credit]) (by rw [core]; exact bound)
  | @frame _ hdr payload _ core _ _ _ _ log _ _ =>
    obtain ⟨exact_,bounded⟩ := dispatch_window s.core hdr payload
    refine accounted.event log (by rintro _ _ _ ⟨⟩) ?_ (by rw [core]; exact bounded bound)
    rw [core,exact_,Event.credit]
    split <;> simp
  | refused core _ _ _ log =>
    exact accounted.event log (by rintro _ _ _ ⟨⟩) (by rw [core]; simp [Event.credit]) (by rw [core]; exact bound)
  | waiting _ => exact accounted.event rfl (by rintro _ _ _ ⟨⟩) (by simp [Event.credit,Server.emit]) bound
  | waitFailed core _ _ _ log _ =>
    exact accounted.event log (by rintro _ _ _ ⟨⟩) (by rw [core]; simp [Event.credit]) (by rw [core]; exact bound)
  | serve _ _ _ _ _ =>
    exact accounted.event rfl (by rintro _ _ _ ⟨⟩) (by simp [Event.credit,Server.emit,Server.push]) bound
  | top staged body => exact accounted.same (setTop_log s staged body) (by rw [setTop_core])
  | @charged serve rest _ stack =>
    -- The chunk is within the window, so the subtraction is exact.
    have chunk := chunk_window s.core serve
    have length := dataFrame_length s.core serve
    obtain ⟨exact_,_,sent⟩ := accounted
    refine ⟨?_,?_,?_⟩
    · show ((s.core.conn.window - chunkLength s.core serve : Nat) : Int) = ledger (s.log ++ [_])
      rw [ledger_snoc,← exact_,Event.credit,length]
      omega
    · exact Nat.le_trans (Nat.sub_le _ _) bound
    · show Always _ (s.log ++ [_])
      rw [always_snoc]
      refine ⟨sent,by omega,by omega,?_⟩
      rintro c c' f ⟨⟩
      rw [length]
      omega
  | finish => exact accounted.same (finish_log s) (by rw [finish_conn])
  | ends core _ _ log _ => exact accounted.same log (by rw [core])

theorem enter_accounted (e : Entry) : Accounted (h2ConnectionLoop e) := by
  obtain ⟨core,_,log,_⟩ := enter_entered e
  have window : (h2ConnectionLoop e).core.conn.window = defaultInitialWindowSize := by rw [core]; rfl
  have start : Accounted { h2ConnectionLoop e with log := [] } := by
    refine ⟨?_,?_,always_nil _⟩
    · show ((h2ConnectionLoop e).core.conn.window : Int) = ledger []
      rw [window]
      rfl
    · show (h2ConnectionLoop e).core.conn.window ≤ maxFlowWindow
      rw [window]
      decide
  rcases log with none | ⟨ok,settings⟩
  · exact start.same none rfl
  · refine start.event settings (by rintro _ _ _ ⟨⟩) (by simp [Event.credit]) ?_
    rw [window]
    decide

/-- In every run the connection's send window is 65535 plus the increments accepted
    for stream 0 less the DATA octets sent, it stays within 0 and 2^31 - 1, and no
    DATA frame is larger than what it is when the frame is sent. -/
theorem connection_window (files : List EmbeddedFile) (e : Entry) (n : Nat) :
    let s := run files (h2ConnectionLoop e) n
    (s.core.conn.window : Int) = ledger s.log ∧ s.core.conn.window ≤ 2^31 - 1 ∧
      ∀ before c c' f after, s.log = before ++ .data c c' f :: after →
        (f.payload.length : Int) ≤ ledger before ∧ ledger before ≤ 2^31 - 1 := by
  obtain ⟨window,bounded,sent⟩ := run_invariant accounted_keeps files (enter_accounted e) n (fun _ _ => trivial)
  refine ⟨window,bounded,?_⟩
  intro before c c' f after split
  obtain ⟨_,bound,fits⟩ := sent before _ after split
  exact ⟨fits c c' f rfl,bound⟩

end Sarm.H2
