import Sarm.Receiving

/-!
What the server keeps and never reads: the type of the last frame and the flags of
an entry, and with them END_HEADERS, which is kept there and looked at nowhere else.
Servers that differ in nothing else, but perhaps in their logs, go on alike.
-/
namespace Sarm.H2
open Sarm.Memory Sarm.Trace
open Sarm.Hpack (h2HpackDecodeBlock)

/-! ### What nothing reads -/

/-- The entries without the flags of their frames. -/
def Table.bare (t : Table) : Table := { t with streams := fun i => { t.streams i with flags := 0 } }

/-- The state without the type of the last frame and those flags. -/
def Core.bare (c : Core) : Core := { c with conn := { c.conn with lastFrameType := 0 }, table := c.table.bare }

def Outcome.bare (o : Outcome) : Outcome := { o with core := o.core.bare }

@[simp] theorem bare_find (t : Table) (id : Nat) : h2StreamFind t.bare id = h2StreamFind t id := rfl

/-- A change of one entry that does not look at the flags. -/
theorem bare_store (t : Table) (slot : Nat) (s : Stream) :
    ({ t with streams := store t.streams slot s } : Table).bare =
      { t.bare with streams := store t.bare.streams slot { s with flags := 0 } } := by
  simp only [Table.bare]
  congr 1
  funext i
  by_cases here : i = slot <;> simp [here]

@[simp] theorem bare_setState (t : Table) (slot : Nat) (state : StreamState) :
    (t.setState slot state).bare = t.bare.setState slot state := by
  simp only [Table.bare,Table.setState]
  congr 1
  funext i
  by_cases here : i = slot <;> simp [here]

@[simp] theorem bare_event (t : Table) (slot : Nat) (event : StreamEvent) :
    h2StreamEvent t.bare slot event = (h2StreamEvent t slot event).map Table.bare := by
  rw [h2StreamEvent,h2StreamEvent,show (t.bare.streams slot).state = (t.streams slot).state from rfl]
  cases transitions (t.streams slot).state event with
  | none => rfl
  | some state =>
    simp only [Except.map]
    rw [bare_setState]

theorem bare_modify (t : Table) (slot : Nat) {f : Stream → Stream}
    (blind : ∀ s, { f s with flags := 0 } = f { s with flags := 0 }) :
    (t.modify slot f).bare = t.bare.modify slot f := by
  simp only [Table.modify]
  rw [bare_store,blind]
  rfl

theorem bare_setFlags (t : Table) (slot flags flags' : Nat) :
    (t.bare.setFlags slot flags').bare = (t.setFlags slot flags).bare := by
  simp only [Table.bare,Table.setFlags,Table.modify]
  congr 1
  funext i
  by_cases here : i = slot <;> simp [here]

theorem bare_init (t : Table) (c : Conn) (slot id type : Nat) :
    (initSlot t c slot id).bare = initSlot t.bare { c with lastFrameType := type } slot id := by
  simp only [Table.bare,initSlot]
  congr 1
  funext i
  by_cases here : i = slot <;> simp [here]

theorem bare_closeServed (t : Table) (slot id : Nat) : (t.closeServed slot id).bare = t.bare.closeServed slot id := by
  rw [Table.closeServed,Table.closeServed,show (t.bare.streams slot).streamId = (t.streams slot).streamId from rfl]
  split
  · exact bare_store { t with closed := store t.closed slot true } _ _
  · rfl

theorem bare_shift (delta : BitVec 64) : ∀ (l : List Nat) (t : Table),
    shiftWindows delta l t.bare = ((shiftWindows delta l t).1.bare,(shiftWindows delta l t).2) := by
  intro l
  induction l with
  | nil => intro t; rfl
  | cons i l ih =>
    intro t
    rw [shiftWindows,shiftWindows]
    by_cases skipped : (t.streams i).streamId = 0 ∨ (t.streams i).state = .closed
    · rw [if_pos skipped,if_pos (show (t.bare.streams i).streamId = 0 ∨ (t.bare.streams i).state = .closed from skipped)]
      exact ih t
    rw [if_neg skipped,
      if_neg (show ¬ ((t.bare.streams i).streamId = 0 ∨ (t.bare.streams i).state = .closed) from skipped)]
    dsimp only
    rw [show (t.bare.streams i).window = (t.streams i).window from rfl]
    split
    · rfl
    · rw [← ih,bare_modify]
      exact fun _ => rfl

/-! ### The handlers -/

theorem bare_endStream (c : Core) (hdr : FrameHeader) (slot : Nat) :
    c.bare.endStream hdr slot = (c.endStream hdr slot).bare := by
  rw [Core.endStream,Core.endStream]
  split
  · rw [show c.bare.table = c.table.bare from rfl,bare_event]
    cases h2StreamEvent c.table slot .recvEndStream <;> rfl
  · rfl

theorem bare_data (c : Core) (hdr : FrameHeader) (payload : Mem) :
    h2HandleData c.bare hdr payload = (h2HandleData c hdr payload).bare := by
  rw [h2HandleData,h2HandleData,show h2StreamFind c.bare.table hdr.streamId = h2StreamFind c.table hdr.streamId from rfl]
  cases h2StreamFind c.table hdr.streamId with
  | none => rfl
  | some slot =>
    dsimp only
    rw [show c.bare.table = c.table.bare from rfl,bare_event]
    cases h2StreamEvent c.table slot .recvData with
    | error e => rfl
    | ok table => exact bare_endStream { c with table := table } hdr slot

theorem bare_rst (c : Core) (hdr : FrameHeader) (payload : Mem) :
    h2HandleRstStream c.bare hdr payload = (h2HandleRstStream c hdr payload).bare := by
  rw [h2HandleRstStream,h2HandleRstStream,show h2StreamFind c.bare.table hdr.streamId =
    h2StreamFind c.table hdr.streamId from rfl]
  split
  · rfl
  split
  · rfl
  cases h2StreamFind c.table hdr.streamId with
  | none => rfl
  | some slot =>
    dsimp only
    rw [show c.bare.table = c.table.bare from rfl,bare_event]
    cases h2StreamEvent c.table slot .recvRstStream <;> rfl

theorem bare_setting (c : Core) (id value : Nat) :
    c.bare.setting id value = ((c.setting id value).1.bare,(c.setting id value).2) := by
  rw [Core.setting,Core.setting]
  split
  · rfl
  split
  · rfl
  split
  · rfl
  split
  · rw [Core.setInitialWindow,Core.setInitialWindow]
    split
    · rfl
    dsimp only [Core.bare]
    split
    · rfl
    · rw [bare_shift]
      rcases shiftWindows _ slots c.table with ⟨table,_ | _⟩ <;> rfl
  split
  · split <;> rfl
  split <;> rfl

theorem bare_settingsLoop (payload : Mem) : ∀ (count off : Nat) (c : Core),
    settingsLoop payload count off c.bare =
      ((settingsLoop payload count off c).1.bare,(settingsLoop payload count off c).2) := by
  intro count
  induction count with
  | zero => intro off c; rfl
  | succ count ih =>
    intro off c
    rw [settingsLoop,settingsLoop,bare_setting]
    rcases c.setting (bigEndian payload off 2) (bigEndian payload (off + 2) 4) with ⟨c',_ | e⟩
    · exact ih _ c'
    · rfl

theorem bare_settings (c : Core) (hdr : FrameHeader) (payload : Mem) :
    h2HandleSettings c.bare hdr payload = (h2HandleSettings c hdr payload).bare := by
  rw [h2HandleSettings,h2HandleSettings]
  split
  · rfl
  split
  · split <;> rfl
  split
  · rfl
  rw [bare_settingsLoop]
  rcases settingsLoop payload (hdr.length / settingsEntryLen) 0 c with ⟨c',_ | e⟩ <;> rfl

theorem bare_update (c : Core) (hdr : FrameHeader) (payload : Mem) :
    h2HandleWindowUpdate c.bare hdr payload = (h2HandleWindowUpdate c hdr payload).bare := by
  rw [h2HandleWindowUpdate,h2HandleWindowUpdate,show h2StreamFind c.bare.table hdr.streamId =
    h2StreamFind c.table hdr.streamId from rfl]
  dsimp only
  split
  · rfl
  split
  · rfl
  split
  · rw [show c.bare.conn.window = c.conn.window from rfl]
    split <;> rfl
  cases h2StreamFind c.table hdr.streamId with
  | none =>
    dsimp only
    rw [show c.bare.conn.lastStreamId = c.conn.lastStreamId from rfl]
    split <;> rfl
  | some slot =>
    dsimp only
    rw [show (c.bare.table.streams slot).state = (c.table.streams slot).state from rfl,
      show (c.bare.table.streams slot).window = (c.table.streams slot).window from rfl]
    split
    · rfl
    split
    · rfl
    · have table := bare_modify c.table slot
        (f := fun s =>
          { s with window := (c.table.streams slot).window + BitVec.ofNat 64 (windowIncrement payload) }) (fun _ =>
          rfl)
      simp only [Outcome.bare,Core.done,Core.bare]
      rw [table]

theorem bare_admission (c : Core) (hdr : FrameHeader) : admitStream c.bare hdr =
    (admitStream c hdr).map fun entry => (entry.1,entry.2.1.bare,{ entry.2.2 with lastFrameType := 0 }) := by
  have created : h2StreamCreate c.bare.table c.bare.conn hdr.streamId =
      (h2StreamCreate c.table c.conn hdr.streamId).map fun entry =>
        (entry.1,entry.2.1.bare,{ entry.2.2 with lastFrameType := 0 }) := by
    rw [h2StreamCreate,h2StreamCreate,show c.bare.table.ids = c.table.ids from rfl]
    split
    · rfl
    rw [show freshSlot c.bare.table = freshSlot c.table from rfl]
    split
    · simp only [Except.map]
      rw [bare_init c.table c.conn _ _ 0]
      rfl
    · rfl
  rw [admitStream,admitStream,show h2ValidateStreamId c.bare.table c.bare.conn hdr.streamId =
    h2ValidateStreamId c.table c.conn hdr.streamId from rfl]
  rcases h2ValidateStreamId c.table c.conn hdr.streamId with e | (_ | slot)
  · rfl
  · dsimp only
    rw [show c.bare.conn.goawayReceived = c.conn.goawayReceived from rfl,show openStreams c.bare.table =
      openStreams c.table from rfl]
    split
    · rfl
    split
    · rfl
    · exact created
  · exact created

/-- The frame with END_HEADERS. -/
def FrameHeader.whole (hdr : FrameHeader) : FrameHeader := { hdr with flags := hdr.flags ||| flagEndHeaders }

theorem whole_flag (hdr : FrameHeader) {flag : Nat} (other : flagEndHeaders &&& flag = 0) :
    hasFlag hdr.whole.flags flag = hasFlag hdr.flags flag := by
  rw [hasFlag,hasFlag,FrameHeader.whole,Nat.and_or_distrib_right,other,Nat.or_zero]

theorem whole_fragment (hdr : FrameHeader) (payload : Mem) :
    blockFragment hdr.whole payload = blockFragment hdr payload := by
  rw [blockFragment,blockFragment,stripPadding,stripPadding,whole_flag hdr (by decide),whole_flag hdr (by decide)]
  rfl

theorem whole_endStream (c : Core) (hdr : FrameHeader) (slot : Nat) :
    c.endStream hdr.whole slot = c.endStream hdr slot := by
  rw [Core.endStream,Core.endStream,whole_flag hdr (by decide)]

theorem bare_receiveBlock (c : Core) (streamId : Nat) (block : Mem) (len : Nat) :
    c.bare.receiveBlock streamId block len =
      ((c.receiveBlock streamId block len).1.bare,(c.receiveBlock streamId block len).2) := by
  rw [Core.receiveBlock,Core.receiveBlock,show c.bare.hpack = c.hpack from rfl,show c.bare.req = c.req from rfl]
  cases h2HpackDecodeBlock block len c.hpack with
  | error failure hpack => rfl
  | ok fields hpack =>
    dsimp only
    rcases h2BuildRequest (hpack.at block) streamId fields c.req with ⟨req,_ | _⟩ <;> rfl

theorem bare_enterHeaders (c : Core) (hdr : FrameHeader) (payload : Mem) (slot : Nat) :
    (c.bare.enterHeaders hdr.whole payload slot).bare = (c.enterHeaders hdr payload slot).bare := by
  rw [Core.enterHeaders,Core.enterHeaders,show c.bare.table = c.table.bare from rfl,bare_event]
  cases h2StreamEvent c.table slot .recvHeaders with
  | error e => rfl
  | ok table =>
    simp only [Except.map]
    rw [whole_fragment]
    -- The flags are all that differs from here on.
    have marked : Core.bare { c.bare with table := table.bare.setFlags slot hdr.whole.flags } =
        Core.bare { c with table := table.setFlags slot hdr.flags } := by
      simp only [Core.bare]
      rw [bare_setFlags]
    generalize Core.mk c.bare.conn (table.bare.setFlags slot hdr.whole.flags) c.bare.hpack c.bare.req = c1 at marked ⊢
    generalize Core.mk c.conn (table.setFlags slot hdr.flags) c.hpack c.req = c2 at marked ⊢
    cases blockFragment hdr payload with
    | error e => simp only [Outcome.bare,Core.fails,marked]
    | ok found =>
      dsimp only
      rw [show hdr.whole.streamId = hdr.streamId from rfl]
      have received := bare_receiveBlock c1 hdr.streamId (shift payload found.1) found.2
      rw [marked,bare_receiveBlock c2] at received
      rcases first : c1.receiveBlock hdr.streamId (shift payload found.1) found.2 with ⟨c3,e3⟩
      rcases second : c2.receiveBlock hdr.streamId (shift payload found.1) found.2 with ⟨c4,e4⟩
      rw [first,second] at received
      obtain ⟨same,rfl⟩ := Prod.mk.inj received
      dsimp only at same
      cases e4 with
      | some e => simp only [Outcome.bare,Core.fails,same]
      | none =>
        dsimp only
        rw [whole_endStream,← bare_endStream c3,← bare_endStream c4,same]

theorem bare_headers (c : Core) (hdr : FrameHeader) (payload : Mem) :
    (h2HandleHeaders c.bare hdr.whole payload).bare = (h2HandleHeaders c hdr payload).bare := by
  rw [h2HandleHeaders,h2HandleHeaders,show admitStream c.bare hdr.whole = admitStream c.bare hdr from rfl,bare_admission]
  cases admitStream c hdr with
  | error e => rfl
  | ok entry => exact bare_enterHeaders { c with table := entry.2.1, conn := entry.2.2 } hdr payload entry.1

theorem bare_ping (c : Core) (hdr : FrameHeader) (payload : Mem) :
    h2HandlePing c.bare hdr payload = (h2HandlePing c hdr payload).bare := by
  rw [h2HandlePing,h2HandlePing]
  split
  · rfl
  split
  · rfl
  split <;> rfl

theorem bare_goaway (c : Core) (hdr : FrameHeader) (payload : Mem) :
    h2HandleGoaway c.bare hdr payload = (h2HandleGoaway c hdr payload).bare := by
  rw [h2HandleGoaway,h2HandleGoaway]
  split
  · rfl
  split <;> rfl

/-- What a HEADERS frame is taken for, and any other frame as it is. -/
def FrameHeader.taken (hdr : FrameHeader) : FrameHeader := if hdr.type = frameHeaders then hdr.whole else hdr

theorem taken_streamId (hdr : FrameHeader) : hdr.taken.streamId = hdr.streamId := by
  rw [FrameHeader.taken]
  split <;> rfl

theorem taken_length (hdr : FrameHeader) : hdr.taken.length = hdr.length := by
  rw [FrameHeader.taken]
  split <;> rfl

theorem blind_headers (c : Core) (hdr : FrameHeader) (payload : Mem) :
    (h2HandleHeaders c.bare hdr payload).bare = (h2HandleHeaders c hdr payload).bare := by
  have first := bare_headers c.bare hdr payload
  have second := bare_headers c hdr payload
  exact first.symm.trans second

/-- No handler does otherwise for what nothing reads. -/
theorem blind_handlers : ∀ handler ∈ frameHandlers, ∀ (c : Core) (hdr : FrameHeader) (payload : Mem),
    (handler c.bare hdr payload).bare = (handler c hdr payload).bare := by
  intro handler listed c hdr payload
  simp only [frameHandlers,List.mem_cons,List.not_mem_nil,or_false] at listed
  rcases listed with rfl | rfl | rfl | rfl | rfl | rfl | rfl | rfl | rfl | rfl
  · rw [bare_data]; rfl
  · exact blind_headers c hdr payload
  · rfl
  · rw [bare_rst]; rfl
  · rw [bare_settings]; rfl
  · rfl
  · rw [bare_ping]; rfl
  · rw [bare_goaway]; rfl
  · rw [bare_update]; rfl
  · rfl

theorem blind_dispatch {c d : Core} (same : c.bare = d.bare) (hdr : FrameHeader) (payload : Mem) :
    (h2DispatchFrame c hdr payload).bare = (h2DispatchFrame d hdr payload).bare := by
  rw [h2DispatchFrame,h2DispatchFrame]
  cases found : frameHandlers[hdr.type]? with
  | none => exact congrArg (fun core => Outcome.mk core [] none) same
  | some handler =>
    have blind := blind_handlers handler (List.mem_of_getElem? found)
    dsimp only
    rw [← blind { c with conn := { c.conn with lastFrameType := hdr.type } },
      ← blind { d with conn := { d.conn with lastFrameType := hdr.type } }]
    exact congrArg (fun core => (handler core hdr payload).bare) same

/-- A frame is handled as what it is taken for. -/
theorem dispatch_taken (c : Core) (hdr : FrameHeader) (payload : Mem) :
    (h2DispatchFrame c hdr.taken payload).bare = (h2DispatchFrame c hdr payload).bare := by
  rw [FrameHeader.taken]
  split
  · next block =>
    rw [h2DispatchFrame,h2DispatchFrame,show hdr.whole.type = hdr.type from rfl,block]
    show (h2HandleHeaders (c.noted frameHeaders) hdr.whole payload).bare =
      (h2HandleHeaders (c.noted frameHeaders) hdr payload).bare
    rw [← blind_headers (c.noted frameHeaders) hdr.whole]
    exact bare_headers (c.noted frameHeaders) hdr payload
  · rfl

theorem bare_closes (c : Core) (slot streamId : Nat) : Core.bare { c with table := c.table.closeServed slot streamId } =
    { c.bare with table := c.bare.table.closeServed slot streamId } := by
  simp only [Core.bare]
  rw [bare_closeServed]

theorem bare_serves (c : Core) (slot : Nat) : Core.bare { c with table := c.table.setServing slot } =
    { c.bare with table := c.bare.table.setServing slot } := by
  simp only [Core.bare]
  rw [Table.setServing,bare_modify]
  · rfl
  · exact fun _ => rfl

theorem bare_charge (c : Core) (slot n : Nat) : (c.charge slot n).bare = (c.bare.charge slot n).bare := by
  simp only [Core.charge,Core.bare]
  rw [bare_modify,bare_modify]
  · rfl
  · exact fun _ => rfl
  · exact fun _ => rfl

/-! ### Two servers -/

/-- A server that differs from `s` at most in what nothing reads, and in its log. -/
inductive Alike (s : Server) : Server → Prop where
  | mk {core : Core} {log : List Event} (same : s.core.bare = core.bare) : Alike s { s with core := core, log := log }

/-- What an operation that may fail makes of two of them. -/
inductive AlikeBoth : Server × Bool → Server × Bool → Prop where
  | mk {s t : Server} {done : Bool} (alike : Alike s t) : AlikeBoth (s,done) (t,done)

theorem Alike.refl (s : Server) : Alike s s := .mk rfl

theorem Alike.trans {s t u : Server} (first : Alike s t) (second : Alike t u) : Alike s u := by
  obtain ⟨same⟩ := first
  obtain ⟨same'⟩ := second
  exact .mk (same.trans same')

theorem alike_of {s t : Server} (core : s.core.bare = t.core.bare)
    (rest : t = { s with core := t.core, log := t.log }) : Alike s t := by
  rw [rest]
  exact .mk core

section
variable {s t : Server}

theorem emit_alike (e e' : Event) (alike : Alike s t) : Alike (s.emit e) (t.emit e') := by
  obtain ⟨same⟩ := alike
  exact alike_of same rfl

theorem send_alike (f : OutFrame) (alike : Alike s t) : AlikeBoth (s.send f) (t.send f) := by
  obtain ⟨same⟩ := alike
  rw [Server.send,Server.send]
  exact .mk (alike_of same rfl)

theorem AlikeBoth.first {x y : Server × Bool} (both : AlikeBoth x y) : Alike x.1 y.1 := by
  obtain ⟨alike⟩ := both
  exact alike

theorem sendAll_alike : ∀ (frames : List OutFrame) {s t : Server}, Alike s t → Alike (s.sendAll frames) (t.sendAll frames)
  | [], _, _, alike => alike
  | f :: frames, _, _, alike => sendAll_alike frames (send_alike f alike).first

theorem writeHeaders_alike (r : Response) (streamId extra : Nat) (alike : Alike s t) :
    AlikeBoth (s.writeHeaders r streamId extra) (t.writeHeaders r streamId extra) := by
  rw [Server.writeHeaders,Server.writeHeaders]
  split
  · exact .mk alike
  · exact send_alike _ alike

theorem replyStatus_alike (streamId status : Nat) (alike : Alike s t) :
    Alike (s.replyStatus streamId status) (t.replyStatus streamId status) := (writeHeaders_alike _ _ _ alike).first

theorem close_alike (alike : Alike s t) : Alike s.close t.close := by
  obtain ⟨same⟩ := alike
  exact alike_of same rfl

theorem finish_alike (alike : Alike s t) : Alike s.finish t.finish := by
  obtain @⟨core,log,same⟩ := alike
  obtain ⟨c,buf,cursor,count,waitBuf,transport,stack,halted,l⟩ := s
  cases stack with
  | nil => exact .mk same
  | cons serve rest =>
    refine alike_of ?_ rfl
    show Core.bare { c with table := c.table.closeServed serve.slot serve.streamId } =
      Core.bare { core with table := core.table.closeServed serve.slot serve.streamId }
    rw [bare_closes,bare_closes,same]

theorem abort_alike (alike : Alike s t) : Alike s.abort t.abort := by
  have levels : t.stack = s.stack := by
    obtain ⟨same⟩ := alike
    rfl
  rw [Server.abort,Server.abort,levels]
  cases s.stack with
  | nil => exact alike
  | cons serve rest => exact finish_alike (replyStatus_alike _ _ alike)

theorem setTop_alike (staged : Option (List UInt8)) (body : List UInt8) (alike : Alike s t) :
    Alike (s.setTop staged body) (t.setTop staged body) := by
  obtain @⟨core,log,same⟩ := alike
  obtain ⟨c,buf,cursor,count,waitBuf,transport,stack,halted,l⟩ := s
  cases stack <;> exact alike_of same rfl

theorem respond_alike (streamId : Nat) (a : Answer) (alike : Alike s t) :
    Alike (s.respond streamId a) (t.respond streamId a) := by
  cases a with
  | status code => exact finish_alike (replyStatus_alike _ _ alike)
  | headers r =>
    rw [Server.respond,Server.respond]
    have written := writeHeaders_alike r streamId flagEndStream alike
    generalize s.writeHeaders r streamId flagEndStream = x at written ⊢
    generalize t.writeHeaders r streamId flagEndStream = y at written ⊢
    obtain @⟨s1,t1,done,alike1⟩ := written
    cases done
    · exact abort_alike alike1
    · exact finish_alike alike1
  | body r =>
    rw [Server.respond,Server.respond]
    split
    · exact abort_alike alike
    next f made =>
    split
    · exact setTop_alike _ _ alike
    have sent := send_alike f alike
    generalize s.send f = x at sent ⊢
    generalize t.send f = y at sent ⊢
    obtain @⟨s1,t1,done,alike1⟩ := sent
    cases done
    · exact abort_alike alike1
    · exact setTop_alike _ _ alike1

theorem processRequest_alike (files : List EmbeddedFile) (streamId slot : Nat) (alike : Alike s t) :
    Alike (s.processRequest files streamId slot) (t.processRequest files streamId slot) := by
  have records : t.core.req = s.core.req := by
    obtain ⟨same⟩ := alike
    exact (congrArg Core.req same).symm
  rw [Server.processRequest,Server.processRequest]
  show Alike (Server.respond _ streamId (answer files s.core.req)) (Server.respond _ streamId (answer files t.core.req))
  rw [records]
  refine respond_alike _ _ ?_
  obtain @⟨core,log,same⟩ := alike
  refine alike_of ?_ rfl
  show Core.bare { s.core with table := s.core.table.setServing slot } =
    Core.bare { core with table := core.table.setServing slot }
  rw [bare_serves,bare_serves,same]

theorem hook_alike (files : List EmbeddedFile) (streamId : Nat) (alike : Alike s t) :
    Alike (s.hook files streamId) (t.hook files streamId) := by
  have tables : t.core.table.bare = s.core.table.bare := by
    obtain ⟨same⟩ := alike
    exact (congrArg Core.table same).symm
  have found := congrArg (fun table : Table => h2StreamFind table streamId) tables
  rw [bare_find,bare_find] at found
  rw [Server.hook,Server.hook,found]
  split
  · exact alike
  split
  · exact alike
  next slot _ =>
  have state : (t.core.table.streams slot).state = (s.core.table.streams slot).state := by
    have entries := congrArg (fun table : Table => (table.streams slot).state) tables
    exact entries
  have serving : (t.core.table.streams slot).serving = (s.core.table.streams slot).serving := by
    have entries := congrArg (fun table : Table => (table.streams slot).serving) tables
    exact entries
  rw [state,serving]
  split
  · exact processRequest_alike files streamId slot alike
  · exact alike

/-! ### Both loops -/

theorem handled_alike (hdr : FrameHeader) (payload : Mem) (alike : Alike s t) :
    Alike (s.handled hdr payload) (t.handled hdr payload) := by
  obtain @⟨core,log,same⟩ := alike
  exact alike_of (congrArg Outcome.core (blind_dispatch same hdr payload)) rfl

/-- What the handler of a frame makes of the two, and its verdict. -/
theorem dispatch_alike (hdr : FrameHeader) (payload : Mem) (alike : Alike s t) :
    Alike (s.dispatch hdr payload).1 (t.dispatch hdr payload).1 ∧
    (s.dispatch hdr payload).2 = (t.dispatch hdr payload).2 := by
  have outcomes : (h2DispatchFrame s.core hdr payload).bare = (h2DispatchFrame t.core hdr payload).bare := by
    obtain ⟨same⟩ := alike
    exact blind_dispatch same hdr payload
  have replies := congrArg Outcome.replies outcomes
  have verdicts := congrArg Outcome.error outcomes
  simp only [Outcome.bare] at replies verdicts
  rw [dispatch_eq,dispatch_eq]
  refine ⟨?_,verdicts⟩
  dsimp only
  rw [replies]
  exact sendAll_alike _ (handled_alike hdr payload alike)

theorem fill_alike (n : Nat) (alike : Alike s t) : AlikeBoth (s.fill n) (t.fill n) := by
  obtain @⟨core,log,same⟩ := alike
  rw [Server.fill,Server.fill]
  by_cases there : n ≤ s.count
  · rw [if_pos there,if_pos there]
    exact .mk (.mk same)
  rw [if_neg there,if_neg there,Server.compact,Server.compact]
  dsimp only
  by_cases none : s.count = 0
  · rw [if_pos none,if_pos none]
    dsimp only
    split
    · exact .mk (alike_of same rfl)
    · exact .mk (alike_of same rfl)
  · rw [if_neg none,if_neg none]
    dsimp only
    split
    · exact .mk (alike_of same rfl)
    · exact .mk (alike_of same rfl)

theorem consume_alike (n : Nat) (alike : Alike s t) : Alike (s.consume n) (t.consume n) := by
  obtain ⟨same⟩ := alike
  exact alike_of same rfl

theorem goaway_alike (e : H2Error) (alike : Alike s t) : Alike (s.goaway e) (t.goaway e) := by
  have frames : h2SendGoaway t.core.conn e = h2SendGoaway s.core.conn e := by
    obtain ⟨same⟩ := alike
    have conns := congrArg (fun core : Core => h2SendGoaway core.conn e) same
    exact conns.symm
  rw [Server.goaway,Server.goaway,frames]
  exact (send_alike _ alike).first

theorem past_alike (hdr : FrameHeader) (alike : Alike s t) : Alike (s.past hdr) (t.past hdr) := by
  have levels : t.stack = s.stack := by
    obtain ⟨same⟩ := alike
    rfl
  rw [Server.past,Server.past,levels]
  split
  · exact consume_alike _ alike
  · exact alike

theorem reset_alike (streamId : Nat) (e : H2Error) (alike : Alike s t) :
    Alike (s.reset streamId e) (t.reset streamId e) :=
  (send_alike _ alike).first

theorem rejects_alike (streamId : Nat) (e : H2Error) (alike : Alike s t) :
    Alike (s.rejects streamId e) (t.rejects streamId e) := by
  have levels : t.stack = s.stack := by
    obtain ⟨same⟩ := alike
    rfl
  rw [Server.rejects,Server.rejects,levels]
  split
  · split
    · split
      · exact close_alike alike
      · exact reset_alike _ _ alike
    · exact close_alike (goaway_alike e alike)
  · split
    · split
      · exact alike
      · exact reset_alike _ _ alike
    split
    · exact abort_alike alike
    · exact finish_alike alike

theorem receive_alike (files : List EmbeddedFile) (hdr : FrameHeader) (payload : Mem) (alike : Alike s t) :
    Alike (s.receive files hdr payload) (t.receive files hdr payload) := by
  obtain ⟨handled,verdicts⟩ := dispatch_alike hdr payload alike
  rw [Server.receive,Server.receive]
  generalize s.dispatch hdr payload = x at handled verdicts ⊢
  generalize t.dispatch hdr payload = y at handled verdicts ⊢
  obtain ⟨s1,verdict⟩ := x
  obtain ⟨t1,verdict'⟩ := y
  dsimp only at handled verdicts
  subst verdicts
  cases verdict with
  | none => exact hook_alike files _ (past_alike hdr handled)
  | some e => exact rejects_alike _ e (past_alike hdr handled)

theorem validate_alike (hdr : FrameHeader) (alike : Alike s t) :
    h2ValidateFrame hdr t.core.conn = h2ValidateFrame hdr s.core.conn := by
  obtain ⟨same⟩ := alike
  have conns := congrArg (fun core : Core => h2ValidateFrame hdr core.conn) same
  exact conns.symm

theorem waitRead_alike (n : Nat) (alike : Alike s t) : AlikeBoth (s.waitRead n) (t.waitRead n) := by
  obtain @⟨core,log,same⟩ := alike
  rw [Server.waitRead,Server.waitRead]
  dsimp only
  rcases s.transport.readExact n with ⟨transport,_ | bytes⟩
  · exact .mk (alike_of same rfl)
  · exact .mk (alike_of same rfl)

theorem waitLost_alike (before : Transport) (alike : Alike s t) : Alike (s.waitLost before) (t.waitLost before) :=
  emit_alike _ _ alike

/-- What the two have in hand. -/
inductive AlikeHands : Option InHand → Option InHand → Prop where
  | none : AlikeHands none none
  | some {s t : Server} {hdr : FrameHeader} {payload : Mem} (alike : Alike s t) :
      AlikeHands (some ⟨s,hdr,payload⟩) (some ⟨t,hdr,payload⟩)

theorem loopFrame_alike (alike : Alike s t) : AlikeHands s.loopFrame t.loopFrame := by
  rw [Server.loopFrame,Server.loopFrame]
  have header := fill_alike wireHeaderLen alike
  generalize s.fill wireHeaderLen = x at header ⊢
  generalize t.fill wireHeaderLen = y at header ⊢
  obtain @⟨s1,t1,done,alike1⟩ := header
  cases done
  · exact .none
  have parsed : h2ParseFrameHeader (shift t1.buf t1.cursor) = h2ParseFrameHeader (shift s1.buf s1.cursor) := by
    obtain ⟨same⟩ := alike1
    rfl
  dsimp only
  rw [parsed]
  have consumed := consume_alike wireHeaderLen alike1
  rw [validate_alike _ consumed]
  split
  · exact .none
  have payload := fill_alike (h2ParseFrameHeader (shift s1.buf s1.cursor)).length consumed
  generalize (s1.consume wireHeaderLen).fill _ = x at payload ⊢
  generalize (t1.consume wireHeaderLen).fill _ = y at payload ⊢
  obtain @⟨s2,t2,done,alike2⟩ := payload
  cases done
  · exact .none
  have bytes : shift t2.buf t2.cursor = shift s2.buf s2.cursor := by
    obtain ⟨same⟩ := alike2
    rfl
  dsimp only
  rw [bytes]
  exact .some alike2

theorem waitedFrame_alike (alike : Alike s t) : AlikeHands s.waitedFrame t.waitedFrame := by
  rw [Server.waitedFrame,Server.waitedFrame]
  have header := waitRead_alike wireHeaderLen alike
  generalize s.waitRead wireHeaderLen = x at header ⊢
  generalize t.waitRead wireHeaderLen = y at header ⊢
  obtain @⟨s1,t1,done,alike1⟩ := header
  cases done
  · exact .none
  have parsed : h2ParseFrameHeader t1.waitBuf = h2ParseFrameHeader s1.waitBuf := by
    obtain ⟨same⟩ := alike1
    rfl
  dsimp only
  rw [parsed,validate_alike _ alike1]
  split
  · exact .none
  have payload := waitRead_alike (h2ParseFrameHeader s1.waitBuf).length alike1
  generalize s1.waitRead _ = x at payload ⊢
  generalize t1.waitRead _ = y at payload ⊢
  obtain @⟨s2,t2,done,alike2⟩ := payload
  cases done
  · exact .none
  have bytes : t2.waitBuf = s2.waitBuf := by
    obtain ⟨same⟩ := alike2
    rfl
  dsimp only
  rw [bytes]
  exact .some alike2

theorem chunk_alike (serve : Serve) (alike : Alike s t) : chunkLength t.core serve = chunkLength s.core serve := by
  obtain ⟨same⟩ := alike
  have chunks := congrArg (fun core => chunkLength core serve) same
  exact chunks.symm

theorem emitStaged_alike (serve : Serve) (alike : Alike s t) : Alike (s.emitStaged serve) (t.emitStaged serve) := by
  rw [Server.emitStaged,Server.emitStaged]
  split
  · exact alike
  · exact emit_alike _ _ alike

theorem emitChunk_alike (serve : Serve) (chunk : Nat) (alike : Alike s t) :
    Alike (s.emitChunk serve chunk) (t.emitChunk serve chunk) := by
  obtain @⟨core,log,same⟩ := alike
  refine alike_of ?_ rfl
  show (s.core.charge serve.slot chunk).bare = (core.charge serve.slot chunk).bare
  rw [bare_charge,bare_charge core,same]

theorem sendChunk_alike (serve : Serve) (chunk : Nat) (alike : Alike s t) :
    Alike (s.sendChunk serve chunk) (t.sendChunk serve chunk) := by
  have wires : t.transport = s.transport := by
    obtain ⟨same⟩ := alike
    rfl
  have onto : ∀ transport, Alike { s with transport := transport } { t with transport := transport } := by
    obtain ⟨same⟩ := alike
    exact fun transport => alike_of same rfl
  rw [Server.sendChunk,Server.sendChunk]
  dsimp only
  rw [wires]
  split
  · exact abort_alike (onto _)
  next transport _ =>
  have sent := emitChunk_alike serve chunk (emitStaged_alike serve (onto transport))
  split
  · exact finish_alike sent
  · exact setTop_alike _ _ sent

theorem waitFrame_alike (files : List EmbeddedFile) (alike : Alike s t) :
    Alike (Server.waitFrame files s) (Server.waitFrame files t) := by
  have wires : t.transport = s.transport := by
    obtain ⟨same⟩ := alike
    rfl
  rw [Server.waitFrame,Server.waitFrame,wires]
  have header := waitRead_alike wireHeaderLen alike
  generalize s.waitRead wireHeaderLen = x at header ⊢
  generalize t.waitRead wireHeaderLen = y at header ⊢
  obtain @⟨s1,t1,done,alike1⟩ := header
  cases done
  · exact abort_alike (waitLost_alike _ alike1)
  have parsed : h2ParseFrameHeader t1.waitBuf = h2ParseFrameHeader s1.waitBuf := by
    obtain ⟨same⟩ := alike1
    rfl
  dsimp only
  rw [parsed,validate_alike _ alike1]
  split
  · exact abort_alike (emit_alike _ _ alike1)
  have payload := waitRead_alike (h2ParseFrameHeader s1.waitBuf).length alike1
  generalize s1.waitRead _ = x at payload ⊢
  generalize t1.waitRead _ = y at payload ⊢
  obtain @⟨s2,t2,done,alike2⟩ := payload
  cases done
  · exact abort_alike (waitLost_alike _ alike2)
  have bytes : t2.waitBuf = s2.waitBuf := by
    obtain ⟨same⟩ := alike2
    rfl
  dsimp only
  rw [bytes]
  obtain ⟨handled,verdicts⟩ := dispatch_alike (h2ParseFrameHeader s1.waitBuf) s2.waitBuf alike2
  generalize s2.dispatch _ _ = x at handled verdicts ⊢
  generalize t2.dispatch _ _ = y at handled verdicts ⊢
  obtain ⟨s3,verdict⟩ := x
  obtain ⟨t3,verdict'⟩ := y
  dsimp only at handled verdicts
  subst verdicts
  cases verdict with
  | none => exact hook_alike files _ handled
  | some e =>
    dsimp only
    split
    · split
      · exact handled
      · exact reset_alike _ _ handled
    split
    · exact abort_alike handled
    · exact finish_alike handled

theorem connectionTurn_alike (files : List EmbeddedFile) (alike : Alike s t) :
    Alike (s.connectionTurn files) (t.connectionTurn files) := by
  rw [Server.connectionTurn,Server.connectionTurn]
  have header := fill_alike wireHeaderLen alike
  generalize s.fill wireHeaderLen = x at header ⊢
  generalize t.fill wireHeaderLen = y at header ⊢
  obtain @⟨s1,t1,done,alike1⟩ := header
  cases done
  · exact close_alike alike1
  have parsed : h2ParseFrameHeader (shift t1.buf t1.cursor) = h2ParseFrameHeader (shift s1.buf s1.cursor) := by
    obtain ⟨same⟩ := alike1
    rfl
  dsimp only
  rw [parsed]
  have consumed := consume_alike wireHeaderLen alike1
  rw [validate_alike _ consumed]
  split
  · exact close_alike (goaway_alike _ (emit_alike _ _ consumed))
  have payload := fill_alike (h2ParseFrameHeader (shift s1.buf s1.cursor)).length consumed
  generalize (s1.consume wireHeaderLen).fill _ = x at payload ⊢
  generalize (t1.consume wireHeaderLen).fill _ = y at payload ⊢
  obtain @⟨s2,t2,done,alike2⟩ := payload
  cases done
  · exact close_alike alike2
  have bytes : shift t2.buf t2.cursor = shift s2.buf s2.cursor := by
    obtain ⟨same⟩ := alike2
    rfl
  dsimp only
  rw [bytes]
  obtain ⟨handled,verdicts⟩ :=
    dispatch_alike (h2ParseFrameHeader (shift s1.buf s1.cursor)) (shift s2.buf s2.cursor) alike2
  generalize s2.dispatch _ _ = x at handled verdicts ⊢
  generalize t2.dispatch _ _ = y at handled verdicts ⊢
  obtain ⟨s3,verdict⟩ := x
  obtain ⟨t3,verdict'⟩ := y
  dsimp only at handled verdicts
  subst verdicts
  cases verdict with
  | none => exact hook_alike files _ (consume_alike _ handled)
  | some e =>
    have behind := consume_alike (h2ParseFrameHeader (shift s1.buf s1.cursor)).length handled
    dsimp only
    split
    · split
      · exact close_alike behind
      · exact reset_alike _ _ behind
    · exact close_alike (goaway_alike e behind)

theorem waitTurn_alike (files : List EmbeddedFile) (serve : Serve) (alike : Alike s t) :
    Alike (s.waitTurn files serve) (t.waitTurn files serve) := by
  rw [Server.waitTurn,Server.waitTurn]
  split
  · exact waitFrame_alike files (emit_alike _ _ alike)
  next block _ =>
  have sent := send_alike (serve.headers block) alike
  generalize s.send _ = x at sent ⊢
  generalize t.send _ = y at sent ⊢
  obtain @⟨s1,t1,done,alike1⟩ := sent
  cases done
  · exact abort_alike alike1
  · exact waitFrame_alike files (emit_alike _ _ (setTop_alike _ _ alike1))

theorem step_alike (files : List EmbeddedFile) (alike : Alike s t) : Alike (s.step files) (t.step files) := by
  have same : t.halted = s.halted ∧ t.stack = s.stack := by
    obtain ⟨same⟩ := alike
    exact ⟨rfl,rfl⟩
  rw [Server.step,Server.step,same.1,same.2]
  split
  · exact alike
  split
  · exact connectionTurn_alike files alike
  next serve rest _ =>
  rw [Server.bodyTurn,Server.bodyTurn,chunk_alike serve alike]
  split
  · exact waitTurn_alike files serve alike
  · exact sendChunk_alike serve _ alike

theorem inHand_alike (alike : Alike s t) : AlikeHands s.inHand t.inHand := by
  have same : t.halted = s.halted ∧ t.stack = s.stack := by
    obtain ⟨same⟩ := alike
    exact ⟨rfl,rfl⟩
  rw [Server.inHand,Server.inHand,same.1,same.2]
  split
  · exact .none
  split
  · exact loopFrame_alike alike
  next serve rest _ =>
  rw [Server.waits,Server.waits,chunk_alike serve alike]
  split
  swap
  · exact .none
  split
  · exact waitedFrame_alike (emit_alike _ _ alike)
  next block _ =>
  have sent := send_alike (serve.headers block) alike
  generalize s.send _ = x at sent ⊢
  generalize t.send _ = y at sent ⊢
  obtain @⟨s1,t1,done,alike1⟩ := sent
  cases done
  · exact .none
  · exact waitedFrame_alike (emit_alike _ _ (setTop_alike _ _ alike1))

end

end Sarm.H2
