import Sarm.HpackContext
import Sarm.Receiving

/-!
Faults of a frame that concern its stream alone. The loops tell them from those of
the connection by the code that the handler returns, and only the two codes with
which a stream turns a frame down are taken for stream errors.
-/
namespace Sarm.H2
open Sarm.Memory Sarm.Trace
open Sarm.Hpack (h2HpackDecodeBlock HpackState DynTable lookupField)

/-- A fault that is one of the frame's stream: a header list that makes no request, a
    frame that is rejected with STREAM_CLOSED or REFUSED_STREAM, and a WINDOW_UPDATE for a
    stream that adds nothing or too much. -/
inductive StreamFault (c : Core) (hdr : FrameHeader) (payload : Mem) : Prop where
  | malformed {off len : Nat} {fields : List Hpack.FieldRef} {hpack : HpackState} {req : Request}
      (headers : hdr.type = frameHeaders) (takes : c.Takes hdr) (fragment : blockFragment hdr payload = .ok (off,len))
      (decoded : h2HpackDecodeBlock (shift payload off) len c.hpack = .ok fields hpack)
      (built : h2BuildRequest (hpack.at (shift payload off)) hdr.streamId fields c.req =
        (req,false)) : StreamFault c hdr payload
  | rejected {e : H2Error} (error : (h2DispatchFrame c hdr payload).error = some e) (stream : e.isStream = true) :
      StreamFault c hdr payload
  | still (update : hdr.type = frameWindowUpdate) (length : hdr.length = 4) (proper : hdr.streamId ≠ 0)
      (nothing : windowIncrement payload = 0) : StreamFault c hdr payload
  | overflow {slot : Nat} (update : hdr.type = frameWindowUpdate) (length : hdr.length = 4) (proper : hdr.streamId ≠ 0)
      (found : h2StreamFind c.table hdr.streamId = some slot) (live : (c.table.streams slot).state ≠ .closed)
      (beyond : (maxFlowWindow : Int) < (c.table.streams slot).window.toInt +
        windowIncrement payload) : StreamFault c hdr payload

/-- Two header tables with the same size and the same fields. -/
def SameFields (t t' : DynTable) : Prop := t'.max = t.max ∧ ∀ i, lookupField t' i = lookupField t i

/-- The decoder behind a frame that is not at fault. -/
def decoderBehind (hpack : HpackState) (hdr : FrameHeader) (payload : Mem) : HpackState :=
  if hdr.type = frameHeaders then decodeFragment hdr payload hpack else hpack

/-- The fault is dealt with on its stream: RST_STREAM for it is all that is sent, nothing else is
    changed, and the next frame is read. -/
structure StreamConfined (h : InHand) (s : Server) : Prop where
  reset : ∃ e ok, s.log = h.server.log ++ [.frame h.server.core h.server.serving h.hdr h.payload,
    .sent (h2SendRstStream h.hdr.streamId e) ok]
  alive : s.halted = false
  window : s.core.conn.window = h.server.core.conn.window
  streams : ∀ i, s.core.table.ids i ≠ h.hdr.streamId →
    s.core.table.ids i = h.server.core.table.ids i ∧ s.core.table.streams i = h.server.core.table.streams i
  fields : SameFields (decoderBehind h.server.core.hpack h.hdr h.payload).dyn s.core.hpack.dyn
  serving : s.stack = h.server.stack
  boundary : s.unparsed = h.server.unparsed.drop (if h.server.stack = [] then h.hdr.length else 0) ∧
    s.incoming = h.server.incoming

/-- A stream turns a frame down when the client has ended it, or when it would be a new one and
    none is let in any more. -/
def Core.Declines (c : Core) (hdr : FrameHeader) : Prop :=
  hdr.streamId ≠ 0 ∧
    (((hdr.type = frameData ∨ (hdr.type = frameHeaders ∧ hdr.streamId % 2 = 1)) ∧
        ∃ slot ∈ h2StreamFind c.table hdr.streamId, (c.table.streams slot).state ≠ .idle ∧
          (c.table.streams slot).state ≠ .opened) ∨
      (hdr.type = frameHeaders ∧ hdr.streamId % 2 = 1 ∧ h2StreamFind c.table hdr.streamId = none ∧
        c.conn.lastStreamId < hdr.streamId ∧
        (c.conn.goawayReceived = true ∨ (openStreams c.table < maxConcurrent ∧ freshSlot c.table = none))))

instance (c : Core) (hdr : FrameHeader) : Decidable (c.Declines hdr) :=
  inferInstanceAs (Decidable (_ ∧ ((_ ∧ ∃ slot ∈ h2StreamFind c.table hdr.streamId, _ ∧ _) ∨ (_ ∧ _ ∧ _ ∧ _ ∧ _))))

/-! ### Which frames a stream turns down -/

/-- A step of the state machine that is none leaves an idle stream with an error of the connection. -/
theorem event_stream {t : Table} {slot : Nat} {event : StreamEvent} {e : H2Error}
    (failed : h2StreamEvent t slot event = .error e)
    (stream : e.isStream = true) : (t.streams slot).state ≠ .idle ∧ transitions (t.streams slot).state event = none := by
  rw [h2StreamEvent] at failed
  cases next : transitions (t.streams slot).state event with
  | some state => rw [next] at failed; cases failed
  | none =>
    rw [next] at failed
    cases failed
    refine ⟨?_,rfl⟩
    intro idle
    rw [if_pos idle] at stream
    cases stream

theorem event_opened {t : Table} {slot : Nat} {event : StreamEvent} {e : H2Error}
    (opened : (t.streams slot).state = .opened) :
    h2StreamEvent t slot event ≠ .error e := by
  rw [h2StreamEvent,opened]
  cases event <;> simp [transitions]

theorem endStream_opened {c : Core} {slot : Nat} (opened : (c.table.streams slot).state = .opened) (hdr : FrameHeader) :
    (c.endStream hdr slot).error = none := by
  rw [Core.endStream]
  split
  · split
    · next e failed => exact absurd failed (event_opened opened)
    · rfl
  · rfl

theorem dataEvent_opened {t t' : Table} {slot : Nat} (executed : h2StreamEvent t slot .recvData = .ok t') :
    (t'.streams slot).state = .opened := by
  obtain ⟨state,next,rfl⟩ := event_cases executed
  have opened : state = .opened := by
    cases before : (t.streams slot).state <;> rw [before] at next <;> simp [transitions] at next
    exact next.symm
  rw [opened]
  simp [Table.setState]

theorem setting_error {c c' : Core} {id value : Nat} {e : H2Error} (failed : c.setting id value = (c',some e)) :
    e.isStream = false := by
  rw [Core.setting] at failed
  split at failed
  · cases failed
  split at failed
  · cases failed
  split at failed
  · cases failed
  split at failed
  · rw [Core.setInitialWindow] at failed
    split at failed
    · cases failed; rfl
    dsimp only at failed
    split at failed
    · cases failed
    · split at failed <;> cases failed
      rfl
  split at failed
  · split at failed <;> cases failed
    rfl
  split at failed <;> cases failed

theorem settingsLoop_error (payload : Mem) : ∀ (count off : Nat) (c c' : Core) (e : H2Error),
    settingsLoop payload count off c = (c',some e) → e.isStream = false := by
  intro count
  induction count with
  | zero => intro off c c' e failed; cases failed
  | succ count ih =>
    intro off c c' e failed
    rw [settingsLoop] at failed
    split at failed
    · next rejected => cases failed; exact setting_error rejected
    · exact ih _ _ _ _ failed

theorem settings_error {c : Core} {hdr : FrameHeader} {payload : Mem} {e : H2Error}
    (failed : (h2HandleSettings c hdr payload).error = some e) : e.isStream = false := by
  rw [h2HandleSettings] at failed
  split at failed
  · cases failed; rfl
  split at failed
  · split at failed <;> cases failed
    rfl
  split at failed
  · cases failed; rfl
  split at failed
  · next rejected => cases failed; exact settingsLoop_error _ _ _ _ _ _ rejected
  · cases failed

theorem update_error {c : Core} {hdr : FrameHeader} {payload : Mem} {e : H2Error}
    (failed : (h2HandleWindowUpdate c hdr payload).error = some e) : e.isStream = false := by
  rw [h2HandleWindowUpdate] at failed
  dsimp only at failed
  split at failed
  · cases failed; rfl
  split at failed
  · cases failed; rfl
  split at failed
  · split at failed <;> cases failed
    rfl
  split at failed
  · split at failed <;> cases failed
    rfl
  split at failed
  · cases failed
  split at failed <;> cases failed
  rfl

/-- A HEADERS frame that is turned away before its block is looked at. -/
theorem admit_declines {c : Core} {hdr : FrameHeader} {e : H2Error} (small : hdr.streamId < 2^31)
    (refused : admitStream c hdr = .error e) (stream : e.isStream = true) :
    hdr.streamId ≠ 0 ∧ hdr.streamId % 2 = 1 ∧ h2StreamFind c.table hdr.streamId = none ∧
    c.conn.lastStreamId < hdr.streamId ∧
      (c.conn.goawayReceived = true ∨ (openStreams c.table < maxConcurrent ∧ freshSlot c.table = none)) := by
  rw [admitStream] at refused
  split at refused
  · next e' invalid =>
    cases refused
    rw [h2ValidateStreamId] at invalid
    split at invalid
    · cases invalid; cases stream
    split at invalid
    · cases invalid
    · split at invalid
      · cases invalid; cases stream
      · cases invalid
  · next there valid =>
    obtain ⟨found,_,_⟩ := validate_some valid
    have same : slots.find? (fun i => c.table.ids i = hdr.streamId) = some there := by
      rwa [h2StreamFind,if_neg (Nat.not_le.mpr small)] at found
    rw [h2StreamCreate,same] at refused
    cases refused
  · next valid =>
    obtain ⟨missing,proper,odd,above⟩ := validate_none valid
    refine ⟨proper,odd,missing,above,?_⟩
    split at refused
    · next going => exact .inl going
    split at refused
    · cases refused; cases stream
    next few =>
    rw [h2StreamCreate] at refused
    split at refused
    · cases refused
    split at refused
    · cases refused
    · next full => exact .inr ⟨Nat.not_le.mp few,full⟩

theorem headers_declines {c : Core} {hdr : FrameHeader} {payload : Mem} {e : H2Error} (headers : hdr.type = frameHeaders)
    (small : hdr.streamId < 2^31) (failed : (h2HandleHeaders c hdr payload).error = some e) (stream : e.isStream = true) :
    c.Declines hdr := by
  revert failed
  have came := headers_cases c hdr payload
  generalize h2HandleHeaders c hdr payload = outcome at came ⊢
  cases came with
  | refused refused =>
    rintro ⟨⟩
    obtain ⟨proper,rest⟩ := admit_declines small refused stream
    exact ⟨proper,.inr ⟨headers,rest⟩⟩
  | @late slot table conn e' admitted late =>
    rintro ⟨⟩
    obtain ⟨there,stuck⟩ := event_stream late stream
    obtain ⟨odd,⟨rfl,_,found⟩ | ⟨_,_,_,rfl,_⟩⟩ := admit_cases small admitted
    · refine ⟨by omega,.inl ⟨.inr ⟨headers,odd⟩,slot,found,there,?_⟩⟩
      intro opened
      rw [opened] at stuck
      cases stuck
    · simp [initSlot] at there
  | unframed _ _ fragment =>
    rintro ⟨⟩
    rcases fragment_error fragment with rfl | rfl <;> cases stream
  | undecoded _ _ _ _ => rintro ⟨⟩; cases stream
  | malformed _ _ _ _ _ => rintro ⟨⟩; cases stream
  | accepted admitted event _ _ _ =>
    intro failed
    rw [endStream_opened] at failed
    · cases failed
    · have opened := headersEvent_opened event
      simpa [Core.entered,Table.setFlags,Table.modify] using opened

/-- A frame that is rejected with a stream error is one that its stream turns down. -/
theorem stream_declines {c : Core} {hdr : FrameHeader} {payload : Mem} {e : H2Error} (small : hdr.streamId < 2^31)
    (proper : hdr.streamId ≠ 0) (failed : (h2DispatchFrame c hdr payload).error = some e) (stream : e.isStream = true) :
    c.Declines hdr := by
  revert failed
  refine dispatch_rule (P := fun outcome => outcome.error = some e → c.Declines hdr) ?_
  intro type outcome handled
  cases handled with
  | data data =>
    intro failed
    rw [h2HandleData] at failed
    split at failed
    · cases failed; cases stream
    next slot found =>
    split at failed
    · next e' rejected =>
      cases failed
      obtain ⟨there,stuck⟩ := event_stream rejected stream
      refine ⟨proper,.inl ⟨.inl data,slot,found,there,?_⟩⟩
      intro opened
      rw [show (c.noted type).table = c.table from rfl,opened] at stuck
      cases stuck
    · next table executed =>
      rw [endStream_opened (dataEvent_opened executed)] at failed
      cases failed
  | headers headers => exact fun failed => headers_declines (c := c.noted type) headers small failed stream
  | rstStream _ =>
    intro failed
    rw [h2HandleRstStream] at failed
    split at failed
    · cases failed; cases stream
    split at failed
    · cases failed; cases stream
    split at failed
    · cases failed; cases stream
    split at failed
    · next e' rejected =>
      cases failed
      obtain ⟨there,stuck⟩ := event_stream rejected stream
      -- RST_STREAM ends whatever is not idle.
      cases state :
        ((c.noted type).table.streams _).state <;> rw [state] at stuck there <;> simp [transitions] at stuck there
    · cases failed
  | settings _ =>
    intro failed
    rw [settings_error failed] at stream
    cases stream
  | ping _ =>
    intro failed
    rw [h2HandlePing,if_pos proper] at failed
    split at failed <;> cases failed <;> cases stream
  | goaway _ =>
    intro failed
    rw [h2HandleGoaway,if_pos proper] at failed
    cases failed
    cases stream
  | windowUpdate _ =>
    intro failed
    rw [update_error failed] at stream
    cases stream
  | passed _ _ _ => rintro ⟨⟩

theorem event_turned {t : Table} {slot : Nat} {event : StreamEvent} (opening : event = .recvHeaders ∨ event = .recvData)
    (active : (t.streams slot).state ≠ .idle) (unopened : (t.streams slot).state ≠ .opened) :
    h2StreamEvent t slot event = .error .streamClosed := by
  have stuck : transitions (t.streams slot).state event = none := by
    cases state : (t.streams slot).state <;> rcases opening with rfl | rfl <;> simp [state] at active unopened <;> rfl
  rw [h2StreamEvent,stuck]
  dsimp only
  rw [if_neg active]

/-- A HEADERS frame on a stream that the client has ended, or a new one where none is let in. -/
theorem headers_turned {c : Core} {hdr : FrameHeader} (payload : Mem) (headers : hdr.type = frameHeaders)
    (small : hdr.streamId < 2^31) (declines : c.Declines hdr) :
    ∃ e, e.isStream = true ∧ h2HandleHeaders c hdr payload = c.fails e := by
  obtain ⟨proper,⟨_,slot,found,active,unopened⟩ | ⟨_,odd,missing,above,closed⟩⟩ := declines
  · have odd : hdr.streamId % 2 = 1 ∨ hdr.streamId % 2 = 0 := by omega
    rcases odd with odd | even
    swap
    · rename_i which
      rcases which with data | ⟨_,odd⟩
      · rw [data] at headers; cases headers
      · omega
    have same : slots.find? (fun i => c.table.ids i = hdr.streamId) = some slot := by
      have there : h2StreamFind c.table hdr.streamId = some slot := found
      rwa [h2StreamFind,if_neg (Nat.not_le.mpr small)] at there
    have admitted : admitStream c hdr = .ok (slot,c.table,c.conn) := by
      have valid : h2ValidateStreamId c.table c.conn hdr.streamId = .ok (some slot) := by
        rw [h2ValidateStreamId,if_neg (by omega),show h2StreamFind c.table hdr.streamId = some slot from found]
      rw [admitStream,valid,h2StreamCreate]
      dsimp only
      rw [same]
    have late := @event_turned _ _ .recvHeaders (.inl rfl) active unopened
    refine ⟨.streamClosed,rfl,?_⟩
    rw [h2HandleHeaders,admitted]
    dsimp only
    rw [Core.enterHeaders]
    dsimp only
    rw [late]
  · refine ⟨.refusedStream,rfl,?_⟩
    have valid : h2ValidateStreamId c.table c.conn hdr.streamId = .ok none := by
      rw [h2ValidateStreamId,if_neg (by omega),missing]
      exact if_neg (by omega)
    have refused : admitStream c hdr = .error .refusedStream := by
      rw [admitStream,valid]
      dsimp only
      rcases closed with going | ⟨few,full⟩
      · rw [if_pos going]
      · split
        · rfl
        rw [if_neg (by omega),h2StreamCreate]
        have unknown : slots.find? (fun i => c.table.ids i = hdr.streamId) = none := by
          rwa [h2StreamFind,if_neg (Nat.not_le.mpr small)] at missing
        rw [unknown]
        dsimp only
        rw [full]
    rw [h2HandleHeaders,refused]

/-- A frame that its stream turns down is rejected with a stream error, and nothing is changed. -/
theorem declines_stream {c : Core} {hdr : FrameHeader} (payload : Mem) (small : hdr.streamId < 2^31)
    (declines : c.Declines hdr) :
    ∃ e type, e.isStream = true ∧ h2DispatchFrame c hdr payload = (c.noted type).fails e := by
  by_cases headers : hdr.type = frameHeaders
  · have handler : h2DispatchFrame c hdr payload = h2HandleHeaders (c.noted frameHeaders) hdr payload := by
      rw [h2DispatchFrame,headers]
      rfl
    obtain ⟨e,stream,outcome⟩ := headers_turned (c := c.noted frameHeaders) payload headers small declines
    exact ⟨e,_,stream,handler.trans outcome⟩
  · obtain ⟨_,⟨which,slot,found,active,unopened⟩ | ⟨is,_⟩⟩ := declines
    swap
    · exact absurd is headers
    have data : hdr.type = frameData := which.resolve_right (fun is => headers is.1)
    have handler : h2DispatchFrame c hdr payload = h2HandleData (c.noted frameData) hdr payload := by
      rw [h2DispatchFrame,data]
      rfl
    refine ⟨.streamClosed,frameData,rfl,?_⟩
    rw [handler,h2HandleData,show h2StreamFind (c.noted frameData).table hdr.streamId = some slot from found]
    dsimp only
    have late : h2StreamEvent (c.noted frameData).table slot .recvData = .error .streamClosed :=
      event_turned (t := c.table) (.inr rfl) active unopened
    rw [late]

/-! ### What the loops do about a fault -/

theorem receive_failed (files : List EmbeddedFile) {s : Server} {hdr : FrameHeader} {payload : Mem} {e : H2Error}
    (failed : (h2DispatchFrame s.core hdr payload).error = some e) :
    s.receive files hdr payload = ((s.handled hdr payload).past hdr).rejects hdr.streamId e := by
  rw [Server.receive,dispatch_eq,failed,dispatch_error_replies failed]
  rfl

/-- An error of the connection resets no stream. -/
theorem rejects_unreset {s : Server} {streamId : Nat} {e : H2Error} (fatal : e.isStream = false) (id : Nat) (e' : H2Error)
    (ok : Bool) : (s.rejects streamId e).log ≠ s.log ++ [.sent (h2SendRstStream id e') ok] := by
  intro same
  rw [Server.rejects] at same
  split at same
  · rw [if_neg (by simp [fatal])] at same
    have log : (s.goaway e).close.log =
        s.log ++ [.sent (h2SendGoaway s.core.conn e) (s.send (h2SendGoaway s.core.conn e)).2] := rfl
    rw [log] at same
    simp [h2SendGoaway,h2SendRstStream,frameGoaway,frameRstStream] at same
  · next serve rest stack =>
    rw [if_neg (by simp [fatal])] at same
    split at same
    · rw [Server.abort,stack] at same
      dsimp only at same
      rw [finish_log,Server.replyStatus,Server.writeHeaders] at same
      split at same
      · simp at same
      · next f made =>
        rw [send_log] at same
        obtain ⟨type,_⟩ := headersFrame_some made
        have frame : f = h2SendRstStream id e' ∧ (s.send f).2 = ok := by simpa using same
        rw [frame.1] at type
        cases type
    · rw [finish_log] at same
      simp at same

/-- The server behind a frame, before anything is done about an error. -/
theorem handled_past (s : Server) (hdr : FrameHeader) (payload : Mem) :
    ((s.handled hdr payload).past hdr).log = s.log ++ [.frame s.core s.serving hdr payload] :=
  (past_same (s.handled hdr payload) hdr).2.2.2.1

theorem StreamConfined.stream (files : List EmbeddedFile) {h : InHand} {e : H2Error}
    (confined : StreamConfined h (h.server.receive files h.hdr h.payload))
    (failed : (h2DispatchFrame h.server.core h.hdr h.payload).error = some e) : e.isStream = true := by
  by_contra fatal
  obtain ⟨e',ok,log⟩ := confined.reset
  rw [receive_failed files failed] at log
  refine rejects_unreset (by simpa using fatal) h.hdr.streamId e' ok (log.trans ?_)
  rw [handled_past,List.append_assoc]
  rfl

theorem past_unparsed (s : Server) (hdr : FrameHeader) :
    (s.past hdr).unparsed = s.unparsed.drop (if s.stack = [] then hdr.length else 0) := by
  by_cases idle : s.stack = []
  · rw [past_idle idle,if_pos idle,Server.unparsed,Server.unparsed,Server.consume,slice_drop]
  · rw [past_busy idle,if_neg idle,List.drop_zero]

/-- No stream 0 is reset. -/
theorem StreamConfined.proper (files : List EmbeddedFile) {h : InHand} {e : H2Error}
    (confined : StreamConfined h (h.server.receive files h.hdr h.payload))
    (failed : (h2DispatchFrame h.server.core h.hdr h.payload).error = some e) (stream : e.isStream = true) :
    h.hdr.streamId ≠ 0 := by
  intro zero
  obtain ⟨e',ok,log⟩ := confined.reset
  rw [receive_failed files failed,Server.rejects] at log
  have same : ((h.server.handled h.hdr h.payload).past h.hdr).log =
    h.server.log ++ [.frame h.server.core h.server.serving h.hdr h.payload] :=
    handled_past _ _ _
  split at log
  · rw [if_pos stream,if_pos zero,show (Server.close _).log = _ from same] at log
    simp at log
  · rw [if_pos stream,if_pos zero,same] at log
    simp at log

theorem declines_reset (files : List EmbeddedFile) {s : Server} {hdr : FrameHeader} {payload : Mem}
    (small : hdr.streamId < 2^31)
    (declines : s.core.Declines hdr) :
    ∃ e type, s.receive files hdr payload = ((s.handled hdr payload).past hdr).reset hdr.streamId e ∧
      (h2DispatchFrame s.core hdr payload).core = s.core.noted type := by
  obtain ⟨e,type,stream,outcome⟩ := declines_stream payload small declines
  refine ⟨e,type,?_,by rw [outcome]; rfl⟩
  rw [receive_failed files (e := e) (by rw [outcome]; rfl),Server.rejects]
  split <;> rw [if_pos stream,if_neg declines.1]

/-- The frame loop and the body writer go on behind a frame that its stream turns down. -/
theorem declines_confined (files : List EmbeddedFile) {s : Server} {h : InHand} (of : h.Of s)
    (declines : h.server.core.Declines h.hdr)
    (fields : SameFields (decoderBehind h.server.core.hpack h.hdr h.payload).dyn h.server.core.hpack.dyn) :
    StreamConfined h (h.server.receive files h.hdr h.payload) := by
  obtain ⟨e,type,reset,core⟩ := @declines_reset files _ _ h.payload of.small declines
  obtain ⟨core',stack,halted,log,transport⟩ := past_same (h.server.handled h.hdr h.payload) h.hdr
  have core'' : (h.server.receive files h.hdr h.payload).core = h.server.core.noted type := by
    rw [reset,Server.reset,send_core,core']
    exact core
  refine ⟨⟨e,(((h.server.handled h.hdr h.payload).past h.hdr).send (h2SendRstStream h.hdr.streamId e)).2,?_⟩,?_,?_,
    ?_,?_,?_,?_⟩
  · rw [reset,reset_log,handled_past,List.append_assoc]
    rfl
  · rw [reset,Server.reset,send_halted,halted]
    exact of.alive
  · rw [core'']
    rfl
  · rw [core'']
    exact fun i _ => ⟨rfl,rfl⟩
  · rw [core'']
    exact fields
  · rw [reset,reset_stack,stack]
    rfl
  · have input := (send_input ((h.server.handled h.hdr h.payload).past h.hdr) (h2SendRstStream h.hdr.streamId e)).incoming
    refine ⟨?_,?_⟩
    · rw [reset,Server.unparsed,Server.reset,send_buf,send_cursor,send_count]
      exact past_unparsed _ _
    · rw [reset,Server.incoming,Server.reset,input,transport]
      rfl

theorem window_over {w : BitVec 64} {payload : Mem} (beyond : (maxFlowWindow : Int) < w.toInt + windowIncrement payload) :
    maxFlowWindow < (w + BitVec.ofNat 64 (windowIncrement payload)).toNat := by
  have small : windowIncrement payload < 2^31 := Nat.mod_lt _ (by decide)
  have width := w.isLt
  rw [BitVec.toInt_eq_toNat_cond] at beyond
  rw [BitVec.toNat_add,BitVec.toNat_ofNat]
  simp only [maxFlowWindow] at beyond ⊢
  split at beyond <;> omega

/-- A HEADERS frame whose stream takes it and whose fields make no request. -/
theorem malformed_error {c : Core} {hdr : FrameHeader} {payload : Mem} {off len : Nat} {fields : List Hpack.FieldRef}
    {hpack : HpackState} {req : Request} (small : hdr.streamId < 2^31) (headers : hdr.type = frameHeaders)
    (takes : c.Takes hdr)
    (fragment : blockFragment hdr payload = .ok (off,len))
    (decoded : h2HpackDecodeBlock (shift payload off) len c.hpack = .ok fields hpack)
    (built : h2BuildRequest (hpack.at (shift payload off)) hdr.streamId fields c.req = (req,false)) :
    (h2DispatchFrame c hdr payload).error = some .protocolError := by
  obtain ⟨slot,table,conn,table',admitted,event⟩ := takes_entered (c := c.noted frameHeaders) small takes
  refine headers_rule (P := fun outcome => outcome.error = some .protocolError) headers ?_
  intro outcome came
  cases came with
  | refused refused =>
    rw [admitted] at refused
    cases refused
  | late admitted' late =>
    rw [admitted] at admitted'
    cases admitted'
    rw [event] at late
    cases late
  | unframed _ _ fragment' =>
    rw [fragment] at fragment'
    cases fragment'
  | undecoded _ _ fragment' decoded' =>
    rw [fragment] at fragment'
    cases fragment'
    rw [show h2HpackDecodeBlock _ _ c.hpack = _ from decoded'] at decoded
    cases decoded
  | malformed _ _ _ _ _ => rfl
  | accepted _ _ fragment' decoded' built' =>
    rw [fragment] at fragment'
    cases fragment'
    rw [show h2HpackDecodeBlock _ _ c.hpack = _ from decoded'] at decoded
    cases decoded
    rw [show h2BuildRequest _ _ _ c.req = _ from built'] at built
    cases built

/-- A frame with a fault is rejected. -/
theorem StreamFault.error {c : Core} {hdr : FrameHeader} {payload : Mem} (small : hdr.streamId < 2^31)
    (fault : StreamFault c hdr payload) : ∃ e, (h2DispatchFrame c hdr payload).error = some e := by
  have updated : hdr.type = frameWindowUpdate →
      h2DispatchFrame c hdr payload = h2HandleWindowUpdate (c.noted frameWindowUpdate) hdr payload := by
    intro update
    rw [h2DispatchFrame,update]
    rfl
  cases fault with
  | malformed headers takes fragment decoded built => exact ⟨_,malformed_error small headers takes fragment decoded built⟩
  | rejected error _ => exact ⟨_,error⟩
  | still update length proper nothing =>
    rw [updated update,h2HandleWindowUpdate]
    dsimp only
    rw [if_neg (not_not.mpr length),if_pos nothing]
    exact ⟨_,rfl⟩
  | overflow update length proper found live beyond =>
    rw [updated update,h2HandleWindowUpdate]
    dsimp only
    rw [if_neg (not_not.mpr length)]
    by_cases nothing : windowIncrement payload = 0
    · rw [if_pos nothing]
      exact ⟨_,rfl⟩
    rw [if_neg nothing,if_neg proper,show h2StreamFind (c.noted frameWindowUpdate).table hdr.streamId = some _ from found]
    dsimp only
    rw [if_neg (show ¬ ((c.noted frameWindowUpdate).table.streams _).state = .closed from live)]
    rw [if_pos (show maxFlowWindow <
      (((c.noted frameWindowUpdate).table.streams _).window + _).toNat from window_over beyond)]
    exact ⟨_,rfl⟩

/-- A fault concerns its stream alone in what the server does about it exactly if its stream turns the
    frame down, and a header block that is not read would have left the header table as it is. -/
theorem stream_errors_confined (files : List EmbeddedFile) {s : Server} {h : InHand} (found : s.inHand = some h)
    (fault : StreamFault h.server.core h.hdr h.payload) : StreamConfined h (s.step files) ↔
      h.server.core.Declines h.hdr ∧
        SameFields (decoderBehind h.server.core.hpack h.hdr h.payload).dyn h.server.core.hpack.dyn := by
  have of := inHand_of found
  rw [step_inHand files found]
  constructor
  · intro confined
    obtain ⟨e,failed⟩ := fault.error of.small
    have stream := confined.stream files failed
    have proper := confined.proper files failed stream
    have declines := stream_declines of.small proper failed stream
    refine ⟨declines,?_⟩
    obtain ⟨e',type,reset,core⟩ := @declines_reset files _ _ h.payload of.small declines
    have fields := confined.fields
    rw [reset,Server.reset,send_core,(past_same _ _).1,show (h.server.handled h.hdr h.payload).core =
      _ from core] at fields
    exact fields
  · rintro ⟨declines,fields⟩
    exact declines_confined files of declines fields

/-! ### Examples -/

/-- A request for the page, and a DATA frame behind its end. -/
def lateData : List UInt8 := (getIndex 1).encode ++ (OutFrame.mk frameData flagEndStream 1 []).encode

def lateDataHand : InHand := (run welcomeSite (h2ConnectionLoop (.client lateData)) 2).inHand.get (by decide +kernel)

theorem stream_errors_confined_late :
    StreamConfined lateDataHand (Server.step welcomeSite (run welcomeSite (h2ConnectionLoop (.client lateData)) 2)) := by
  have found : (run welcomeSite (h2ConnectionLoop (.client lateData)) 2).inHand = some lateDataHand :=
    (Option.some_get _).symm
  refine (stream_errors_confined welcomeSite found ?_).mpr ⟨by decide +kernel,?_⟩
  · exact .rejected (e := .streamClosed) (by decide +kernel) rfl
  · rw [decoderBehind,if_neg (by decide +kernel)]
    exact ⟨rfl,fun _ => rfl⟩

/-- Where a block decodes and the frame is still a protocol error, the fields make no request. -/
theorem StreamFault.of_error {c : Core} {hdr : FrameHeader} {payload : Mem} {off len : Nat} (small : hdr.streamId < 2^31)
    (headers : hdr.type = frameHeaders) (takes : c.Takes hdr) (fragment : blockFragment hdr payload = .ok (off,len))
    (decodes : Decodes (shift payload off) len c.hpack) (failed : (h2DispatchFrame c hdr payload).error ≠ none) :
    StreamFault c hdr payload := by
  obtain ⟨fields,hpack,decoded⟩ := decodes
  cases built : h2BuildRequest (hpack.at (shift payload off)) hdr.streamId fields c.req with
  | mk req done =>
    cases done with
    | false => exact .malformed headers takes fragment decoded built
    | true =>
      refine absurd ?_ failed
      obtain ⟨slot,table,conn,table',admitted,event⟩ := takes_entered (c := c.noted frameHeaders) small takes
      have handler : h2DispatchFrame c hdr payload = h2HandleHeaders (c.noted frameHeaders) hdr payload := by
        rw [h2DispatchFrame,headers]
        rfl
      rw [handler,h2HandleHeaders,admitted]
      dsimp only
      rw [Core.enterHeaders]
      dsimp only
      rw [event]
      dsimp only
      rw [fragment]
      dsimp only
      rw [Core.receiveBlock]
      dsimp only
      rw [show h2HpackDecodeBlock _ _ (c.noted frameHeaders).hpack = _ from decoded]
      dsimp only
      rw [show h2BuildRequest _ _ _ (c.noted frameHeaders).req = _ from built]
      dsimp only
      refine endStream_opened ?_ hdr
      have opened := headersEvent_opened event
      simpa [Table.setFlags,Table.modify] using opened

/-- A request without a method. -/
def methodless : List UInt8 := (OutFrame.mk frameHeaders (flagEndStream + flagEndHeaders) 1 [0x84]).encode

def methodlessHand : InHand := (run welcomeSite (h2ConnectionLoop (.client methodless)) 0).inHand.get (by decide +kernel)

theorem methodless_fatal : (run welcomeSite (h2ConnectionLoop (.client methodless)) 0).inHand = some methodlessHand ∧
    StreamFault methodlessHand.server.core methodlessHand.hdr methodlessHand.payload ∧
    ¬ StreamConfined methodlessHand
    (Server.step welcomeSite (run welcomeSite (h2ConnectionLoop (.client methodless)) 0)) := by
  refine ⟨(Option.some_get _).symm,?_,?_⟩
  · exact @StreamFault.of_error _ _ _ 0 1 (by decide +kernel) (by decide +kernel) (by decide +kernel) (by decide +kernel)
      (by decide +kernel) (by decide +kernel)
  · intro confined
    have alive := confined.alive
    revert alive
    decide +kernel

end Sarm.H2
