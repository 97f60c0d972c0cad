import Sarm.Server
import Sarm.Trace

/-!
What a step of the server can do, in acts small enough that an invariant is
checked act by act. `Act` says of each what changes of the state, the streams
being served and the log, and what it uses up of the octets from the client; a
step is a path of acts.
-/
namespace Sarm.H2
open Sarm.Memory Sarm.Trace

/-- The octets the frame loop has read and not parsed. -/
def Server.unparsed (s : Server) : List UInt8 := slice s.buf s.cursor s.count

/-- The octets still to be read. -/
def Server.incoming (s : Server) : List UInt8 := s.transport.incoming

/-- No octet of the client's is used up, and those the frame loop holds stay with it
    while a request is served. -/
structure Kept (s s' : Server) : Prop where
  octets : s'.unparsed ++ s'.incoming = s.unparsed ++ s.incoming
  parked : s.stack ≠ [] → s'.unparsed = s.unparsed

/-- A frame with its 9 octets in front, used up: by the frame loop from the octets
    it holds, by the body writer from those still to be read. -/
structure Used (raw : List UInt8) (s s' : Server) : Prop where
  loop : s.stack = [] → s.unparsed ++ s.incoming = raw ++ (s'.unparsed ++ s'.incoming)
  wait : s.stack ≠ [] → s.incoming = raw ++ s'.incoming ∧ s'.unparsed = s.unparsed
  waited : s.stack ≠ [] → .waiting s.count ∈ s.log

/-- What the body writer has read of a frame it does not get whole. -/
structure Lost (lost : List UInt8) (s s' : Server) : Prop where
  taken : s.incoming = lost ++ s'.incoming
  partly : frameSplit lost = none
  parked : s'.unparsed = s.unparsed
  waited : .waiting s.count ∈ s.log

/-- The header and the payload are those of a raw frame. -/
structure RawFrame (raw : List UInt8) (hdr : FrameHeader) (payload : Mem) : Prop where
  header : hdr = h2ParseFrameHeader (ofBytes (raw.take wireHeaderLen))
  length : raw.length = wireHeaderLen + hdr.length
  payload : slice payload 0 hdr.length = raw.drop wireHeaderLen

inductive Act : Server → Server → Prop where
  /-- Octets move, none is used up. -/
  | moved {s s' : Server} (core : s'.core = s.core) (stack : s'.stack = s.stack) (halted : s'.halted = s.halted)
      (log : s'.log = s.log) (kept : Kept s s') : Act s s'
  /-- A HEADERS frame is on the innermost stream being served. -/
  | sent {s s' : Server} {f : OutFrame} {ok : Bool} (core : s'.core = s.core) (stack : s'.stack = s.stack)
      (halted : s'.halted = s.halted) (log : s'.log = s.log ++ [.sent f ok]) (kept : Kept s s')
        (other : f.type ≠ frameData)
      (own : f.type = frameHeaders → s.serving.head? = some f.streamId) : Act s s'
  /-- A connection error of a frame read by the frame loop is the end of it. -/
  | frame {s s' : Server} {hdr : FrameHeader} {payload : Mem} {raw : List UInt8}
      (core : s'.core = (h2DispatchFrame s.core hdr payload).core) (stack : s'.stack = s.stack) (alive : s.halted = false)
      (halted : s'.halted = true → s.stack = [])
      (passed : s'.halted = false → s.stack = [] → ∀ e, (h2DispatchFrame s.core hdr payload).error = some e → e.isStream)
      (log : s'.log = s.log ++ [.frame s.core s.serving hdr payload]) (of : RawFrame raw hdr payload)
      (used : Used raw s s') : Act s s'
  /-- A header the frame loop rejects is the end of it. -/
  | refused {s s' : Server} {hdr : FrameHeader} (core : s'.core = s.core) (stack : s'.stack = s.stack)
      (halted : s.stack = [] → s'.halted = true) (still : s.stack ≠ [] → s'.halted = s.halted)
      (log : s'.log = s.log ++ [.refused s.core s.serving hdr]) : Act s s'
  | waiting {s : Server} (stack : s.stack ≠ []) : Act s (s.emit (.waiting s.count))
  | waitFailed {s s' : Server} {lost : List UInt8} (core : s'.core = s.core) (stack : s'.stack = s.stack)
      (halted : s'.halted = s.halted) (serving : s.stack ≠ [])
      (log : s'.log = s.log ++ [.waitFailed lost.length s'.incoming.length]) (gone : Lost lost s s') : Act s s'
  | serve {s : Server} {streamId slot : Nat} (alive : s.halted = false) (proper : streamId ≠ 0)
      (found : h2StreamFind s.core.table streamId = some slot)
      (complete : (s.core.table.streams slot).state = .halfClosedRemote)
      (idle : (s.core.table.streams slot).serving = false) :
      Act s ((s.emit (.serve s.core s.serving streamId slot)).push ⟨streamId,slot,none,[]⟩)
  | top {s : Server} (staged : Option (List UInt8)) (body : List UInt8) : Act s (s.setTop staged body)
  | charged {s : Server} {serve : Serve} {rest : List Serve} (alive : s.halted = false) (stack : s.stack =
    serve :: rest) :
      Act s (s.emitChunk serve (chunkLength s.core serve))
  | finish (s : Server) : Act s s.finish
  | ends {s s' : Server} (core : s'.core = s.core) (stack : s'.stack = s.stack) (idle : s.stack = [])
      (log : s'.log = s.log) (halted : s'.halted = true) : Act s s'

theorem Act.grows {s s' : Server} (act : Act s s') : s.log <+: s'.log := by
  cases act with
  | moved _ _ _ log _ => exact ⟨[],by rw [log,List.append_nil]⟩
  | sent _ _ _ log _ _ _ => rw [log]; exact List.prefix_append _ _
  | frame _ _ _ _ _ log _ _ => rw [log]; exact List.prefix_append _ _
  | refused _ _ _ _ log => rw [log]; exact List.prefix_append _ _
  | waiting _ => exact List.prefix_append _ _
  | waitFailed _ _ _ _ log _ => rw [log]; exact List.prefix_append _ _
  | serve _ _ _ _ _ => exact List.prefix_append _ _
  | top staged body =>
    rw [Server.setTop]
    split <;> exact List.prefix_rfl
  | charged _ _ => exact List.prefix_append _ _
  | finish =>
    rw [Server.finish]
    split <;> exact List.prefix_rfl
  | ends _ _ _ log _ => exact ⟨[],by rw [log,List.append_nil]⟩

/-- The acts with the log they add to. -/
def acts : Logged Server Event := ⟨Act,Server.log,Act.grows⟩

/-- A path of acts. -/
abbrev Path (s s' : Server) : Prop := acts.Path s s'

theorem Act.path {s s' : Server} (act : Act s s') : Path s s' := .single act

/-! ### Sending -/

/-- A change of the writing side keeps every octet. -/
theorem Kept.of_input {s s' : Server} (buf : s'.buf = s.buf) (cursor : s'.cursor = s.cursor) (count : s'.count = s.count)
    (input : SameInput s.transport s'.transport) : Kept s s' := by
  have held : s'.unparsed = s.unparsed := by rw [Server.unparsed,Server.unparsed,buf,cursor,count]
  refine ⟨?_,fun _ => held⟩
  rw [held,Server.incoming,Server.incoming,input.incoming]

theorem send_eq (s : Server) (f : OutFrame) : s.send f =
    (Server.emit { s with transport := (s.transport.write f.encode).1 } (.sent f (s.transport.write f.encode).2),
      (s.transport.write f.encode).2) := by
  rw [Server.send]

theorem send_input (s : Server) (f : OutFrame) : SameInput s.transport (s.send f).1.transport := by
  rw [send_eq]
  exact write_input s.transport f.encode

@[simp] theorem send_core (s : Server) (f : OutFrame) : (s.send f).1.core = s.core := by simp only [send_eq,Server.emit]
@[simp] theorem send_stack (s : Server) (f : OutFrame) : (s.send f).1.stack = s.stack := by
  simp only [send_eq,Server.emit]
@[simp] theorem send_halted (s : Server) (f : OutFrame) : (s.send f).1.halted = s.halted := by
  simp only [send_eq,Server.emit]
@[simp] theorem send_buf (s : Server) (f : OutFrame) : (s.send f).1.buf = s.buf := by simp only [send_eq,Server.emit]
@[simp] theorem send_cursor (s : Server) (f : OutFrame) : (s.send f).1.cursor = s.cursor := by
  simp only [send_eq,Server.emit]
@[simp] theorem send_count (s : Server) (f : OutFrame) : (s.send f).1.count = s.count := by
  simp only [send_eq,Server.emit]
@[simp] theorem send_log (s : Server) (f : OutFrame) : (s.send f).1.log = s.log ++ [.sent f (s.send f).2] := by
  simp only [send_eq,Server.emit]

theorem send_consume (s : Server) (f : OutFrame) (n : Nat) : (s.send f).1.consume n = ((s.consume n).send f).1 := by
  simp only [send_eq,Server.emit,Server.consume]

theorem send_kept (s : Server) (f : OutFrame) : Kept s (s.send f).1 :=
  .of_input (send_buf s f) (send_cursor s f) (send_count s f) (send_input s f)

theorem send_path {s : Server} {f : OutFrame} (other : f.type ≠ frameData)
    (own : f.type = frameHeaders → s.serving.head? = some f.streamId) : Path s (s.send f).1 :=
  (Act.sent (send_core s f) (send_stack s f) (send_halted s f) (send_log s f) (send_kept s f) other own).path

/-- Frames that are neither HEADERS nor DATA. -/
def Control (f : OutFrame) : Prop := f.type ≠ frameData ∧ f.type ≠ frameHeaders

theorem Control.path {s : Server} {f : OutFrame} (control : Control f) : Path s (s.send f).1 :=
  send_path control.1 fun headers => absurd headers control.2

theorem sendAll_cons (s : Server) (f : OutFrame) (frames : List OutFrame) :
    s.sendAll (f :: frames) = (s.send f).1.sendAll frames := by
  rw [Server.sendAll,Server.sendAll,List.foldl_cons]

theorem sendAll_path :
    ∀ (frames : List OutFrame) (s : Server), (∀ f ∈ frames, Control f) → Path s (s.sendAll frames) := by
  intro frames
  induction frames with
  | nil => intro s _; exact .refl
  | cons f frames ih =>
    intro s control
    rw [List.forall_mem_cons] at control
    rw [sendAll_cons]
    exact control.1.path.trans (ih _ control.2)

theorem writeHeaders_path {s : Server} {r : Response} {streamId extra : Nat} (own : s.serving.head? = some streamId) :
    Path s (s.writeHeaders r streamId extra).1 := by
  rw [Server.writeHeaders]
  split
  · exact .refl
  · next f made =>
    obtain ⟨type,stream⟩ := headersFrame_some made
    exact send_path (by rw [type]; decide) (fun _ => by rw [stream]; exact own)

theorem writeHeaders_serving {s : Server} {r : Response} {streamId extra : Nat} :
    (s.writeHeaders r streamId extra).1.stack = s.stack := by
  rw [Server.writeHeaders]
  split
  · rfl
  · exact send_stack _ _

/-! ### Serving -/

@[simp] theorem finish_conn (s : Server) : s.finish.core.conn = s.core.conn := by
  rw [Server.finish]
  split <;> rfl

@[simp] theorem finish_hpack (s : Server) : s.finish.core.hpack = s.core.hpack := by
  rw [Server.finish]
  split <;> rfl

@[simp] theorem finish_req (s : Server) : s.finish.core.req = s.core.req := by
  rw [Server.finish]
  split <;> rfl

@[simp] theorem finish_log (s : Server) : s.finish.log = s.log := by
  rw [Server.finish]
  split <;> rfl

@[simp] theorem finish_halted (s : Server) : s.finish.halted = s.halted := by
  rw [Server.finish]
  split <;> rfl

@[simp] theorem setTop_core (s : Server) (staged : Option (List UInt8)) (body : List UInt8) :
    (s.setTop staged body).core = s.core := by
  rw [Server.setTop]
  split <;> rfl

@[simp] theorem setTop_log (s : Server) (staged : Option (List UInt8)) (body : List UInt8) :
    (s.setTop staged body).log = s.log := by
  rw [Server.setTop]
  split <;> rfl

@[simp] theorem setTop_halted (s : Server) (staged : Option (List UInt8)) (body : List UInt8) :
    (s.setTop staged body).halted = s.halted := by
  rw [Server.setTop]
  split <;> rfl

/-- The innermost response keeps its stream and its slot. -/
theorem setTop_served (s : Server) (staged : Option (List UInt8)) (body : List UInt8) :
    (s.setTop staged body).stack.map (fun serve => (serve.streamId,serve.slot)) =
      s.stack.map fun serve => (serve.streamId,serve.slot) := by
  rw [Server.setTop]
  split
  · next none => rw [none]
  · next serve rest stack => rw [stack]; rfl

theorem finish_path (s : Server) : Path s s.finish := (Act.finish s).path

theorem replyStatus_path {s : Server} {streamId status : Nat} (own : s.serving.head? = some streamId) :
    Path s (s.replyStatus streamId status) := writeHeaders_path own

theorem abort_path (s : Server) : Path s s.abort := by
  rw [Server.abort]
  split
  · exact .refl
  · next serve rest stack =>
    have own : s.serving.head? = some serve.streamId := by rw [Server.serving,stack]; rfl
    exact (replyStatus_path own).trans (finish_path _)

theorem top_path (s : Server) (staged : Option (List UInt8)) (body : List UInt8) : Path s (s.setTop staged body) :=
  (Act.top staged body).path

theorem respond_path {s : Server} {streamId : Nat} (own : s.serving.head? = some streamId) (a : Answer) :
    Path s (s.respond streamId a) := by
  cases a with
  | status code => exact (replyStatus_path own).trans (finish_path _)
  | headers r =>
    have written : Path s (s.writeHeaders r streamId flagEndStream).1 := writeHeaders_path own
    rw [Server.respond]
    split
    · next s' done => rw [done] at written; exact written.trans (finish_path _)
    · next s' failed => rw [failed] at written; exact written.trans (abort_path _)
  | body r =>
    rw [Server.respond]
    split
    · exact abort_path s
    · next f made =>
      split
      · exact top_path s _ _
      · obtain ⟨type,stream⟩ := headersFrame_some made
        have sent : Path s (s.send f).1 := send_path (by rw [type]; decide) (fun _ => by rw [stream]; exact own)
        split
        · next s' done => rw [done] at sent; exact sent.trans (top_path _ _ _)
        · next s' failed => rw [failed] at sent; exact sent.trans (abort_path _)

theorem hook_path (files : List EmbeddedFile) {s : Server} (streamId : Nat) (alive : s.halted = false) :
    Path s (s.hook files streamId) := by
  rw [Server.hook]
  split
  · exact .refl
  next proper =>
  split
  · exact .refl
  · next slot found =>
    split
    · next ready =>
      exact (Act.serve alive proper found ready.1 ready.2).path.trans (respond_path rfl _)
    · exact .refl

/-! ### Frames received -/

theorem endStream_replies (c : Core) (hdr : FrameHeader) (slot : Nat) : (c.endStream hdr slot).replies = [] := by
  rw [Core.endStream]
  split
  · split <;> rfl
  · rfl

theorem headers_replies (c : Core) (hdr : FrameHeader) (payload : Mem) :
    (h2HandleHeaders c hdr payload).replies = [] := by
  rw [h2HandleHeaders]
  split
  · rfl
  rw [Core.enterHeaders]
  split
  · rfl
  dsimp only
  split
  · rfl
  split
  · rfl
  · exact endStream_replies _ _ _

theorem data_replies (c : Core) (hdr : FrameHeader) (payload : Mem) : (h2HandleData c hdr payload).replies = [] := by
  rw [h2HandleData]
  split
  · rfl
  split
  · rfl
  · exact endStream_replies _ _ _

theorem rst_replies (c : Core) (hdr : FrameHeader) (payload : Mem) : (h2HandleRstStream c hdr payload).replies = [] := by
  rw [h2HandleRstStream]
  split
  · rfl
  split
  · rfl
  split
  · rfl
  · split <;> rfl

theorem update_replies (c : Core) (hdr : FrameHeader) (payload : Mem) :
    (h2HandleWindowUpdate c hdr payload).replies = [] := by
  rw [h2HandleWindowUpdate]
  dsimp only
  split
  · rfl
  split
  · rfl
  split
  · split <;> rfl
  split
  · split <;> rfl
  · split
    · rfl
    · split <;> rfl

/-- A handler replies with nothing, or with one frame on the connection to a frame it
    accepts. -/
inductive Replied (outcome : Outcome) : Prop where
  | silent (nothing : outcome.replies = [])
  | one (f : OutFrame) (accepted : outcome.error = none) (reply : outcome.replies = [f]) (control : Control f)
      (connection : f.streamId = 0)

theorem settings_replied (c : Core) (hdr : FrameHeader) (payload : Mem) : Replied (h2HandleSettings c hdr payload) := by
  rw [h2HandleSettings]
  split
  · exact .silent rfl
  split
  · split <;> exact .silent rfl
  split
  · exact .silent rfl
  split
  · exact .silent rfl
  · exact .one settingsAck rfl rfl ⟨by decide,by decide⟩ rfl

theorem ping_replied (c : Core) (hdr : FrameHeader) (payload : Mem) : Replied (h2HandlePing c hdr payload) := by
  rw [h2HandlePing]
  split
  · exact .silent rfl
  split
  · exact .silent rfl
  split
  · exact .silent rfl
  · have control : Control (pingAck payload) :=
      ⟨by simp [pingAck,framePing,frameData],by simp [pingAck,framePing,frameHeaders]⟩
    exact .one (pingAck payload) rfl rfl control rfl

theorem goaway_control (c : Conn) (e : H2Error) : Control (h2SendGoaway c e) :=
  ⟨by simp [h2SendGoaway,frameGoaway,frameData],by simp [h2SendGoaway,frameGoaway,frameHeaders]⟩

theorem goaway_replied (c : Core) (hdr : FrameHeader) (payload : Mem) : Replied (h2HandleGoaway c hdr payload) := by
  rw [h2HandleGoaway]
  split
  · exact .silent rfl
  split
  · exact .silent rfl
  · exact .one _ rfl rfl (goaway_control _ _) rfl

theorem dispatch_replied (c : Core) (hdr : FrameHeader) (payload : Mem) : Replied (h2DispatchFrame c hdr payload) := by
  refine dispatch_rule ?_
  intro type outcome handled
  cases handled with
  | data _ => exact .silent (data_replies _ _ _)
  | headers _ => exact .silent (headers_replies _ _ _)
  | rstStream _ => exact .silent (rst_replies _ _ _)
  | settings _ => exact settings_replied _ _ _
  | ping _ => exact ping_replied _ _ _
  | goaway _ => exact goaway_replied _ _ _
  | windowUpdate _ => exact .silent (update_replies _ _ _)
  | passed _ _ _ => exact .silent rfl

theorem dispatch_reply {c : Core} {hdr : FrameHeader} {payload : Mem} {f : OutFrame}
    (member : f ∈ (h2DispatchFrame c hdr payload).replies) : Control f ∧ f.streamId = 0 := by
  cases dispatch_replied c hdr payload with
  | silent nothing =>
    rw [nothing] at member
    exact absurd member List.not_mem_nil
  | one g _ reply control connection =>
    rw [reply,List.mem_singleton] at member
    rw [member]
    exact ⟨control,connection⟩

theorem dispatch_control (c : Core) (hdr : FrameHeader) (payload : Mem) :
    ∀ f ∈ (h2DispatchFrame c hdr payload).replies, Control f := fun _ member => (dispatch_reply member).1

theorem dispatch_connection (c : Core) (hdr : FrameHeader) (payload : Mem) :
    ∀ f ∈ (h2DispatchFrame c hdr payload).replies, f.streamId = 0 := fun _ member => (dispatch_reply member).2

/-- A handler that rejects its frame replies with nothing. -/
theorem dispatch_error_replies {c : Core} {hdr : FrameHeader} {payload : Mem} {e : H2Error}
    (error : (h2DispatchFrame c hdr payload).error = some e) : (h2DispatchFrame c hdr payload).replies = [] := by
  cases dispatch_replied c hdr payload with
  | silent nothing => exact nothing
  | one _ accepted _ _ _ =>
    rw [accepted] at error
    cases error

theorem reset_stack (s : Server) (streamId : Nat) (e : H2Error) : (s.reset streamId e).stack = s.stack := by
  rw [Server.reset,send_stack]

theorem reset_log (s : Server) (streamId : Nat) (e : H2Error) : (s.reset streamId e).log =
    s.log ++ [.sent (h2SendRstStream streamId e) (s.send (h2SendRstStream streamId e)).2] := by
  rw [Server.reset,send_log]

theorem reset_control (streamId : Nat) (e : H2Error) : Control (h2SendRstStream streamId e) :=
  ⟨by simp [h2SendRstStream,frameRstStream,frameData],by simp [h2SendRstStream,frameRstStream,frameHeaders]⟩

/-! ### The buffer of the frame loop -/

theorem compact_unparsed (s : Server) : s.compact.unparsed = s.unparsed ∧ s.compact.count = s.count ∧
    (s.count = 0 ∨ s.compact.cursor = 0) := by
  rw [Server.compact]
  split
  · next none => exact ⟨rfl,rfl,.inl none⟩
  · refine ⟨?_,rfl,.inr rfl⟩
    rw [Server.unparsed,Server.unparsed]
    dsimp only
    rw [Hpack.memcpy_forward _ _ (.inl (Nat.zero_le _)),slice_blit_same,slice_shift,Nat.add_zero]

/-- What a filling leaves as it was. -/
structure Filled (s s' : Server) : Prop where
  core : s'.core = s.core
  stack : s'.stack = s.stack
  halted : s'.halted = s.halted
  log : s'.log = s.log

theorem compact_filled (s : Server) : Filled s s.compact := by
  rw [Server.compact]
  split <;> exact ⟨rfl,rfl,rfl,rfl⟩

theorem compact_transport (s : Server) : s.compact.transport = s.transport := by
  rw [Server.compact]
  split <;> rfl

theorem waitRead_same {s s' : Server} {n : Nat} {done : Bool} (read : s.waitRead n = (s',done)) :
    s'.core = s.core ∧ s'.stack = s.stack ∧ s'.log = s.log ∧ s'.halted = s.halted := by
  rw [Server.waitRead] at read
  split at read <;> cases read <;> exact ⟨rfl,rfl,rfl,rfl⟩

theorem fill_filled {s s' : Server} {n : Nat} {done : Bool} (filled : s.fill n = (s',done)) : Filled s s' := by
  rw [Server.fill] at filled
  split at filled
  · cases filled; exact ⟨rfl,rfl,rfl,rfl⟩
  · have compact := compact_filled s
    dsimp only at filled
    split at filled
    · cases filled; exact ⟨compact.core,compact.stack,compact.halted,compact.log⟩
    · cases filled; exact ⟨compact.core,compact.stack,compact.halted,compact.log⟩

/-- Filling moves octets from the transport into the buffer. -/
theorem fill_octets {s s' : Server} {n : Nat} (filled : s.fill n = (s',true)) :
    s'.unparsed ++ s'.incoming = s.unparsed ++ s.incoming ∧ n ≤ s'.count := by
  rw [Server.fill] at filled
  split at filled
  · next enough => cases filled; exact ⟨rfl,enough⟩
  next short =>
  obtain ⟨held,count,front⟩ := compact_unparsed s
  dsimp only at filled
  split at filled
  · cases filled
  · next t bytes read =>
    cases filled
    rw [compact_transport] at read
    obtain ⟨taken,length⟩ := readExact_some read
    refine ⟨?_,Nat.le_refl _⟩
    have total : n = s.compact.count + bytes.length := by omega
    have buffered : slice s.compact.buf 0 s.compact.count = s.unparsed := by
      rw [← held,Server.unparsed]
      rcases front with none | start
      · rw [count,none]; rfl
      · rw [start]
    have joined : slice (blit s.compact.buf s.compact.count (ofBytes bytes) bytes.length) 0 n = s.unparsed ++ bytes := by
      rw [total,slice_add,slice_blit_before (by omega),Nat.zero_add,slice_blit_same,slice_ofBytes,buffered]
    rw [Server.unparsed,Server.incoming,Server.incoming]
    dsimp only
    rw [joined,taken,List.append_assoc]

theorem fill_path {s s' : Server} {n : Nat} (filled : s.fill n = (s',true)) (idle : s.stack = []) : Path s s' := by
  obtain ⟨core,stack,halted,log⟩ := fill_filled filled
  exact (Act.moved core stack halted log ⟨(fill_octets filled).1,fun busy => absurd idle busy⟩).path

theorem consume_unparsed {s : Server} {n : Nat} (enough : n ≤ s.count) :
    s.unparsed = slice s.buf s.cursor n ++ (s.consume n).unparsed := by
  rw [Server.unparsed,Server.unparsed,Server.consume,← slice_add]
  dsimp only
  congr 1
  omega

/-! ### The frame loop -/

theorem sendAll_core : ∀ (frames : List OutFrame) (s : Server), (s.sendAll frames).core = s.core := by
  intro frames
  induction frames with
  | nil => intro s; rfl
  | cons f frames ih => intro s; rw [sendAll_cons,ih,send_core]

theorem sendAll_stack : ∀ (frames : List OutFrame) (s : Server), (s.sendAll frames).stack = s.stack := by
  intro frames
  induction frames with
  | nil => intro s; rfl
  | cons f frames ih => intro s; rw [sendAll_cons,ih,send_stack]

theorem sendAll_alive : ∀ (frames : List OutFrame) (s : Server), (s.sendAll frames).halted = s.halted := by
  intro frames
  induction frames with
  | nil => intro s; rfl
  | cons f frames ih => intro s; rw [sendAll_cons,ih,send_halted]

theorem sendAll_consume (n : Nat) : ∀ (frames : List OutFrame) (s : Server),
    (s.sendAll frames).consume n = (s.consume n).sendAll frames := by
  intro frames
  induction frames with
  | nil => intro s; rfl
  | cons f frames ih =>
    intro s
    rw [sendAll_cons,sendAll_cons,← send_consume]
    exact ih _

/-- The same server with its connection over. -/
def Server.ended (s : Server) : Server := { s with halted := true }

theorem send_ended (s : Server) (f : OutFrame) : (s.send f).1.ended = (s.ended.send f).1 := by
  simp only [send_eq,Server.emit,Server.ended]

theorem sendAll_ended : ∀ (frames : List OutFrame) (s : Server), (s.sendAll frames).ended = s.ended.sendAll frames := by
  intro frames
  induction frames with
  | nil => intro s; rfl
  | cons f frames ih =>
    intro s
    rw [sendAll_cons,sendAll_cons,← send_ended]
    exact ih _

theorem close_path {s : Server} (idle : s.stack = []) : Path s s.close := by
  have closed : Act s s.close := .ends rfl rfl idle rfl rfl
  exact closed.path

theorem ended_stack (s : Server) : s.ended.stack = s.stack := rfl

theorem goaway_stack (s : Server) (e : H2Error) : (s.goaway e).stack = s.stack := by rw [Server.goaway,send_stack]

theorem goaway_ended (s : Server) (e : H2Error) : s.ended.goaway e = (s.goaway e).ended := (send_ended s _).symm

theorem close_ended (s : Server) : s.ended.close = s.close := rfl

/-- GOAWAY and the end: the connection may be taken to be over before the frame is
    sent. -/
theorem fatal_path {s : Server} (e : H2Error) (idle : s.stack = []) : Path s.ended (s.goaway e).close := by
  have sent : Path s.ended (s.ended.goaway e) := by
    rw [Server.goaway]
    exact (goaway_control _ e).path
  rw [goaway_ended] at sent
  have idle' : (s.goaway e).ended.stack = [] := by rw [ended_stack,goaway_stack,idle]
  have closed : Path (s.goaway e).ended (s.goaway e).ended.close := close_path idle'
  rw [close_ended] at closed
  exact sent.trans closed

/-- The state with a frame's handler run and the frame logged, before its replies. -/
def Server.handled (s : Server) (hdr : FrameHeader) (payload : Mem) : Server :=
  Server.emit { s with core := (h2DispatchFrame s.core hdr payload).core } (.frame s.core s.serving hdr payload)

theorem dispatch_eq (s : Server) (hdr : FrameHeader) (payload : Mem) :
    s.dispatch hdr payload =
      ((s.handled hdr payload).sendAll (h2DispatchFrame s.core hdr payload).replies,
        (h2DispatchFrame s.core hdr payload).error) := rfl

/-- The frame loop's part of a frame: header and payload are used up together. -/
theorem loop_used {s s' : Server} {n : Nat} (idle : s.stack = []) (header : wireHeaderLen ≤ s.count)
    (filled : (s.consume wireHeaderLen).fill n = (s',true)) (after : Server)
    (rest : after.unparsed = (s'.consume n).unparsed) (transport : after.transport = s'.transport) :
    Used (slice s.buf s.cursor wireHeaderLen ++ slice s'.buf s'.cursor n) s after := by
  refine ⟨fun _ => ?_,fun busy => absurd idle busy,fun busy => absurd idle busy⟩
  obtain ⟨octets,enough⟩ := fill_octets filled
  have consumed : (s.consume wireHeaderLen).incoming = s.incoming := rfl
  have read : after.incoming = s'.incoming := by rw [Server.incoming,Server.incoming,transport]
  rw [consume_unparsed header,List.append_assoc,← consumed,← octets,consume_unparsed enough,rest,read]
  simp only [List.append_assoc]

theorem connectionTurn_path (files : List EmbeddedFile) {s : Server} (alive : s.halted = false) (idle : s.stack = []) :
    Path s (s.connectionTurn files) := by
  rw [Server.connectionTurn]
  split
  · next s1 short =>
    have filled := fill_filled short
    have ended : Act s s1.close := .ends filled.core filled.stack idle filled.log rfl
    exact ended.path
  next s1 enough =>
  have filled := fill_filled enough
  have idle1 : s1.stack = [] := filled.stack.trans idle
  refine (fill_path enough idle).trans ?_
  have header := (fill_octets enough).2
  dsimp only
  generalize parsed : h2ParseFrameHeader (shift s1.buf s1.cursor) = hdr
  split
  · next e invalid =>
    -- The header is rejected: the connection is over from there on.
    have refused : Act s1 ((s1.consume wireHeaderLen).emit (.refused s1.core s1.serving hdr)).ended :=
      .refused rfl rfl (fun _ => rfl) (fun busy => absurd idle1 busy) rfl
    exact refused.path.trans (fatal_path e idle1)
  next valid =>
  split
  · next s3 short =>
    have filled3 := fill_filled short
    have ended : Act s1 s3.close := .ends filled3.core filled3.stack idle1 filled3.log rfl
    exact ended.path
  next s3 enough3 =>
  have filled3 := fill_filled enough3
  have idle3 : s3.stack = [] := filled3.stack.trans idle1
  have serving : s3.serving = s1.serving := by rw [Server.serving,filled3.stack]; rfl
  have core3 : s3.core = s1.core := filled3.core
  generalize bytes : shift s3.buf s3.cursor = payload
  rw [dispatch_eq,core3]
  have raw : RawFrame (slice s1.buf s1.cursor wireHeaderLen ++ slice s3.buf s3.cursor hdr.length) hdr payload := by
    refine ⟨?_,by simp,?_⟩
    · rw [List.take_left' (slice_length _ _ _),← parsed,parse_octets,slice_shift,Nat.add_zero]
    · rw [List.drop_left' (slice_length _ _ _),← bytes,slice_shift,Nat.add_zero]
  have log : ((s3.handled hdr payload).consume hdr.length).log = s1.log ++ [.frame s1.core s1.serving hdr payload] := by
    show s3.log ++ [.frame s3.core s3.serving hdr payload] = _
    rw [filled3.log,core3,serving]
    rfl
  have core : ((s3.handled hdr payload).consume hdr.length).core = (h2DispatchFrame s1.core hdr payload).core := by
    show (h2DispatchFrame s3.core hdr payload).core = _
    rw [core3]
  have over3 : s3.halted = false := by
    rw [filled3.halted]
    exact filled.halted.trans alive
  have framed : (∀ e, (h2DispatchFrame s1.core hdr payload).error = some e → e.isStream = true) →
      Act s1 ((s3.handled hdr payload).consume hdr.length) := fun stream =>
    .frame core filled3.stack (filled.halted.trans alive) (fun _ => idle1) (fun _ _ => stream) log raw
      (loop_used idle1 header enough3 _ rfl rfl)
  have ended : Act s1 ((s3.handled hdr payload).consume hdr.length).ended :=
    .frame core filled3.stack (filled.halted.trans alive) (fun _ => idle1) (fun halted => by cases halted) log raw
      (loop_used idle1 header enough3 _ rfl rfl)
  have replies := dispatch_control s1.core hdr payload
  split
  · next s4 done =>
    obtain ⟨rfl,error⟩ := Prod.mk.inj done
    rw [sendAll_consume]
    refine (framed (by rw [error]; intro e none; cases none)).path.trans ?_
    refine (sendAll_path _ _ replies).trans ?_
    exact hook_path files _ ((sendAll_alive _ _).trans over3)
  · next s4 e failed =>
    obtain ⟨rfl,error⟩ := Prod.mk.inj failed
    rw [sendAll_consume]
    split
    · next stream =>
      refine (framed (by rw [error]; rintro e ⟨⟩; exact stream)).path.trans ?_
      refine (sendAll_path _ _ replies).trans ?_
      split
      · exact close_path ((sendAll_stack _ _).trans idle3)
      · exact (reset_control _ _).path
    · refine ended.path.trans ?_
      refine (sendAll_path _ _ replies).trans ?_
      rw [← sendAll_ended]
      exact fatal_path e ((sendAll_stack _ _).trans idle3)

/-! ### The body writer -/

theorem waitRead_true {s s' : Server} {n : Nat} (read : s.waitRead n = (s',true)) :
    ∃ bytes, s.incoming = bytes ++ s'.incoming ∧ bytes.length = n ∧ slice s'.waitBuf 0 n = bytes ∧
      s' = { s with transport := s'.transport, waitBuf := s'.waitBuf } := by
  rw [Server.waitRead] at read
  split at read
  · cases read
  · next t bytes executed =>
    obtain ⟨taken,length⟩ := readExact_some executed
    cases read
    refine ⟨bytes,taken,length,?_,rfl⟩
    dsimp only
    rw [slice_blit_same,← length,slice_ofBytes]

theorem waitRead_false {s s' : Server} {n : Nat} (read : s.waitRead n = (s',false)) :
    ∃ lost, s.incoming = lost ++ s'.incoming ∧ lost.length < n ∧ s' = { s with transport := s'.transport } := by
  rw [Server.waitRead] at read
  split at read
  · next t executed =>
    obtain ⟨lost,taken,few⟩ := readExact_none executed
    cases read
    exact ⟨lost,taken,few,rfl⟩
  · cases read

/-- A wait without a frame: the response fails, and what was read is lost. -/
theorem waitLost_path {s s' : Server} {lost : List UInt8} (busy : s.stack ≠ []) (waited : .waiting s.count ∈ s.log)
    (taken : s.incoming = lost ++ s'.incoming) (partly : frameSplit lost = none)
    (same : s' = { s with transport := s'.transport, waitBuf := s'.waitBuf }) :
    Path s (s'.waitLost s.transport).abort := by
  have length : lost.length = s.transport.incoming.length - s'.transport.incoming.length := by
    have whole := congrArg List.length taken
    rw [List.length_append,Server.incoming,Server.incoming] at whole
    omega
  have log : (s'.waitLost s.transport).log =
      s.log ++ [.waitFailed lost.length (s'.waitLost s.transport).incoming.length] := by
    rw [same,length]
    rfl
  have parked : (s'.waitLost s.transport).unparsed = s.unparsed := by rw [same]; rfl
  have act : Act s (s'.waitLost s.transport) :=
    .waitFailed (by rw [same]; rfl) (by rw [same]; rfl) (by rw [same]; rfl) busy log ⟨taken,partly,parked,waited⟩
  exact act.path.trans (abort_path _)

theorem waitFrame_path (files : List EmbeddedFile) {s : Server} (alive : s.halted = false) (busy : s.stack ≠ [])
    (waited : .waiting s.count ∈ s.log) : Path s (Server.waitFrame files s) := by
  rw [Server.waitFrame]
  dsimp only
  split
  · next s1 failed =>
    obtain ⟨lost,taken,few,same⟩ := waitRead_false failed
    exact waitLost_path busy waited taken (frameSplit_header few) (by rw [same])
  next s1 read =>
  obtain ⟨header,taken,headerLength,headerBuf,same⟩ := waitRead_true read
  generalize parsed : h2ParseFrameHeader s1.waitBuf = hdr
  have core1 : s1.core = s.core := by rw [same]
  have stack1 : s1.stack = s.stack := by rw [same]
  have log1 : s1.log = s.log := by rw [same]
  have over1 : s1.halted = s.halted := by rw [same]
  split
  · next e invalid =>
    have serving : s1.serving = s.serving := by rw [Server.serving,stack1]; rfl
    have refused : Act s (s1.emit (.refused s1.core s1.serving hdr)) :=
      .refused core1 stack1 (fun idle => absurd idle busy) (fun _ => over1) (by rw [serving,core1,← log1]; rfl)
    exact refused.path.trans (abort_path _)
  next valid =>
  split
  · next s2 failed =>
    obtain ⟨lost,taken2,few,same2⟩ := waitRead_false failed
    refine waitLost_path busy waited (by rw [taken,taken2,List.append_assoc]) ?_ (by rw [same2,same])
    refine frameSplit_payload headerLength ?_
    rwa [← headerBuf,← parse_octets,parsed]
  next s2 read2 =>
  obtain ⟨body,taken2,bodyLength,bodyBuf,same2⟩ := waitRead_true read2
  generalize payloadIs : s2.waitBuf = payload at bodyBuf ⊢
  have core2 : s2.core = s.core := by rw [same2]; exact core1
  have stack2 : s2.stack = s.stack := by rw [same2]; exact stack1
  have over2 : s2.halted = s.halted := by rw [same2]; exact over1
  have log2 : s2.log = s.log := by rw [same2]; exact log1
  have parked : s2.unparsed = s.unparsed := by rw [same2,same]; rfl
  have serving : s2.serving = s.serving := by rw [Server.serving,stack2]; rfl
  rw [dispatch_eq,core2]
  have raw : RawFrame (header ++ body) hdr payload := by
    refine ⟨?_,by rw [List.length_append,headerLength,bodyLength],?_⟩
    · rw [List.take_left' headerLength,← parsed,parse_octets,headerBuf]
    · rw [List.drop_left' headerLength,bodyBuf]
  have log : (s2.handled hdr payload).log = s.log ++ [.frame s.core s.serving hdr payload] := by
    show s2.log ++ [.frame s2.core s2.serving hdr payload] = _
    rw [log2,core2,serving]
  have core : (s2.handled hdr payload).core = (h2DispatchFrame s.core hdr payload).core := by
    show (h2DispatchFrame s2.core hdr payload).core = _
    rw [core2]
  have framed : Act s (s2.handled hdr payload) := by
    refine .frame core stack2 alive ?_ (fun _ idle => absurd idle busy) log raw
      ⟨fun idle => absurd idle busy,fun _ => ?_,fun _ => waited⟩
    · intro halted
      rw [show (s2.handled hdr payload).halted = s2.halted from rfl,over2,alive] at halted
      cases halted
    · refine ⟨?_,parked⟩
      rw [taken,taken2,List.append_assoc]
      rfl
  refine framed.path.trans ?_
  have replies := sendAll_path _ (s2.handled hdr payload) (dispatch_control s.core hdr payload)
  have over4 : ((s2.handled hdr payload).sendAll (h2DispatchFrame s.core hdr payload).replies).halted = false :=
    (sendAll_alive _ _).trans (over2.trans alive)
  split
  · next s4 done =>
    obtain ⟨rfl,_⟩ := Prod.mk.inj done
    exact replies.trans (hook_path files _ over4)
  · next s4 e failed =>
    obtain ⟨rfl,_⟩ := Prod.mk.inj failed
    refine replies.trans ?_
    split
    · split
      · exact .refl
      · exact (reset_control _ _).path
    · split
      · exact abort_path _
      · exact finish_path _

theorem headers_other (serve : Serve) (block : List UInt8) : (serve.headers block).type ≠ frameData := by
  simp [Serve.headers,frameHeaders,frameData]

/-- The innermost response's HEADERS frame is on the innermost stream. -/
theorem headers_own {s : Server} {serve : Serve} {rest : List Serve} (stack : s.stack = serve :: rest)
    (block : List UInt8) : s.serving.head? = some (serve.headers block).streamId := by
  rw [Server.serving,stack]
  rfl

theorem waitTurn_path (files : List EmbeddedFile) {s : Server} {serve : Serve} {rest : List Serve}
    (alive : s.halted = false)
    (stack : s.stack = serve :: rest) : Path s (s.waitTurn files serve) := by
  have busy : s.stack ≠ [] := by rw [stack]; exact List.cons_ne_nil _ _
  rw [Server.waitTurn]
  split
  · exact (Act.waiting busy).path.trans (waitFrame_path files alive busy (List.mem_append_right _ List.mem_cons_self))
  · next block staged =>
    have sent : Path s (s.send (serve.headers block)).1 :=
      send_path (headers_other serve block) (fun _ => headers_own stack block)
    have kept := send_stack s (serve.headers block)
    have halted := send_halted s (serve.headers block)
    split
    · next s1 failed => rw [failed] at sent; exact sent.trans (abort_path _)
    · next s1 done =>
      rw [done] at sent kept halted
      dsimp only at kept halted
      have still : (s1.setTop none serve.body).stack ≠ [] := by
        rw [Server.setTop,kept,stack]
        exact List.cons_ne_nil _ _
      have live : (s1.setTop none serve.body).halted = false := by
        rw [Server.setTop]
        split <;> exact halted.trans alive
      refine (sent.trans (top_path s1 none serve.body)).trans ?_
      exact (Act.waiting still).path.trans (waitFrame_path files live still (List.mem_append_right _ List.mem_cons_self))

theorem emitStaged_path {s : Server} {serve : Serve} {rest : List Serve} (stack : s.stack = serve :: rest) :
    Path s (s.emitStaged serve) := by
  rw [Server.emitStaged]
  split
  · exact .refl
  · next block staged =>
    have sent : Act s (s.emit (.sent (serve.headers block) true)) :=
      .sent rfl rfl rfl rfl (.of_input rfl rfl rfl ⟨rfl,rfl⟩) (headers_other serve block)
        (fun _ => headers_own stack block)
    exact sent.path

theorem emitStaged_same (s : Server) (serve : Serve) : (s.emitStaged serve).core = s.core ∧
    (s.emitStaged serve).stack = s.stack ∧ (s.emitStaged serve).halted = s.halted := by
  rw [Server.emitStaged]
  split <;> exact ⟨rfl,rfl,rfl⟩

theorem writev_path {s : Server} {header body : List UInt8} {t : Transport} {ok : Bool}
    (written : s.transport.writev header body = (t,ok)) : Path s { s with transport := t } := by
  have input := writev_input s.transport header body
  rw [written] at input
  have moved : Act s { s with transport := t } := .moved rfl rfl rfl rfl (.of_input rfl rfl rfl input)
  exact moved.path

theorem sendChunk_path {s : Server} {serve : Serve} {rest : List Serve} (alive : s.halted = false)
    (stack : s.stack = serve :: rest) : Path s (s.sendChunk serve (chunkLength s.core serve)) := by
  rw [Server.sendChunk]
  dsimp only
  split
  · next t failed => exact (writev_path failed).trans (abort_path _)
  · next t done =>
    refine ((writev_path done).trans (emitStaged_path stack)).trans ?_
    obtain ⟨core,kept,halted⟩ := emitStaged_same { s with transport := t } serve
    have charged := Act.charged (halted.trans alive) (kept.trans stack)
    rw [core] at charged
    refine charged.path.trans ?_
    split
    · exact finish_path _
    · exact top_path _ _ _

/-! ### Steps and runs -/

/-- Where a connection starts: reset, nothing served, and nothing in the log but the
    SETTINGS frame. Unless it is over, what is to come is the client's stream behind
    the preface. -/
structure Entered (e : Entry) (s : Server) : Prop where
  core : s.core = e.previous.reset
  stack : s.stack = []
  log : s.log = [] ∨ ∃ ok, s.log = [.sent h2SettingsFrame ok]
  octets : s.halted = false → s.unparsed ++ s.incoming = (slice e.buf 0 e.buffered ++ arriving e.reads).drop prefaceLen

/-- The octets behind the preface, moved to the front. -/
theorem preface_octets {s : Server} (enough : prefaceLen ≤ s.count) :
    Server.unparsed { (s.consume prefaceLen).compact with cursor := 0 } ++ s.incoming =
      (s.unparsed ++ s.incoming).drop prefaceLen := by
  obtain ⟨held,_,front⟩ := compact_unparsed (s.consume prefaceLen)
  have moved : Server.unparsed { (s.consume prefaceLen).compact with cursor := 0 } = (s.consume prefaceLen).unparsed := by
    rw [← held,Server.unparsed,Server.unparsed]
    rcases front with none | start
    · rw [(compact_unparsed (s.consume prefaceLen)).2.1,none]; rfl
    · rw [start]
  rw [moved,consume_unparsed enough,List.append_assoc,List.drop_left' (slice_length _ _ _)]

theorem enter_entered (e : Entry) : Entered e (h2ConnectionLoop e) := by
  rw [h2ConnectionLoop]
  split
  · next s1 short =>
    have filled := fill_filled short
    exact ⟨filled.core,filled.stack,.inl filled.log,by rintro ⟨⟩⟩
  next s1 enough =>
  have filled := fill_filled enough
  obtain ⟨octets,header⟩ := fill_octets enough
  split
  · have compact := compact_filled (s1.consume prefaceLen)
    generalize behind : Server.mk (s1.consume prefaceLen).compact.core (s1.consume prefaceLen).compact.buf 0
      (s1.consume prefaceLen).compact.count (s1.consume prefaceLen).compact.waitBuf
      (s1.consume prefaceLen).compact.transport (s1.consume prefaceLen).compact.stack
      (s1.consume prefaceLen).compact.halted (s1.consume prefaceLen).compact.log = s2
    have core : s2.core = e.previous.reset := by rw [← behind]; exact compact.core.trans filled.core
    have stack : s2.stack = [] := by rw [← behind]; exact compact.stack.trans filled.stack
    have log : s2.log = [] := by rw [← behind]; exact compact.log.trans filled.log
    have sent : (s2.send h2SettingsFrame).1.log = [.sent h2SettingsFrame (s2.send h2SettingsFrame).2] := by
      rw [send_log,log]
      rfl
    have transport : s2.transport = s1.transport := by rw [← behind]; exact compact_transport _
    have arrived : s2.unparsed ++ s2.incoming = (slice e.buf 0 e.buffered ++ arriving e.reads).drop prefaceLen := by
      have whole : s1.unparsed ++ s1.incoming = slice e.buf 0 e.buffered ++ arriving e.reads := octets
      have preface := preface_octets header
      rw [behind,whole] at preface
      rw [← preface,Server.incoming,Server.incoming,transport]
    have input := (send_input s2 h2SettingsFrame).incoming
    have held : (s2.send h2SettingsFrame).1.unparsed = s2.unparsed := rfl
    have core' := send_core s2 h2SettingsFrame
    have stack' := send_stack s2 h2SettingsFrame
    split
    · next s3 failed =>
      rw [failed] at sent core' stack'
      exact ⟨core'.trans core,stack'.trans stack,.inr ⟨_,sent⟩,by rintro ⟨⟩⟩
    · next s3 done =>
      rw [done] at sent core' stack' input held
      refine ⟨core'.trans core,stack'.trans stack,.inr ⟨_,sent⟩,fun _ => ?_⟩
      rw [held,Server.incoming,input]
      exact arrived
  · exact ⟨filled.core,filled.stack,.inl filled.log,by rintro ⟨⟩⟩

theorem step_path (files : List EmbeddedFile) (s : Server) : Path s (s.step files) := by
  rw [Server.step]
  split
  · exact .refl
  next live =>
  have alive : s.halted = false := by simpa using live
  split
  · next idle => exact connectionTurn_path files alive idle
  · next serve rest stack =>
    rw [Server.bodyTurn]
    split
    · exact waitTurn_path files alive stack
    · exact sendChunk_path alive stack

/-- An invariant of the acts whose events meet a condition is one of the runs whose
    events do. -/
theorem run_invariant {Ok : Event → Prop} {Inv : Server → Prop} (keeps : acts.Keeps Ok Inv) (files : List EmbeddedFile)
    {s : Server} (start : Inv s) (n : Nat) (meets : Meets Ok (run files s n).log) : Inv (run files s n) :=
  run_keeps (step_path files) keeps start n meets

end Sarm.H2
