import Sarm.Programs
import Sarm.Server

/-!
The HTTP/2 layer apart from its transport: the frame loop and the body writers as
programs that call one. Over the transport of a plaintext connection they go through the
states of the server.
-/
namespace Sarm.H2
open Sarm.Memory Sarm.Programs
open Sarm.Hpack (memcpy)

/-- A call of the transport, or of `child_end`, which flushes it and closes the socket. -/
inductive Call where
  | write (data : List UInt8)
  | writev (header body : List UInt8)
  | read (n : Nat)
  | flush
  | close

@[reducible]
def Call.Result : Call → Type
  | .read _ => Option (List UInt8)
  | _ => Bool

/-- The state of a connection above its transport. -/
structure Layer where
  core : Core
  buf : Mem
  cursor : Nat
  count : Nat
  waitBuf : Mem
  stack : List Serve
  halted : Bool

/-- What the layer does up to a result. -/
abbrev Layer.Does (α : Type) := Program Layer Call Call.Result α

namespace Layer

/-! ### Sending -/

/-- Hand a frame to the transport. -/
def send (l : Layer) (f : OutFrame) : Does Bool := .call l (.write f.encode) .done

def sendAll (l : Layer) : List OutFrame → Does Unit
  | [] => .done ()
  | f :: frames => (l.send f).bind fun _ => l.sendAll frames

def writeHeaders (l : Layer) (r : Response) (streamId extra : Nat) : Does Bool :=
  match headersFrame r streamId extra with
  | none => .done false
  | some f => l.send f

def replyStatus (l : Layer) (streamId status : Nat) : Does Unit :=
  (l.writeHeaders (statusResponse status) streamId flagEndStream).bind fun _ => .done ()

/-- The end of the connection loop, and of the connection. -/
def close (l : Layer) : Does Layer := .call l .flush fun _ => .call l .close fun _ => .done { l with halted := true }

/-! ### Serving a request -/

def finish (l : Layer) : Layer :=
  match l.stack with
  | [] => l
  | serve :: rest =>
    { l with core := { l.core with table := l.core.table.closeServed serve.slot serve.streamId }, stack := rest }

def abort (l : Layer) : Does Layer :=
  match l.stack with
  | [] => .done l
  | serve :: _ => (l.replyStatus serve.streamId 500).bind fun _ => .done l.finish

def push (l : Layer) (serve : Serve) : Layer :=
  { l with core := { l.core with table := l.core.table.setServing serve.slot }, stack := serve :: l.stack }

def setTop (l : Layer) (staged : Option (List UInt8)) (body : List UInt8) : Layer :=
  match l.stack with
  | [] => l
  | serve :: rest => { l with stack := { serve with staged := staged, body := body } :: rest }

def respond (l : Layer) (streamId : Nat) : Answer → Does Layer
  | .status code => (l.replyStatus streamId code).bind fun _ => .done l.finish
  | .headers r => (l.writeHeaders r streamId flagEndStream).bind fun ok => if ok then .done l.finish else l.abort
  | .body r => match headersFrame r streamId 0 with
    | none => l.abort
    | some f =>
      if f.encode.length ≤ headersStageMax then .done (l.setTop (some f.payload) r.body)
      else (l.send f).bind fun ok => if ok then .done (l.setTop none r.body) else l.abort

def processRequest (files : List EmbeddedFile) (l : Layer) (streamId slot : Nat) : Does Layer :=
  (l.push ⟨streamId,slot,none,[]⟩).respond streamId (answer files l.core.req)

def hook (files : List EmbeddedFile) (l : Layer) (streamId : Nat) : Does Layer :=
  if streamId = 0 then .done l
  else match h2StreamFind l.core.table streamId with
    | none => .done l
    | some slot =>
      if (l.core.table.streams slot).state = .halfClosedRemote ∧ (l.core.table.streams slot).serving = false then
        l.processRequest files streamId slot
      else .done l

/-! ### Frames received -/

def dispatch (l : Layer) (hdr : FrameHeader) (payload : Mem) : Does (Layer × Option H2Error) :=
  let outcome := h2DispatchFrame l.core hdr payload
  let l := { l with core := outcome.core }
  (l.sendAll outcome.replies).bind fun _ => .done (l,outcome.error)

def compact (l : Layer) : Layer :=
  if l.count = 0 then l else { l with buf := memcpy l.buf 0 l.cursor l.count, cursor := 0 }

/-- Have `n` octets at the cursor. -/
def fill (l : Layer) (n : Nat) : Does (Layer × Bool) :=
  if n ≤ l.count then .done (l,true)
  else
    let l := l.compact
    .call l (.read (n - l.count)) fun
      | none => .done (l,false)
      | some bytes =>
        .done ({ l with buf := blit l.buf l.count (ofBytes bytes) bytes.length, count := n, cursor := 0 },true)

def consume (l : Layer) (n : Nat) : Layer := { l with cursor := l.cursor + n, count := l.count - n }

def goaway (l : Layer) (e : H2Error) : Does Bool := l.send (h2SendGoaway l.core.conn e)

def reset (l : Layer) (streamId : Nat) (e : H2Error) : Does Layer :=
  (l.send (h2SendRstStream streamId e)).bind fun _ => .done l

/-- What becomes of a frame that has been dispatched by the frame loop. -/
def settle (files : List EmbeddedFile) (hdr : FrameHeader) (l : Layer) : Option H2Error → Does Layer
  | none => (l.consume hdr.length).hook files hdr.streamId
  | some e =>
    let l := l.consume hdr.length
    if e.isStream then if hdr.streamId = 0 then l.close else l.reset hdr.streamId e
    else (l.goaway e).bind fun _ => l.close

/-- A turn of the frame loop. -/
def connectionTurn (files : List EmbeddedFile) (l : Layer) : Does Layer :=
  (l.fill wireHeaderLen).bind fun (l,ok) =>
    if ok = false then l.close
    else
      let hdr := h2ParseFrameHeader (shift l.buf l.cursor)
      let l := l.consume wireHeaderLen
      match h2ValidateFrame hdr l.core.conn with
      | .error e => (l.goaway e).bind fun _ => l.close
      | .ok () => (l.fill hdr.length).bind fun (l,ok) =>
        if ok = false then l.close
        else (l.dispatch hdr (shift l.buf l.cursor)).bind fun (l,error) => l.settle files hdr error

/-! ### The body writer -/

/-- Send a chunk, behind the HEADERS frame if that is still waiting. -/
def sendChunk (l : Layer) (serve : Serve) (chunk : Nat) : Does Layer :=
  let f := dataFrame serve chunk
  let waiting := (serve.staged.map fun block => (serve.headers block).encode).getD []
  .call l (.writev (waiting ++ f.wireHeader) f.payload) fun (ok : Bool) =>
    if ok then
      let l := { l with core := l.core.charge serve.slot chunk }
      let rest := serve.body.drop chunk
      .done (if rest = [] then l.finish else l.setTop none rest)
    else l.abort

/-- A read of the body writer. -/
def waitRead (l : Layer) (n : Nat) : Does (Layer × Bool) :=
  .call l (.read n) fun
    | none => .done (l,false)
    | some bytes => .done ({ l with waitBuf := blit l.waitBuf 0 (ofBytes bytes) n },true)

/-- What becomes of a frame that has been dispatched by a body writer. -/
def waitSettle (files : List EmbeddedFile) (hdr : FrameHeader) (l : Layer) : Option H2Error → Does Layer
  | none => l.hook files hdr.streamId
  | some e =>
    if e.isStream then if hdr.streamId = 0 then .done l else l.reset hdr.streamId e
    else if carrySet e then l.abort
    else .done l.finish

/-- A frame read by the body writer. -/
def waitFrame (files : List EmbeddedFile) (l : Layer) : Does Layer :=
  (l.waitRead wireHeaderLen).bind fun (l,ok) =>
    if ok = false then l.abort
    else
      let hdr := h2ParseFrameHeader l.waitBuf
      match h2ValidateFrame hdr l.core.conn with
      | .error _ => l.abort
      | .ok () => (l.waitRead hdr.length).bind fun (l,ok) =>
        if ok = false then l.abort
        else (l.dispatch hdr l.waitBuf).bind fun (l,error) => l.waitSettle files hdr error

/-- Out of credit: the HEADERS frame goes out if it is still waiting, and a frame is read. -/
def waitTurn (files : List EmbeddedFile) (l : Layer) (serve : Serve) : Does Layer :=
  match serve.staged with
  | none => l.waitFrame files
  | some block => (l.send (serve.headers block)).bind fun ok =>
    if ok then (l.setTop none serve.body).waitFrame files else l.abort

def bodyTurn (files : List EmbeddedFile) (l : Layer) (serve : Serve) : Does Layer :=
  let chunk := chunkLength l.core serve
  if chunk = 0 ∧ serve.body ≠ [] then l.waitTurn files serve else l.sendChunk serve chunk

/-! ### Runs -/

def step (files : List EmbeddedFile) (l : Layer) : Does Layer :=
  if l.halted then .done l
  else match l.stack with
    | [] => l.connectionTurn files
    | serve :: _ => l.bodyTurn files serve

/-- The state of a new connection, with the octets read before it was known to be HTTP/2. -/
def new (previous : Core) (buf : Mem) (buffered : Nat) (waitBuf : Mem) : Layer where
  core := previous.reset
  buf := buf
  cursor := 0
  count := buffered
  waitBuf := waitBuf
  stack := []
  halted := false

/-- The connection loop up to its first turn. -/
def enter (l : Layer) : Does Layer :=
  (l.fill prefaceLen).bind fun (l,ok) =>
    if ok = false then l.close
    else if slice l.buf 0 prefaceLen = h2Preface then
      let l := { (l.consume prefaceLen).compact with cursor := 0 }
      (l.send h2SettingsFrame).bind fun ok => if ok then .done l else l.close
    else l.close

/-- A connection for so many turns. -/
def connection (files : List EmbeddedFile) (l : Layer) (n : Nat) : Does Layer := l.enter.bind (repeated (step files) n)

end Layer

/-! ### The plaintext transport -/

/-- The calls as a plaintext connection serves them. -/
def Transport.serve (t : Transport) : (c : Call) → Transport × c.Result
  | .write data => t.write data
  | .writev header body => t.writev header body
  | .read n => t.readExact n
  | .flush => t.flush
  | .close => t.flush

def Server.layer (s : Server) : Layer := ⟨s.core,s.buf,s.cursor,s.count,s.waitBuf,s.stack,s.halted⟩

/-- A program of the layer does what a step of the server does. -/
def Follows (p : Layer.Does Layer) (s s' : Server) : Prop := p.run Transport.serve s.transport = (s'.transport,s'.layer)

section
variable (s : Server)

theorem send_follows (f : OutFrame) :
    (s.layer.send f).run Transport.serve s.transport = ((s.send f).1.transport,(s.send f).2) ∧
    (s.send f).1.layer = s.layer := by
  rw [Layer.send,run_call,Server.send,show s.transport.serve (.write f.encode) = s.transport.write f.encode from rfl]
  generalize s.transport.write f.encode = done
  exact ⟨rfl,rfl⟩

theorem sendAll_follows (frames : List OutFrame) :
    ((s.layer.sendAll frames).run Transport.serve s.transport).1 = (s.sendAll frames).transport ∧
    (s.sendAll frames).layer = s.layer := by
  induction frames generalizing s with
  | nil => exact ⟨rfl,rfl⟩
  | cons f frames ih =>
    obtain ⟨sent,same⟩ := send_follows s f
    obtain ⟨all,same'⟩ := ih (s.send f).1
    rw [same] at all same'
    rw [Layer.sendAll,run_bind,sent,Server.sendAll,List.foldl_cons]
    exact ⟨all,same'⟩

theorem writeHeaders_follows (r : Response) (streamId extra : Nat) :
    (s.layer.writeHeaders r streamId extra).run Transport.serve s.transport =
      ((s.writeHeaders r streamId extra).1.transport,(s.writeHeaders r streamId extra).2) ∧
      (s.writeHeaders r streamId extra).1.layer = s.layer := by
  rw [Layer.writeHeaders,Server.writeHeaders]
  cases headersFrame r streamId extra with
  | none => exact ⟨rfl,rfl⟩
  | some f => exact send_follows s f

theorem replyStatus_follows (streamId status : Nat) :
    ((s.layer.replyStatus streamId status).run Transport.serve s.transport).1 =
      (s.replyStatus streamId status).transport ∧
      (s.replyStatus streamId status).layer = s.layer := by
  obtain ⟨sent,same⟩ := writeHeaders_follows s (statusResponse status) streamId flagEndStream
  rw [Layer.replyStatus,run_bind,sent]
  exact ⟨rfl,same⟩

theorem finish_layer : s.finish.layer = s.layer.finish ∧ s.finish.transport = s.transport := by
  rw [Server.finish,Layer.finish,show s.layer.stack = s.stack from rfl]
  cases s.stack <;> exact ⟨rfl,rfl⟩

theorem setTop_layer (staged : Option (List UInt8)) (body : List UInt8) :
    (s.setTop staged body).layer = s.layer.setTop staged body ∧ (s.setTop staged body).transport = s.transport := by
  rw [Server.setTop,Layer.setTop,show s.layer.stack = s.stack from rfl]
  cases s.stack <;> exact ⟨rfl,rfl⟩

/-- A reply goes out in front of a change of the state. -/
theorem replied_follows (streamId status : Nat) :
    Follows ((s.layer.replyStatus streamId status).bind fun _ => .done s.layer.finish) s
    (s.replyStatus streamId status).finish := by
  obtain ⟨sent,same⟩ := replyStatus_follows s streamId status
  obtain ⟨layer,transport⟩ := finish_layer (s.replyStatus streamId status)
  rw [Follows,run_bind,sent,transport,layer,same]
  rfl

theorem abort_follows : Follows s.layer.abort s s.abort := by
  rw [Layer.abort,Server.abort,show s.layer.stack = s.stack from rfl]
  cases s.stack with
  | nil => rfl
  | cons serve rest => exact replied_follows s serve.streamId 500

theorem respond_follows (streamId : Nat) (a : Answer) :
    Follows (s.layer.respond streamId a) s (s.respond streamId a) := by
  cases a with
  | status code => exact replied_follows s streamId code
  | headers r =>
    obtain ⟨sent,same⟩ := writeHeaders_follows s r streamId flagEndStream
    rw [Follows,Layer.respond,Server.respond,run_bind,sent]
    generalize s.writeHeaders r streamId flagEndStream = done at same ⊢
    obtain ⟨s',ok⟩ := done
    dsimp only at same ⊢
    rw [← same]
    cases ok with
    | true =>
      obtain ⟨layer,transport⟩ := finish_layer s'
      dsimp only
      rw [layer,transport]
      rfl
    | false => exact abort_follows s'
  | body r =>
    rw [Layer.respond,Server.respond]
    cases headersFrame r streamId 0 with
    | none => exact abort_follows s
    | some f =>
      dsimp only
      split
      · obtain ⟨layer,transport⟩ := setTop_layer s (some f.payload) r.body
        rw [Follows,layer,transport]
        rfl
      · obtain ⟨sent,same⟩ := send_follows s f
        rw [Follows,run_bind,sent]
        generalize s.send f = done at same ⊢
        obtain ⟨s',ok⟩ := done
        dsimp only at same ⊢
        rw [← same]
        cases ok with
        | true =>
          obtain ⟨layer,transport⟩ := setTop_layer s' none r.body
          dsimp only
          rw [layer,transport]
          rfl
        | false => exact abort_follows s'

theorem hook_follows (files : List EmbeddedFile) (streamId : Nat) :
    Follows (s.layer.hook files streamId) s (s.hook files streamId) := by
  rw [Layer.hook,Server.hook,show s.layer.core = s.core from rfl]
  by_cases none : streamId = 0
  · rw [if_pos none,if_pos none]
    rfl
  rw [if_neg none,if_neg none]
  cases h2StreamFind s.core.table streamId with
  | none => rfl
  | some slot =>
    dsimp only
    split
    · exact respond_follows
        ((s.emit (.serve s.core s.serving streamId slot)).push ⟨streamId,slot,Option.none,[]⟩) streamId _
    · rfl

/-- The stage is empty behind a flush, so that another one has nothing to do. -/
theorem flush_empty (t : Transport) : t.flush.1.writeStage = [] := by
  have kept : ∀ (writes : List WriteEvent) (data : List UInt8) (t : Transport),
      (rawWriteAll writes data t).1.writeStage = t.writeStage := by
    intro writes
    induction writes with
    | nil => intro data t; cases data <;> rfl
    | cons event writes ih =>
      intro data t
      cases data with
      | nil => rfl
      | cons octet data =>
        cases event with
        | accepted n => rw [rawWriteAll]; exact ih _ _
        | interrupted => rw [rawWriteAll]; exact ih _ _; simp
        | failed => rfl
  rw [Transport.flush]
  split
  · assumption
  · exact kept _ _ _

theorem close_follows : Follows s.layer.close s s.close := by
  have again : s.transport.flush.1.flush.1 = s.transport.flush.1 := by
    rw [Transport.flush,if_pos (flush_empty s.transport)]
  show (s.transport.flush.1.flush.1,_) = _
  rw [again]
  rfl

theorem dispatch_follows (hdr : FrameHeader) (payload : Mem) :
    (s.layer.dispatch hdr payload).run Transport.serve s.transport =
      ((s.dispatch hdr payload).1.transport,(s.dispatch hdr payload).1.layer,(s.dispatch hdr payload).2) := by
  obtain ⟨sent,same⟩ := sendAll_follows (Server.emit { s with core := (h2DispatchFrame s.core hdr payload).core }
    (.frame s.core s.serving hdr payload)) (h2DispatchFrame s.core hdr payload).replies
  rw [Layer.dispatch,Server.dispatch]
  dsimp only
  rw [run_bind,same]
  exact Prod.ext sent rfl

theorem compact_layer : s.compact.layer = s.layer.compact ∧ s.compact.transport = s.transport := by
  rw [Layer.compact,Server.compact,show s.layer.count = s.count from rfl]
  split <;> exact ⟨rfl,rfl⟩

theorem fill_follows (n : Nat) :
    (s.layer.fill n).run Transport.serve s.transport = ((s.fill n).1.transport,(s.fill n).1.layer,(s.fill n).2) := by
  rw [Layer.fill,Server.fill,show s.layer.count = s.count from rfl]
  split
  · rfl
  obtain ⟨layer,transport⟩ := compact_layer s
  dsimp only
  rw [← layer,← transport]
  cases read : s.compact.transport.readExact (n - s.compact.count) with
  | mk t got =>
    have served : Transport.serve s.compact.transport (.read (n - s.compact.layer.count)) = (t,got) := read
    rw [run_call,served]
    cases got <;> rfl

theorem reset_follows (streamId : Nat) (e : H2Error) : Follows (s.layer.reset streamId e) s (s.reset streamId e) := by
  obtain ⟨sent,same⟩ := send_follows s (h2SendRstStream streamId e)
  rw [Follows,Server.reset,same,Layer.reset,run_bind,sent]
  rfl

theorem away_follows (e : H2Error) : Follows ((s.layer.goaway e).bind fun _ => s.layer.close) s (s.goaway e).close := by
  obtain ⟨sent,same⟩ := send_follows s (h2SendGoaway s.core.conn e)
  have closed := close_follows (s.goaway e)
  rw [Server.goaway,Follows,same] at closed
  rw [Follows,run_bind,Layer.goaway,show s.layer.core = s.core from rfl,sent,Server.goaway]
  exact closed

/-- A turn of the frame loop behind the frame that it has dispatched. -/
def Server.settle (files : List EmbeddedFile) (hdr : FrameHeader) (s : Server) : Option H2Error → Server
  | none => (s.consume hdr.length).hook files hdr.streamId
  | some e =>
    let s := s.consume hdr.length
    if e.isStream then if hdr.streamId = 0 then s.close else s.reset hdr.streamId e
    else (s.goaway e).close

theorem settle_follows (files : List EmbeddedFile) (hdr : FrameHeader) (error : Option H2Error) :
    Follows (s.layer.settle files hdr error) s (s.settle files hdr error) := by
  cases error with
  | none => exact hook_follows (s.consume hdr.length) files hdr.streamId
  | some e =>
    rw [Layer.settle,Server.settle]
    split
    · split
      · exact close_follows (s.consume hdr.length)
      · exact reset_follows (s.consume hdr.length) hdr.streamId e
    · exact away_follows (s.consume hdr.length) e

theorem connectionTurn_follows (files : List EmbeddedFile) :
    Follows (s.layer.connectionTurn files) s (s.connectionTurn files) := by
  rw [Follows,Layer.connectionTurn,run_bind,fill_follows,Server.connectionTurn]
  generalize s.fill wireHeaderLen = filled
  obtain ⟨s,ok⟩ := filled
  cases ok with
  | false => exact close_follows s
  | true =>
    dsimp only
    rw [if_neg (by decide),show s.layer.buf = s.buf from rfl,show s.layer.cursor = s.cursor from rfl,
      show s.layer.consume wireHeaderLen = (s.consume wireHeaderLen).layer from rfl,
      show s.transport = (s.consume wireHeaderLen).transport from rfl]
    generalize h2ParseFrameHeader (shift s.buf s.cursor) = hdr
    generalize s.consume wireHeaderLen = s
    rw [show s.layer.core = s.core from rfl]
    cases h2ValidateFrame hdr s.core.conn with
    | error e => exact away_follows (s.emit (.refused s.core s.serving hdr)) e
    | ok _ =>
      dsimp only
      rw [run_bind,fill_follows]
      generalize s.fill hdr.length = filled
      obtain ⟨s,ok⟩ := filled
      cases ok with
      | false => exact close_follows s
      | true =>
        dsimp only
        rw [if_neg (by decide),run_bind,show s.layer.buf = s.buf from rfl,show s.layer.cursor = s.cursor from rfl,
          dispatch_follows]
        generalize s.dispatch hdr (shift s.buf s.cursor) = dispatched
        obtain ⟨s,error⟩ := dispatched
        have settled := settle_follows s files hdr error
        cases error with
        | none => exact settled
        | some e => exact settled

theorem sendChunk_follows (serve : Serve) (chunk : Nat) :
    Follows (s.layer.sendChunk serve chunk) s (s.sendChunk serve chunk) := by
  rw [Follows,Layer.sendChunk,Server.sendChunk]
  dsimp only
  generalize (serve.staged.map fun block => (serve.headers block).encode).getD [] ++
    (dataFrame serve chunk).wireHeader = header
  cases written : s.transport.writev header (dataFrame serve chunk).payload with
  | mk t ok =>
    have served : Transport.serve s.transport (.writev header (dataFrame serve chunk).payload) = (t,ok) := written
    rw [run_call,served]
    cases ok with
    | false => exact abort_follows { s with transport := t }
    | true =>
      have same : ∀ s : Server, (s.emitStaged serve).layer = s.layer ∧ (s.emitStaged serve).transport = s.transport := by
        intro s
        rw [Server.emitStaged]
        cases serve.staged <;> exact ⟨rfl,rfl⟩
      obtain ⟨layer,transport⟩ := same { s with transport := t }
      dsimp only
      rw [if_pos rfl]
      generalize Server.emitStaged { s with transport := t } serve = s' at layer transport ⊢
      have core : s'.core = s.core := congrArg Layer.core layer
      have charged : (s'.emitChunk serve chunk).layer = { s.layer with core := s.core.charge serve.slot chunk } := by
        show { s'.layer with core := s'.core.charge serve.slot chunk } = _
        rw [layer,core]
        rfl
      by_cases last : serve.body.drop chunk = []
      · obtain ⟨done,wire⟩ := finish_layer (s'.emitChunk serve chunk)
        rw [if_pos last,if_pos last,done,wire,charged]
        exact Prod.ext transport.symm rfl
      · obtain ⟨done,wire⟩ := setTop_layer (s'.emitChunk serve chunk) none (serve.body.drop chunk)
        rw [if_neg last,if_neg last,done,wire,charged]
        exact Prod.ext transport.symm rfl

theorem waitRead_follows (n : Nat) :
    (s.layer.waitRead n).run Transport.serve s.transport =
      ((s.waitRead n).1.transport,(s.waitRead n).1.layer,(s.waitRead n).2) := by
  rw [Layer.waitRead,Server.waitRead]
  cases read : s.transport.readExact n with
  | mk t got =>
    have served : Transport.serve s.transport (.read n) = (t,got) := read
    rw [run_call,served]
    cases got <;> rfl

/-- A turn of a body writer behind the frame that it has dispatched. -/
def Server.waitSettle (files : List EmbeddedFile) (hdr : FrameHeader) (s : Server) : Option H2Error → Server
  | none => s.hook files hdr.streamId
  | some e =>
    if e.isStream then if hdr.streamId = 0 then s else s.reset hdr.streamId e
    else if carrySet e then s.abort
    else s.finish

theorem waitSettle_follows (files : List EmbeddedFile) (hdr : FrameHeader) (error : Option H2Error) :
    Follows (s.layer.waitSettle files hdr error) s (s.waitSettle files hdr error) := by
  cases error with
  | none => exact hook_follows s files hdr.streamId
  | some e =>
    rw [Layer.waitSettle,Server.waitSettle]
    split
    · split
      · rfl
      · exact reset_follows s hdr.streamId e
    split
    · exact abort_follows s
    · obtain ⟨layer,transport⟩ := finish_layer s
      rw [Follows,layer,transport]
      rfl

theorem waitFrame_follows (files : List EmbeddedFile) : Follows (s.layer.waitFrame files) s (s.waitFrame files) := by
  rw [Follows,Layer.waitFrame,run_bind,waitRead_follows,Server.waitFrame]
  dsimp only
  generalize s.transport = before
  generalize s.waitRead wireHeaderLen = read
  obtain ⟨s,ok⟩ := read
  cases ok with
  | false => exact abort_follows (s.waitLost before)
  | true =>
    dsimp only
    rw [if_neg (by decide),show s.layer.waitBuf = s.waitBuf from rfl,show s.layer.core = s.core from rfl]
    generalize h2ParseFrameHeader s.waitBuf = hdr
    cases h2ValidateFrame hdr s.core.conn with
    | error e => exact abort_follows (s.emit (.refused s.core s.serving hdr))
    | ok _ =>
      dsimp only
      rw [run_bind,waitRead_follows]
      generalize s.waitRead hdr.length = read
      obtain ⟨s,ok⟩ := read
      cases ok with
      | false => exact abort_follows (s.waitLost before)
      | true =>
        dsimp only
        rw [if_neg (by decide),run_bind,show s.layer.waitBuf = s.waitBuf from rfl,dispatch_follows]
        generalize s.dispatch hdr s.waitBuf = dispatched
        obtain ⟨s,error⟩ := dispatched
        have settled := waitSettle_follows s files hdr error
        cases error with
        | none => exact settled
        | some e => exact settled

theorem waitTurn_follows (files : List EmbeddedFile) (serve : Serve) :
    Follows (s.layer.waitTurn files serve) s (s.waitTurn files serve) := by
  rw [Layer.waitTurn,Server.waitTurn]
  cases serve.staged with
  | none => exact waitFrame_follows (s.emit (.waiting s.count)) files
  | some block =>
    obtain ⟨sent,same⟩ := send_follows s (serve.headers block)
    dsimp only
    rw [Follows,run_bind,sent]
    generalize s.send (serve.headers block) = done at same ⊢
    obtain ⟨s',ok⟩ := done
    dsimp only at same ⊢
    rw [← same]
    cases ok with
    | false => exact abort_follows s'
    | true =>
      obtain ⟨layer,transport⟩ := setTop_layer s' none serve.body
      rw [if_pos rfl,← layer,← transport]
      exact waitFrame_follows ((s'.setTop none serve.body).emit (.waiting (s'.setTop none serve.body).count)) files

theorem bodyTurn_follows (files : List EmbeddedFile) (serve : Serve) :
    Follows (s.layer.bodyTurn files serve) s (s.bodyTurn files serve) := by
  rw [Layer.bodyTurn,Server.bodyTurn,show s.layer.core = s.core from rfl]
  split
  · exact waitTurn_follows s files serve
  · exact sendChunk_follows s serve _

/-- A step of the layer over the plaintext transport is one of the server. -/
theorem step_follows (files : List EmbeddedFile) : Follows (s.layer.step files) s (s.step files) := by
  rw [Layer.step,Server.step,show s.layer.halted = s.halted from rfl,show s.layer.stack = s.stack from rfl]
  split
  · rfl
  cases s.stack with
  | nil => exact connectionTurn_follows s files
  | cons serve rest => exact bodyTurn_follows s files serve

end

theorem enter_follows (e : Entry) :
    Follows (Layer.new e.previous e.buf e.buffered e.waitBuf).enter e.server (h2ConnectionLoop e) := by
  rw [show Layer.new e.previous e.buf e.buffered e.waitBuf = e.server.layer from rfl,Follows,Layer.enter,run_bind,
    fill_follows,h2ConnectionLoop]
  generalize e.server.fill prefaceLen = filled
  obtain ⟨s,ok⟩ := filled
  cases ok with
  | false => exact close_follows s
  | true =>
    dsimp only
    rw [if_neg (by decide),show s.layer.buf = s.buf from rfl]
    by_cases preface : slice s.buf 0 prefaceLen = h2Preface
    · obtain ⟨layer,transport⟩ := compact_layer (s.consume prefaceLen)
      rw [if_pos preface,if_pos preface]
      have start : ({ (s.layer.consume prefaceLen).compact with cursor := 0 } : Layer) =
          Server.layer { (s.consume prefaceLen).compact with cursor := 0 } := by
        rw [show s.layer.consume prefaceLen = (s.consume prefaceLen).layer from rfl,← layer]
        rfl
      rw [start,show s.transport =
        Server.transport { (s.consume prefaceLen).compact with cursor := 0 } from transport.symm,run_bind]
      generalize ({ (s.consume prefaceLen).compact with cursor := 0 } : Server) = s
      obtain ⟨sent,same⟩ := send_follows s h2SettingsFrame
      rw [sent]
      generalize s.send h2SettingsFrame = done at same ⊢
      obtain ⟨s',ok⟩ := done
      dsimp only at same ⊢
      rw [← same]
      cases ok with
      | true => rfl
      | false => exact close_follows s'
    · rw [if_neg preface,if_neg preface]
      exact close_follows s

/-- A connection over the plaintext transport goes through the states of the server. -/
theorem connection_follows (files : List EmbeddedFile) (e : Entry) (n : Nat) :
    Follows (Layer.connection files (Layer.new e.previous e.buf e.buffered e.waitBuf) n) e.server
      (run files (h2ConnectionLoop e) n) := by
  have steps : ∀ (n : Nat) (s : Server), Follows (repeated (Layer.step files) n s.layer) s (run files s n) := by
    intro n
    induction n with
    | zero => exact fun s => rfl
    | succ n ih =>
      intro s
      rw [Follows,repeated,run_bind,step_follows s files]
      exact ih (s.step files)
  rw [Follows,Layer.connection,run_bind,enter_follows e]
  exact steps n (h2ConnectionLoop e)

end Sarm.H2
