import Sarm.DynTable
import Sarm.Handlers
import Sarm.Response
import Sarm.Transport
import Mathlib.Logic.Function.Iterate

/-!
A connection of the server: the frame loop, and the response bodies that wait for
flow-control credit on a stack, innermost first, since a request may complete
while another is being served. One step is a turn of the frame loop, or a turn of
the innermost body writer, which sends a chunk or, out of credit, reads a frame
itself. The log records what happened; nothing reads it.
-/
namespace Sarm.H2
open Sarm.Memory
open Sarm.Hpack (memcpy h2HpackDynReset)

/-- A response under way: what `h2_process_request` and `h2_write_body` keep on
    the call stack. The block of its HEADERS frame is there while the frame waits in
    the frame buffer. -/
structure Serve where
  streamId : Nat
  slot : Nat
  staged : Option (List UInt8)
  body : List UInt8

/-- The HEADERS frame of a staged block. -/
def Serve.headers (serve : Serve) (block : List UInt8) : OutFrame := ⟨frameHeaders,flagEndHeaders,serve.streamId,block⟩

/-- What happens on a connection. -/
inductive Event where
  /-- A frame is handed to its handler, with the state before it and the streams
      being served. -/
  | frame (before : Core) (serving : List Nat) (hdr : FrameHeader) (payload : Mem)
  /-- A frame header is rejected; the payload is not read. -/
  | refused (before : Core) (serving : List Nat) (hdr : FrameHeader)
  /-- The body writer goes to the transport for a frame while the frame loop holds
      this many octets. -/
  | waiting (unparsed : Nat)
  /-- It does not get one: so many octets are lost, and so many are still to come. -/
  | waitFailed (lost left : Nat)
  /-- A frame other than DATA is handed to the transport. -/
  | sent (frame : OutFrame) (ok : Bool)
  /-- A DATA frame is taken by the transport, with the states before and after its
      charge. -/
  | data (before after : Core) (frame : OutFrame)
  /-- A request is served, inside those of the given streams. -/
  | serve (before : Core) (serving : List Nat) (streamId slot : Nat)

structure Server where
  core : Core
  buf : Mem
  cursor : Nat
  count : Nat
  waitBuf : Mem
  transport : Transport
  stack : List Serve
  halted : Bool
  log : List Event

def Server.emit (s : Server) (e : Event) : Server := { s with log := s.log ++ [e] }

/-- The streams being served, innermost first. -/
def Server.serving (s : Server) : List Nat := s.stack.map Serve.streamId

/-! ### Sending -/

/-- Hand a frame to the transport. -/
def Server.send (s : Server) (f : OutFrame) : Server × Bool :=
  let (t,ok) := s.transport.write f.encode
  (Server.emit { s with transport := t } (.sent f ok),ok)

/-- Frames whose fate is not looked at. -/
def Server.sendAll (s : Server) (frames : List OutFrame) : Server := frames.foldl (fun s f => (s.send f).1) s

/-- `h2_write_headers`. -/
def Server.writeHeaders (s : Server) (r : Response) (streamId extra : Nat) : Server × Bool :=
  match headersFrame r streamId extra with
  | none => (s,false)
  | some f => s.send f

/-- `h2_reply_status`. -/
def Server.replyStatus (s : Server) (streamId status : Nat) : Server :=
  (s.writeHeaders (statusResponse status) streamId flagEndStream).1

/-- The end of the connection loop. -/
def Server.close (s : Server) : Server := { s with transport := s.transport.flush.1, halted := true }

/-! ### Serving a request -/

/-- The entry of a stream that is being served. -/
def Table.setServing (t : Table) (slot : Nat) : Table := t.modify slot fun s => { s with serving := true }

/-- The entry once its response is over, if it is still the stream's. -/
def Table.closeServed (t : Table) (slot streamId : Nat) : Table :=
  if (t.streams slot).streamId = streamId then
    { t with
      closed := store t.closed slot true
      streams := store t.streams slot { t.streams slot with state := .closed, serving := false } }
  else t

/-- The response under way is over. -/
def Server.finish (s : Server) : Server :=
  match s.stack with
  | [] => s
  | serve :: rest =>
    { s with core := { s.core with table := s.core.table.closeServed serve.slot serve.streamId }, stack := rest }

/-- A response under way that has failed is answered with status 500, whatever has
    been sent of it. -/
def Server.abort (s : Server) : Server :=
  match s.stack with
  | [] => s
  | serve :: _ => (s.replyStatus serve.streamId 500).finish

/-- A response under way, innermost. -/
def Server.push (s : Server) (serve : Serve) : Server :=
  { s with core := { s.core with table := s.core.table.setServing serve.slot }, stack := serve :: s.stack }

/-- Another state of the innermost response. -/
def Server.setTop (s : Server) (staged : Option (List UInt8)) (body : List UInt8) : Server :=
  match s.stack with
  | [] => s
  | serve :: rest => { s with stack := { serve with staged := staged, body := body } :: rest }

/-- The answer is sent, or, if it has a body, left to the body writer. A HEADERS
    frame that is not too long waits for the first DATA frame. -/
def Server.respond (s : Server) (streamId : Nat) : Answer → Server
  | .status code => (s.replyStatus streamId code).finish
  | .headers r => match s.writeHeaders r streamId flagEndStream with
    | (s,true) => s.finish
    | (s,false) => s.abort
  | .body r => match headersFrame r streamId 0 with
    | none => s.abort
    | some f =>
      if f.encode.length ≤ headersStageMax then s.setTop (some f.payload) r.body
      else match s.send f with
        | (s,true) => s.setTop none r.body
        | (s,false) => s.abort

def Server.processRequest (files : List EmbeddedFile) (s : Server) (streamId slot : Nat) : Server :=
  let s := (s.emit (.serve s.core s.serving streamId slot)).push ⟨streamId,slot,none,[]⟩
  s.respond streamId (answer files s.core.req)

/-- Serve the stream of a frame, if its request is complete and not being served. -/
def Server.hook (files : List EmbeddedFile) (s : Server) (streamId : Nat) : Server :=
  if streamId = 0 then s
  else match h2StreamFind s.core.table streamId with
    | none => s
    | some slot =>
      if (s.core.table.streams slot).state = .halfClosedRemote ∧ (s.core.table.streams slot).serving = false then
        s.processRequest files streamId slot
      else s

/-! ### Frames received -/

/-- The errors that concern a stream alone. -/
def H2Error.isStream (e : H2Error) : Bool := e = .streamClosed ∨ e = .refusedStream

def Server.dispatch (s : Server) (hdr : FrameHeader) (payload : Mem) : Server × Option H2Error :=
  let outcome := h2DispatchFrame s.core hdr payload
  let s := Server.emit { s with core := outcome.core } (.frame s.core s.serving hdr payload)
  (s.sendAll outcome.replies,outcome.error)

/-- Move the octets not parsed yet to the front of the buffer. -/
def Server.compact (s : Server) : Server :=
  if s.count = 0 then s else { s with buf := memcpy s.buf 0 s.cursor s.count, cursor := 0 }

/-- Have `n` octets at the cursor. -/
def Server.fill (s : Server) (n : Nat) : Server × Bool :=
  if n ≤ s.count then (s,true)
  else
    let s := s.compact
    match s.transport.readExact (n - s.count) with
    | (t,none) => ({ s with transport := t },false)
    | (t,some bytes) =>
      ({ s with
          transport := t
          buf := blit s.buf s.count (ofBytes bytes) bytes.length
          count := n
          cursor := 0 },true)

def Server.consume (s : Server) (n : Nat) : Server := { s with cursor := s.cursor + n, count := s.count - n }

def Server.goaway (s : Server) (e : H2Error) : Server := (s.send (h2SendGoaway s.core.conn e)).1

def Server.reset (s : Server) (streamId : Nat) (e : H2Error) : Server := (s.send (h2SendRstStream streamId e)).1

/-- A turn of the frame loop. -/
def Server.connectionTurn (files : List EmbeddedFile) (s : Server) : Server :=
  match s.fill wireHeaderLen with
  | (s,false) => s.close
  | (s,true) =>
    let hdr := h2ParseFrameHeader (shift s.buf s.cursor)
    let s := s.consume wireHeaderLen
    match h2ValidateFrame hdr s.core.conn with
    | .error e => ((s.emit (.refused s.core s.serving hdr)).goaway e).close
    | .ok () => match s.fill hdr.length with
      | (s,false) => s.close
      | (s,true) => match s.dispatch hdr (shift s.buf s.cursor) with
        | (s,none) => (s.consume hdr.length).hook files hdr.streamId
        | (s,some e) =>
          let s := s.consume hdr.length
          if e.isStream then if hdr.streamId = 0 then s.close else s.reset hdr.streamId e
          else (s.goaway e).close

/-! ### The body writer -/

/-- The next chunk: bounded by the frame size, by both windows and by what is left.
    A negative window is no credit. -/
def chunkLength (c : Core) (serve : Serve) : Nat :=
  min (min (min defaultMaxFrameSize c.conn.window) (c.table.streams serve.slot).window.toInt.toNat) serve.body.length

/-- Both windows charged with the octets sent. -/
def Core.charge (c : Core) (slot n : Nat) : Core :=
  { c with
    conn := { c.conn with window := c.conn.window - n }
    table := c.table.modify slot fun s => { s with window := s.window - BitVec.ofNat 64 n } }

/-- The frame of a chunk; the last one ends the stream. -/
def dataFrame (serve : Serve) (chunk : Nat) : OutFrame :=
  ⟨frameData,if chunk = serve.body.length then flagEndStream else 0,serve.streamId,serve.body.take chunk⟩

/-- The HEADERS frame that was waiting is gone. -/
def Server.emitStaged (s : Server) (serve : Serve) : Server :=
  match serve.staged with
  | none => s
  | some block => s.emit (.sent (serve.headers block) true)

/-- A chunk is gone, and charged. -/
def Server.emitChunk (s : Server) (serve : Serve) (chunk : Nat) : Server :=
  let core := s.core.charge serve.slot chunk
  { s.emit (.data s.core core (dataFrame serve chunk)) with core := core }

/-- Send a chunk, behind the HEADERS frame if that is still waiting. -/
def Server.sendChunk (s : Server) (serve : Serve) (chunk : Nat) : Server :=
  let f := dataFrame serve chunk
  let waiting := (serve.staged.map fun block => (serve.headers block).encode).getD []
  match s.transport.writev (waiting ++ f.wireHeader) f.payload with
  | (t,false) => Server.abort { s with transport := t }
  | (t,true) =>
    let s := (Server.emitStaged { s with transport := t } serve).emitChunk serve chunk
    let rest := serve.body.drop chunk
    if rest = [] then s.finish else s.setTop none rest

/-- The carry flag with which the body writer returns an error of a handler: it
    comes from the comparison of the error with REFUSED_STREAM. -/
def carrySet (e : H2Error) : Bool := H2Error.refusedStream.code ≤ e.code

/-- A read of the body writer. -/
def Server.waitRead (s : Server) (n : Nat) : Server × Bool :=
  match s.transport.readExact n with
  | (t,none) => ({ s with transport := t },false)
  | (t,some bytes) => ({ s with transport := t, waitBuf := blit s.waitBuf 0 (ofBytes bytes) n },true)

/-- A read of the body writer has failed, in a frame that started at `before`. -/
def Server.waitLost (s : Server) (before : Transport) : Server :=
  let left := s.transport.incoming.length
  s.emit (.waitFailed (before.incoming.length - left) left)

/-- A frame read by the body writer. An error of the connection ends the response;
    it is a failed one only if the carry flag says so. -/
def Server.waitFrame (files : List EmbeddedFile) (s : Server) : Server :=
  let before := s.transport
  match s.waitRead wireHeaderLen with
  | (s,false) => (s.waitLost before).abort
  | (s,true) =>
    let hdr := h2ParseFrameHeader s.waitBuf
    match h2ValidateFrame hdr s.core.conn with
    | .error _ => (s.emit (.refused s.core s.serving hdr)).abort
    | .ok () => match s.waitRead hdr.length with
      | (s,false) => (s.waitLost before).abort
      | (s,true) => match s.dispatch hdr s.waitBuf with
        | (s,none) => s.hook files hdr.streamId
        | (s,some e) =>
          if e.isStream then if hdr.streamId = 0 then s else s.reset hdr.streamId e
          else if carrySet e then s.abort
          else s.finish

/-- Out of credit: the HEADERS frame goes out if it is still waiting, and a frame is
    read. -/
def Server.waitTurn (files : List EmbeddedFile) (s : Server) (serve : Serve) : Server :=
  match serve.staged with
  | none => Server.waitFrame files (s.emit (.waiting s.count))
  | some block => match s.send (serve.headers block) with
    | (s,false) => s.abort
    | (s,true) =>
      let s := s.setTop none serve.body
      Server.waitFrame files (s.emit (.waiting s.count))

/-- A turn of the body writer. -/
def Server.bodyTurn (files : List EmbeddedFile) (s : Server) (serve : Serve) : Server :=
  let chunk := chunkLength s.core serve
  if chunk = 0 ∧ serve.body ≠ [] then s.waitTurn files serve else s.sendChunk serve chunk

/-! ### Runs -/

def Server.step (files : List EmbeddedFile) (s : Server) : Server :=
  if s.halted then s
  else match s.stack with
    | [] => s.connectionTurn files
    | serve :: _ => s.bodyTurn files serve

def run (files : List EmbeddedFile) (s : Server) (n : Nat) : Server := (Server.step files)^[n] s

/-- `h2_conn` on a new connection. -/
def Conn.fresh : Conn where
  lastFrameType := 0
  maxRxFrameSize := defaultMaxFrameSize
  headerTableSize := 4096
  enablePush := 1
  maxConcurrentStreams := 2^64 - 1
  initialWindowSize := defaultInitialWindowSize
  maxFrameSize := defaultMaxFrameSize
  maxHeaderListSize := 2^64 - 1
  ackReceived := false
  lastStreamId := 0
  window := defaultInitialWindowSize
  goawayReceived := false
  goawayLastStreamId := 0

/-- A stream table without streams. -/
def Table.empty : Table := ⟨fun _ => 0,fun _ => false,fun _ => false,fun _ => ⟨0,.idle,0,false,0⟩⟩

/-- The state of a new connection. The request record and the buffers are left as
    the connection before it left them. -/
def Core.reset (previous : Core) : Core where
  conn := Conn.fresh
  table := Table.empty
  hpack := { previous.hpack with dyn := h2HpackDynReset previous.hpack.dyn }
  req := previous.req

/-- `h2_preface`. -/
def h2Preface : List UInt8 := Hpack.ascii "PRI * HTTP/2.0\r\n\r\nSM\r\n\r\n"

/-- `H2_PREFACE_LEN`. -/
def prefaceLen : Nat := 24

/-- What a connection starts from: what the connection before it left, the octets
    read before it was known to be HTTP/2, and what the socket will do. -/
structure Entry where
  previous : Core
  buf : Mem
  buffered : Nat
  waitBuf : Mem
  reads : List ReadEvent
  writes : List WriteEvent

def Entry.server (e : Entry) : Server where
  core := e.previous.reset
  buf := e.buf
  cursor := 0
  count := e.buffered
  waitBuf := e.waitBuf
  transport := ⟨e.reads,e.writes,[],[],[]⟩
  stack := []
  halted := false
  log := []

/-- The connection loop up to its first turn: the preface, and the SETTINGS frame. -/
def h2ConnectionLoop (e : Entry) : Server :=
  match e.server.fill prefaceLen with
  | (s,false) => s.close
  | (s,true) =>
    if slice s.buf 0 prefaceLen = h2Preface then
      match Server.send { (s.consume prefaceLen).compact with cursor := 0 } h2SettingsFrame with
      | (s,false) => s.close
      | (s,true) => s
    else s.close

/-! ### A client to try -/

/-- A site of one page. -/
def welcomeSite : List EmbeddedFile := [⟨Hpack.ascii "www/index.html",Hpack.ascii "hi",Hpack.ascii "text/html",false⟩]

/-- What a process starts with. -/
def Core.initial : Core where
  conn := Conn.fresh
  table := Table.empty
  hpack := ⟨⟨4096,0,0,0,0,fun _ => ⟨0,0⟩,fun _ => 0⟩,fun _ => 0,0⟩
  req := ⟨.get,0,0,false,0,false,false,0,false,fun _ => 0,fun _ => 0,fun _ => 0,fun _ => 0⟩

/-- The first connection of a process, whose client has sent the preface, sends these
    octets at once and takes everything it is sent. -/
def Entry.client (octets : List UInt8) : Entry where
  previous := Core.initial
  buf := ofBytes h2Preface
  buffered := prefaceLen
  waitBuf := fun _ => 0
  reads := match octets with
    | [] => []
    | first :: rest => [.data first rest]
  writes := List.replicate 64 (.accepted writeStageSize)

/-- A request for the page, with nothing to follow. -/
def getIndex (streamId : Nat) : OutFrame := ⟨frameHeaders,flagEndStream + flagEndHeaders,streamId,[0x82,0x84]⟩

/-- A SETTINGS frame that leaves new streams without credit. -/
def noCredit : OutFrame := ⟨frameSettings,0,0,octets 2 settingsInitialWindowSize ++ octets 4 0⟩

end Sarm.H2
