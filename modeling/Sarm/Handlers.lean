import Sarm.Frame
import Sarm.Request

/-!
The frame handlers. A handler changes the state of the connection, says which
frames it replies with, and may reject the frame; what it changed before it
rejected the frame stays.
-/
namespace Sarm.H2
open Sarm.Memory
open Sarm.Hpack (HpackState h2HpackDecodeBlock)

/-! ### Constants -/

/-- `H2_SETTINGS_ENTRY_LEN`. -/
def settingsEntryLen : Nat := 6
/-- `H2_PRIORITY_FIELD_LEN`. -/
def priorityFieldLen : Nat := 5

/-! Identifiers of settings. -/
def settingsHeaderTableSize : Nat := 1
def settingsEnablePush : Nat := 2
def settingsMaxConcurrentStreams : Nat := 3
def settingsInitialWindowSize : Nat := 4
def settingsMaxFrameSize : Nat := 5
def settingsMaxHeaderListSize : Nat := 6

/-- The state of a connection that its frames change: `h2_conn`, the stream table,
    the HPACK decoder and the request record. -/
structure Core where
  conn : Conn
  table : Table
  hpack : HpackState
  req : Request

/-- What has become of a frame. -/
structure Outcome where
  core : Core
  replies : List OutFrame
  error : Option H2Error

def Core.done (c : Core) : Outcome := ⟨c,[],none⟩

def Core.replies (c : Core) (frame : OutFrame) : Outcome := ⟨c,[frame],none⟩

def Core.fails (c : Core) (error : H2Error) : Outcome := ⟨c,[],some error⟩

/-! ### HEADERS and DATA -/

/-- The streams that count against the limit. -/
def openStreams (t : Table) : Nat :=
  (slots.filter fun i => (t.streams i).state ≠ .idle ∧ (t.streams i).state ≠ .closed).length

/-- The entry of the stream a HEADERS frame is for. Only a new stream is held
    against the limit, and refused once the client is going away. -/
def admitStream (c : Core) (hdr : FrameHeader) : Except H2Error (Nat × Table × Conn) :=
  match h2ValidateStreamId c.table c.conn hdr.streamId with
  | .error e => .error e
  | .ok (some _) => h2StreamCreate c.table c.conn hdr.streamId
  | .ok none =>
    if c.conn.goawayReceived then .error .refusedStream
    else if maxConcurrent ≤ openStreams c.table then .error .enhanceYourCalm
    else h2StreamCreate c.table c.conn hdr.streamId

/-- The padding of a payload: where what it encloses starts, and its length. -/
def stripPadding (hdr : FrameHeader) (payload : Mem) : Except H2Error (Nat × Nat) :=
  if hasFlag hdr.flags flagPadded then
    if hdr.length = 0 then .error .frameSizeError
    else if hdr.length - 1 < (payload 0).toNat then .error .protocolError
    else .ok (1,hdr.length - 1 - (payload 0).toNat)
  else .ok (0,hdr.length)

/-- The header block fragment: what padding and priority leave of the payload. -/
def blockFragment (hdr : FrameHeader) (payload : Mem) : Except H2Error (Nat × Nat) :=
  match stripPadding hdr payload with
  | .error e => .error e
  | .ok (off,len) =>
    if hasFlag hdr.flags flagPriority then
      if len < priorityFieldLen then .error .frameSizeError
      else .ok (off + priorityFieldLen,len - priorityFieldLen)
    else .ok (off,len)

/-- END_STREAM closes the client's side. -/
def Core.endStream (c : Core) (hdr : FrameHeader) (slot : Nat) : Outcome :=
  if hasFlag hdr.flags flagEndStream then
    match h2StreamEvent c.table slot .recvEndStream with
    | .error e => c.fails e
    | .ok table => { c with table := table }.done
  else c.done

/-- Decode the block and build the request from its fields. -/
def Core.receiveBlock (c : Core) (streamId : Nat) (block : Mem) (len : Nat) : Core × Option H2Error :=
  match h2HpackDecodeBlock block len c.hpack with
  | .error _ hpack => ({ c with hpack := hpack },some .compressionError)
  | .ok fields hpack => match h2BuildRequest (hpack.at block) streamId fields c.req with
    | (req,true) => ({ c with hpack := hpack, req := req },none)
    | (req,false) => ({ c with hpack := hpack, req := req },some .protocolError)

/-- The frame's flags replace the whole word of the entry. -/
def Table.setFlags (t : Table) (slot flags : Nat) : Table :=
  t.modify slot fun s => { s with flags := flags, serving := false }

/-- A HEADERS frame whose stream has its entry. -/
def Core.enterHeaders (c : Core) (hdr : FrameHeader) (payload : Mem) (slot : Nat) : Outcome :=
  match h2StreamEvent c.table slot .recvHeaders with
  | .error e => c.fails e
  | .ok table =>
    let c := { c with table := table.setFlags slot hdr.flags }
    match blockFragment hdr payload with
    | .error e => c.fails e
    | .ok (off,len) => match c.receiveBlock hdr.streamId (shift payload off) len with
      | (c,some e) => c.fails e
      | (c,none) => c.endStream hdr slot

def h2HandleHeaders (c : Core) (hdr : FrameHeader) (payload : Mem) : Outcome :=
  match admitStream c hdr with
  | .error e => c.fails e
  | .ok (slot,table,conn) => Core.enterHeaders { c with table := table, conn := conn } hdr payload slot

def h2HandleData (c : Core) (hdr : FrameHeader) (_payload : Mem) : Outcome :=
  match h2StreamFind c.table hdr.streamId with
  | none => c.fails .protocolError
  | some slot => match h2StreamEvent c.table slot .recvData with
    | .error e => c.fails e
    | .ok table => Core.endStream { c with table := table } hdr slot

def h2HandleRstStream (c : Core) (hdr : FrameHeader) (_payload : Mem) : Outcome :=
  if hdr.length ≠ 4 then c.fails .frameSizeError
  else if hdr.streamId = 0 ∨ hdr.streamId % 2 = 0 then c.fails .protocolError
  else match h2StreamFind c.table hdr.streamId with
    | none => c.fails .protocolError
    | some slot => match h2StreamEvent c.table slot .recvRstStream with
      | .error e => c.fails e
      | .ok table => { c with table := table }.done

/-! ### SETTINGS and WINDOW_UPDATE -/

/-- Shift the send windows of the streams in the given slots, free and closed ones
    excepted. A window shifted too far ends it there. -/
def shiftWindows (delta : BitVec 64) : List Nat → Table → Table × Bool
  | [], t => (t,true)
  | i :: rest, t =>
    if (t.streams i).streamId = 0 ∨ (t.streams i).state = .closed then shiftWindows delta rest t
    else
      let window := (t.streams i).window + delta
      if (maxFlowWindow : Int) < window.toInt then (t,false)
      else shiftWindows delta rest (t.modify i fun s => { s with window := window })

/-- A new initial window size, which shifts the windows by the difference. -/
def Core.setInitialWindow (c : Core) (value : Nat) : Core × Option H2Error :=
  if 2^31 ≤ value then (c,some .flowControlError)
  else
    let delta := BitVec.ofNat 64 value - BitVec.ofNat 64 c.conn.initialWindowSize
    let c := { c with conn := { c.conn with initialWindowSize := value } }
    if delta = 0 then (c,none)
    else match shiftWindows delta slots c.table with
      | (table,true) => ({ c with table := table },none)
      | (table,false) => ({ c with table := table },some .flowControlError)

/-- One entry; an unknown identifier is ignored. -/
def Core.setting (c : Core) (id value : Nat) : Core × Option H2Error :=
  if id = settingsHeaderTableSize then ({ c with conn := { c.conn with headerTableSize := value } },none)
  else if id = settingsEnablePush then ({ c with conn := { c.conn with enablePush := value } },none)
  else if id = settingsMaxConcurrentStreams then
    ({ c with conn := { c.conn with maxConcurrentStreams := value } },none)
  else if id = settingsInitialWindowSize then c.setInitialWindow value
  else if id = settingsMaxFrameSize then
    if value < defaultMaxFrameSize ∨ maxFrameSize < value then (c,some .protocolError)
    else ({ c with conn := { c.conn with maxFrameSize := value } },none)
  else if id = settingsMaxHeaderListSize then ({ c with conn := { c.conn with maxHeaderListSize := value } },none)
  else (c,none)

/-- The entries from `off` on. The recursion is on their number. -/
def settingsLoop (payload : Mem) : Nat → Nat → Core → Core × Option H2Error
  | 0, _, c => (c,none)
  | count+1, off, c => match c.setting (bigEndian payload off 2) (bigEndian payload (off + 2) 4) with
    | (c,some e) => (c,some e)
    | (c,none) => settingsLoop payload count (off + settingsEntryLen) c

def h2HandleSettings (c : Core) (hdr : FrameHeader) (payload : Mem) : Outcome :=
  if hdr.streamId ≠ 0 then c.fails .protocolError
  else if hasFlag hdr.flags flagAck then
    if hdr.length ≠ 0 then c.fails .frameSizeError
    else { c with conn := { c.conn with ackReceived := true } }.done
  else if hdr.length % settingsEntryLen ≠ 0 then c.fails .frameSizeError
  else match settingsLoop payload (hdr.length / settingsEntryLen) 0 c with
    | (c,some e) => c.fails e
    | (c,none) => c.replies settingsAck

/-- The 31-bit increment of a WINDOW_UPDATE. -/
def windowIncrement (payload : Mem) : Nat := bigEndian payload 0 4 % 2^31

def h2HandleWindowUpdate (c : Core) (hdr : FrameHeader) (payload : Mem) : Outcome :=
  let increment := windowIncrement payload
  if hdr.length ≠ 4 then c.fails .frameSizeError
  else if increment = 0 then c.fails .protocolError
  else if hdr.streamId = 0 then
    if maxFlowWindow < c.conn.window + increment then c.fails .flowControlError
    else { c with conn := { c.conn with window := c.conn.window + increment } }.done
  else match h2StreamFind c.table hdr.streamId with
    | none => if c.conn.lastStreamId < hdr.streamId then c.fails .protocolError else c.done
    | some slot =>
      if (c.table.streams slot).state = .closed then c.done
      else
        let window := (c.table.streams slot).window + BitVec.ofNat 64 increment
        if maxFlowWindow < window.toNat then c.fails .flowControlError
        else { c with table := c.table.modify slot fun s => { s with window := window } }.done

/-! ### The other frames -/

def h2HandlePing (c : Core) (hdr : FrameHeader) (payload : Mem) : Outcome :=
  if hdr.length ≠ 8 then c.fails .frameSizeError
  else if hdr.streamId ≠ 0 then c.fails .protocolError
  else if hasFlag hdr.flags flagAck then c.done
  else c.replies (pingAck payload)

def h2HandleGoaway (c : Core) (hdr : FrameHeader) (payload : Mem) : Outcome :=
  if hdr.streamId ≠ 0 then c.fails .protocolError
  else if hdr.length < 8 then c.fails .frameSizeError
  else
    let conn := { c.conn with goawayLastStreamId := bigEndian payload 0 4 % 2^31, goawayReceived := true }
    { c with conn := conn }.replies (h2SendGoaway conn .noError)

def h2HandlePriority (c : Core) (_hdr : FrameHeader) (_payload : Mem) : Outcome := c.done
def h2HandlePushPromise (c : Core) (_hdr : FrameHeader) (_payload : Mem) : Outcome := c.done
def h2HandleContinuation (c : Core) (_hdr : FrameHeader) (_payload : Mem) : Outcome := c.done

/-- `h2_frame_handlers`. -/
def frameHandlers : List (Core → FrameHeader → Mem → Outcome) :=
  [h2HandleData,h2HandleHeaders,h2HandlePriority,h2HandleRstStream,h2HandleSettings,h2HandlePushPromise,h2HandlePing,
    h2HandleGoaway,h2HandleWindowUpdate,h2HandleContinuation]

/-- An unknown type is ignored. -/
def h2DispatchFrame (c : Core) (hdr : FrameHeader) (payload : Mem) : Outcome :=
  match frameHandlers[hdr.type]? with
  | none => c.done
  | some handler => handler { c with conn := { c.conn with lastFrameType := hdr.type } } hdr payload

/-! ### Which handler has a frame -/

/-- The frame goes to the handler of its type, or is passed over. -/
inductive Handled (c : Core) (hdr : FrameHeader) (payload : Mem) : Outcome → Prop where
  | data (type : hdr.type = frameData) : Handled c hdr payload (h2HandleData c hdr payload)
  | headers (type : hdr.type = frameHeaders) : Handled c hdr payload (h2HandleHeaders c hdr payload)
  | rstStream (type : hdr.type = frameRstStream) : Handled c hdr payload (h2HandleRstStream c hdr payload)
  | settings (type : hdr.type = frameSettings) : Handled c hdr payload (h2HandleSettings c hdr payload)
  | ping (type : hdr.type = framePing) : Handled c hdr payload (h2HandlePing c hdr payload)
  | goaway (type : hdr.type = frameGoaway) : Handled c hdr payload (h2HandleGoaway c hdr payload)
  | windowUpdate (type : hdr.type = frameWindowUpdate) : Handled c hdr payload (h2HandleWindowUpdate c hdr payload)
  | passed (headers : hdr.type ≠ frameHeaders) (rst : hdr.type ≠ frameRstStream)
      (update : hdr.type ≠ frameWindowUpdate) : Handled c hdr payload c.done

/-- The state with the type of a frame noted. -/
def Core.noted (c : Core) (type : Nat) : Core := { c with conn := { c.conn with lastFrameType := type } }

theorem dispatch_handled (c : Core) (hdr : FrameHeader) (payload : Mem) :
    ∃ type, Handled (c.noted type) hdr payload (h2DispatchFrame c hdr payload) := by
  rw [h2DispatchFrame]
  match type : hdr.type with
  | 0 => exact ⟨0,.data type⟩
  | 1 => exact ⟨1,.headers type⟩
  | 2 => exact ⟨2,.passed (by rw [type]; decide) (by rw [type]; decide) (by rw [type]; decide)⟩
  | 3 => exact ⟨3,.rstStream type⟩
  | 4 => exact ⟨4,.settings type⟩
  | 5 => exact ⟨5,.passed (by rw [type]; decide) (by rw [type]; decide) (by rw [type]; decide)⟩
  | 6 => exact ⟨6,.ping type⟩
  | 7 => exact ⟨7,.goaway type⟩
  | 8 => exact ⟨8,.windowUpdate type⟩
  | 9 => exact ⟨9,.passed (by rw [type]; decide) (by rw [type]; decide) (by rw [type]; decide)⟩
  | n+10 =>
    have unknown : frameHandlers[n+10]? = none := rfl
    simp only [unknown]
    exact ⟨c.conn.lastFrameType,.passed (by simp [type,frameHeaders]) (by simp [type,frameRstStream])
      (by simp [type,frameWindowUpdate])⟩

/-- What holds of every handler's outcome holds of a dispatched frame. -/
theorem dispatch_rule {P : Outcome → Prop} {c : Core} {hdr : FrameHeader} {payload : Mem}
    (each : ∀ type outcome, Handled (c.noted type) hdr payload outcome → P outcome) :
    P (h2DispatchFrame c hdr payload) := by
  obtain ⟨type,handled⟩ := dispatch_handled c hdr payload
  exact each type _ handled

end Sarm.H2
