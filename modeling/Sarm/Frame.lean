import Sarm.Memory
import Sarm.StreamTable

/-!
Frames on the wire: the parsed 9-octet header, its length check, and the frames
the server sends.
-/
namespace Sarm.H2
open Sarm.Memory

/-- `H2_WIRE_HEADER_LEN`. -/
def wireHeaderLen : Nat := 9
/-- `H2_MAX_FRAME_SIZE`. -/
def maxFrameSize : Nat := 2^24 - 1
/-- `H2_DEFAULT_MAX_FRAME_SIZE`. -/
def defaultMaxFrameSize : Nat := 16384
/-- `H2_DEFAULT_INITIAL_WINDOW_SIZE`. -/
def defaultInitialWindowSize : Nat := 65535
/-- `H2_MAX_FLOW_WINDOW`. -/
def maxFlowWindow : Nat := 2^31 - 1

/-! Frame types. -/
def frameData : Nat := 0
def frameHeaders : Nat := 1
def framePriority : Nat := 2
def frameRstStream : Nat := 3
def frameSettings : Nat := 4
def framePushPromise : Nat := 5
def framePing : Nat := 6
def frameGoaway : Nat := 7
def frameWindowUpdate : Nat := 8
def frameContinuation : Nat := 9

/-! Frame flags. -/
def flagAck : Nat := 0x1
def flagEndStream : Nat := 0x1
def flagEndHeaders : Nat := 0x4
def flagPadded : Nat := 0x8
def flagPriority : Nat := 0x20

/-- `tst flags, flag`. -/
def hasFlag (flags flag : Nat) : Bool := flags &&& flag ≠ 0

/-- `h2_frame_header`. -/
structure FrameHeader where
  length : Nat
  type : Nat
  flags : Nat
  streamId : Nat
  deriving DecidableEq, Repr

/-- The `n` octets at `off` as a big-endian number. -/
def bigEndian (m : Mem) (off n : Nat) : Nat := (slice m off n).foldl (fun v octet => 256 * v + octet.toNat) 0

def h2ParseFrameHeader (m : Mem) : FrameHeader where
  length := bigEndian m 0 3
  type := (m 3).toNat
  flags := (m 4).toNat
  streamId := bigEndian m 5 4 % 2^31

/-- Too long for the wire, or for what the server accepts. -/
def h2ValidateFrame (hdr : FrameHeader) (c : Conn) : Except H2Error Unit :=
  if maxFrameSize < hdr.length ∨ c.maxRxFrameSize < hdr.length then .error .frameSizeError else .ok ()

/-! ### Frames in a stream -/

/-- The first frame of a stream, if it is there whole: its header, its payload, and
    what follows it. -/
def frameSplit (stream : List UInt8) : Option (FrameHeader × List UInt8 × List UInt8) :=
  let hdr := h2ParseFrameHeader (ofBytes stream)
  if stream.length < wireHeaderLen + hdr.length then none
  else some (hdr,(stream.drop wireHeaderLen).take hdr.length,stream.drop (wireHeaderLen + hdr.length))

/-- Frame after frame. A frame is at least 9 octets, so the recursion may be on a
    number that is not less than theirs. -/
def parseLoop : Nat → List UInt8 → List (FrameHeader × List UInt8)
  | 0, _ => []
  | n+1, stream => match frameSplit stream with
    | none => []
    | some (hdr,payload,rest) => (hdr,payload) :: parseLoop n rest

/-- The frames of a stream in order, up to the first that is not whole. -/
def parseFrames (stream : List UInt8) : List (FrameHeader × List UInt8) := parseLoop stream.length stream

/-! ### Frames sent -/

def H2Error.code : H2Error → Nat
  | .noError => 0
  | .protocolError => 1
  | .internalError => 2
  | .flowControlError => 3
  | .settingsTimeout => 4
  | .streamClosed => 5
  | .frameSizeError => 6
  | .refusedStream => 7
  | .cancel => 8
  | .compressionError => 9
  | .connectError => 10
  | .enhanceYourCalm => 11
  | .inadequateSecurity => 12
  | .http11Required => 13

/-- `n` octets of a number, big-endian. -/
def octets : Nat → Nat → List UInt8
  | 0, _ => []
  | n+1, v => octets n (v / 256) ++ [UInt8.ofNat (v % 256)]

/-- A frame the server sends. -/
structure OutFrame where
  type : Nat
  flags : Nat
  streamId : Nat
  payload : List UInt8
  deriving DecidableEq, Repr

/-- The 9 octets in front of the payload. -/
def OutFrame.wireHeader (f : OutFrame) : List UInt8 :=
  octets 3 f.payload.length ++ octets 1 f.type ++ octets 1 f.flags ++ octets 4 f.streamId

def OutFrame.encode (f : OutFrame) : List UInt8 := f.wireHeader ++ f.payload

/-- The frame of `h2_send_goaway`. -/
def h2SendGoaway (c : Conn) (error : H2Error) : OutFrame :=
  ⟨frameGoaway,0,0,octets 4 c.lastStreamId ++ octets 4 error.code⟩

/-- The frame of `h2_send_rst_stream`. -/
def h2SendRstStream (streamId : Nat) (error : H2Error) : OutFrame :=
  ⟨frameRstStream,0,streamId,octets 4 error.code⟩

/-- The frame of `h2_send_settings`: the header table size and the number of
    concurrent streams. -/
def h2SettingsFrame : OutFrame :=
  ⟨frameSettings,0,0,octets 2 1 ++ octets 4 4096 ++ octets 2 3 ++ octets 4 maxConcurrent⟩

/-- The reply to a SETTINGS frame. -/
def settingsAck : OutFrame := ⟨frameSettings,flagAck,0,[]⟩

/-- The reply to a PING frame: the same 8 octets. -/
def pingAck (payload : Mem) : OutFrame := ⟨framePing,flagAck,0,slice payload 0 8⟩

/-! ### Sizes -/

/-- The header is that of the 9 octets, wherever they are. -/
theorem parse_octets (m : Mem) : h2ParseFrameHeader m = h2ParseFrameHeader (ofBytes (slice m 0 wireHeaderLen)) := by
  have octet : ∀ i < wireHeaderLen, ofBytes (slice m 0 wireHeaderLen) i = m i := by
    intro i inside
    rw [ofBytes_slice inside,Nat.zero_add]
  have number : ∀ off n, off + n ≤ wireHeaderLen →
      bigEndian (ofBytes (slice m 0 wireHeaderLen)) off n = bigEndian m off n := by
    intro off n inside
    rw [bigEndian,bigEndian,slice_congr (fun i small => octet (off + i) (by omega))]
  rw [h2ParseFrameHeader,h2ParseFrameHeader,number 0 3 (by decide),number 5 4 (by decide),octet 3 (by decide),
    octet 4 (by decide)]

/-! ### The first frame of a stream -/

theorem parse_append {header : List UInt8} (length : header.length = wireHeaderLen) (rest : List UInt8) :
    h2ParseFrameHeader (ofBytes (header ++ rest)) = h2ParseFrameHeader (ofBytes header) := by
  rw [parse_octets,← length,slice_ofBytes_append]

/-- Less than a header. -/
theorem frameSplit_header {stream : List UInt8} (few : stream.length < wireHeaderLen) : frameSplit stream = none :=
  if_pos (Nat.lt_add_right _ few)

/-- A header and less than its payload. -/
theorem frameSplit_payload {header payload : List UInt8} (length : header.length = wireHeaderLen)
    (few : payload.length < (h2ParseFrameHeader (ofBytes header)).length) : frameSplit (header ++ payload) = none := by
  rw [frameSplit,parse_append length]
  exact if_pos (by rw [List.length_append,length]; omega)

/-- A whole frame and what follows it. -/
theorem frameSplit_whole {header payload : List UInt8} (rest : List UInt8) (length : header.length = wireHeaderLen)
    (whole : payload.length = (h2ParseFrameHeader (ofBytes header)).length) :
    frameSplit (header ++ payload ++ rest) = some (h2ParseFrameHeader (ofBytes header),payload,rest) := by
  rw [frameSplit,List.append_assoc,parse_append length]
  have consumed : (header ++ payload).length = wireHeaderLen + (h2ParseFrameHeader (ofBytes header)).length := by
    rw [List.length_append,length,whole]
  have after : (header ++ payload ++ rest).drop (wireHeaderLen + (h2ParseFrameHeader (ofBytes header)).length) = rest :=
    List.drop_left' consumed
  rw [List.append_assoc] at after
  rw [if_neg (by simp only [List.length_append,length,whole]; omega),List.drop_left' length,List.take_left' whole,after]

theorem frameSplit_shorter {stream payload rest : List UInt8} {hdr : FrameHeader}
    (split : frameSplit stream = some (hdr,payload,rest)) : rest.length < stream.length := by
  rw [frameSplit] at split
  split at split
  · contradiction
  · next whole =>
    cases split
    have header : 0 < wireHeaderLen := by decide
    rw [List.length_drop]
    omega

theorem parseLoop_enough :
    ∀ (n : Nat) (stream : List UInt8), stream.length ≤ n → parseLoop n stream = parseFrames stream := by
  have same : ∀ (n m : Nat) (stream : List UInt8), stream.length ≤ n → stream.length ≤ m →
      parseLoop n stream = parseLoop m stream := by
    intro n
    induction n with
    | zero =>
      intro m stream enough _
      have none : frameSplit stream = none := frameSplit_header (Nat.lt_of_le_of_lt enough (by decide))
      cases m with
      | zero => rfl
      | succ m => simp [parseLoop,none]
    | succ n ih =>
      intro m stream enough enough'
      cases m with
      | zero =>
        have none : frameSplit stream = none := frameSplit_header (Nat.lt_of_le_of_lt enough' (by decide))
        simp [parseLoop,none]
      | succ m =>
        rw [parseLoop,parseLoop]
        cases split : frameSplit stream with
        | none => rfl
        | some frame =>
          obtain ⟨hdr,payload,rest⟩ := frame
          have shorter := frameSplit_shorter split
          simp only
          rw [ih m rest (by omega) (by omega)]
  intro n stream enough
  exact same n _ stream enough (Nat.le_refl _)

/-- No whole frame. -/
theorem parseFrames_none {stream : List UInt8} (partly : frameSplit stream = none) : parseFrames stream = [] := by
  rw [← parseLoop_enough (stream.length + 1) stream (Nat.le_succ _),parseLoop,partly]

theorem parseFrames_some {stream payload rest : List UInt8} {hdr : FrameHeader}
    (split : frameSplit stream = some (hdr,payload,rest)) : parseFrames stream = (hdr,payload) :: parseFrames rest := by
  have shorter := frameSplit_shorter split
  rw [← parseLoop_enough (stream.length + 1) stream (Nat.le_succ _),parseLoop,split]
  simp only
  rw [parseLoop_enough _ rest (by omega)]

theorem parse_streamId_lt (m : Mem) : (h2ParseFrameHeader m).streamId < 2^31 := Nat.mod_lt _ (by decide)

@[simp] theorem octets_length (n v : Nat) : (octets n v).length = n := by
  induction n generalizing v with
  | zero => rfl
  | succ n ih => simp [octets,ih]

end Sarm.H2
