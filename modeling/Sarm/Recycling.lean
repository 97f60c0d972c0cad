import Sarm.Nesting

/-!
Streams whose entries have been recycled. A client may still send frames on a closed
stream; with its entry in the table they are ignored or are errors of the stream.
Three handlers answer otherwise once the entry has gone to another stream.
-/
namespace Sarm.H2
open Sarm.Memory

/-- What becomes of a frame, as far as the client can tell. -/
def treatment (c : Core) (hdr : FrameHeader) (payload : Mem) : List OutFrame × Option H2Error :=
  ((h2DispatchFrame c hdr payload).replies,(h2DispatchFrame c hdr payload).error)

/-- The same state but for one slot, which still has its former entry. -/
def Core.keeping (c : Core) (slot : Nat) (entry : Stream) : Core :=
  { c with table := {
      ids := store c.table.ids slot entry.streamId
      used := store c.table.used slot true
      closed := store c.table.closed slot (decide (entry.state = .closed))
      streams := store c.table.streams slot entry } }

/-- A frame of a known type is its handler's. -/
theorem dispatch_handler {c : Core} {hdr : FrameHeader} {handler : Core → FrameHeader → Mem → Outcome}
    (known : frameHandlers[hdr.type]? = some handler) (payload : Mem) :
    h2DispatchFrame c hdr payload = handler (c.noted hdr.type) hdr payload := by
  rw [h2DispatchFrame,known]
  rfl

theorem dispatch_unknown {c : Core} {hdr : FrameHeader} (unknown : frameHandlers[hdr.type]? = none) (payload : Mem) :
    h2DispatchFrame c hdr payload = c.done := by
  rw [h2DispatchFrame,unknown]

/-- A stream that is missing from the table is found in the slot that has kept it. -/
theorem keeping_find {c : Core} {slot id : Nat} {entry : Stream} (missing : h2StreamFind c.table id = none)
    (small : id < 2^31)
    (inside : slot < maxStreams) (own : entry.streamId = id) :
    h2StreamFind (c.keeping slot entry).table id = some slot := by
  cases found : h2StreamFind (c.keeping slot entry).table id with
  | none => exact absurd (by simp [Core.keeping,own]) (find_none found small slot inside)
  | some i =>
    obtain ⟨insideI,same,_⟩ := find_some found
    by_cases here : i = slot
    · rw [here]
    · have former : c.table.ids i = id := by simpa [Core.keeping,here] using same
      exact absurd former (find_none missing small i insideI)

/-- An event of a stream that is closed. -/
theorem keeping_event {c : Core} {slot : Nat} {entry : Stream} (closed : entry.state = .closed) (event : StreamEvent) :
    h2StreamEvent (c.keeping slot entry).table slot event =
      if event = .recvRstStream then .ok
    ((c.keeping slot entry).table.setState slot .closed) else .error .streamClosed := by
  rw [h2StreamEvent]
  have state : ((c.keeping slot entry).table.streams slot).state = .closed := by simpa [Core.keeping] using closed
  cases event <;> simp [state,transitions]

/-- A recycled stream: one of the client's, not above the highest id, that is not in
    the table; and an entry that it may have had, in a slot. -/
structure Recycled (c : Core) (id slot : Nat) (entry : Stream) : Prop where
  odd : id % 2 = 1
  last : id ≤ c.conn.lastStreamId
  missing : h2StreamFind c.table id = none
  inside : slot < maxStreams
  own : entry.streamId = id
  closed : entry.state = .closed

section
variable {c : Core} {hdr : FrameHeader} {slot : Nat} {entry : Stream}

theorem Recycled.found (recycled : Recycled c hdr.streamId slot entry) (formed : c.WellFormed) (type : Nat) :
    h2StreamFind ((c.keeping slot entry).noted type).table hdr.streamId = some slot :=
  keeping_find recycled.missing (Nat.lt_of_le_of_lt recycled.last formed.small) recycled.inside recycled.own

theorem data_recycled (recycled : Recycled c hdr.streamId slot entry) (formed : c.WellFormed) (payload : Mem)
    (type : Nat) :
    (h2HandleData (c.noted type) hdr payload).error = some .protocolError ∧
      (h2HandleData ((c.keeping slot entry).noted type) hdr payload).error = some .streamClosed := by
  constructor
  · rw [h2HandleData,show h2StreamFind (c.noted type).table hdr.streamId = none from recycled.missing]
    rfl
  · rw [h2HandleData,recycled.found formed]
    dsimp only
    rw [show ((c.keeping slot entry).noted type).table = (c.keeping slot entry).table from rfl,
      keeping_event recycled.closed]
    rfl

theorem headers_recycled (recycled : Recycled c hdr.streamId slot entry) (formed : c.WellFormed) (payload : Mem)
    (type : Nat) :
    (h2HandleHeaders (c.noted type) hdr payload).error = some .protocolError ∧
      (h2HandleHeaders ((c.keeping slot entry).noted type) hdr payload).error = some .streamClosed := by
  have proper : ¬ (hdr.streamId = 0 ∨ hdr.streamId % 2 = 0) := by
    have odd := recycled.odd
    omega
  constructor
  · have refused : admitStream (c.noted type) hdr = .error .protocolError := by
      rw [admitStream,h2ValidateStreamId,if_neg proper]
      rw [show h2StreamFind (c.noted type).table hdr.streamId = none from recycled.missing]
      dsimp only
      rw [if_pos (show hdr.streamId ≤ (c.noted type).conn.lastStreamId from recycled.last)]
    rw [h2HandleHeaders,refused]
    rfl
  · have small : ¬ 2^31 ≤ hdr.streamId := Nat.not_le.mpr (Nat.lt_of_le_of_lt recycled.last formed.small)
    have found := recycled.found formed type
    have there : slots.find? (fun i => ((c.keeping slot entry).noted type).table.ids i = hdr.streamId) = some slot := by
      rwa [h2StreamFind,if_neg small] at found
    have kept : admitStream ((c.keeping slot entry).noted type) hdr =
        .ok (slot,(c.keeping slot entry).table,((c.keeping slot entry).noted type).conn) := by
      rw [admitStream,h2ValidateStreamId,if_neg proper,found]
      dsimp only
      rw [h2StreamCreate,there]
      rfl
    rw [h2HandleHeaders,kept]
    dsimp only
    rw [Core.enterHeaders]
    dsimp only
    rw [keeping_event recycled.closed]
    rfl

theorem rst_recycled (recycled : Recycled c hdr.streamId slot entry) (formed : c.WellFormed) (payload : Mem) (type : Nat)
    (length : hdr.length = 4) :
    (h2HandleRstStream (c.noted type) hdr payload).error = some .protocolError ∧
      (h2HandleRstStream ((c.keeping slot entry).noted type) hdr payload).error = none := by
  have proper : ¬ (hdr.streamId = 0 ∨ hdr.streamId % 2 = 0) := by
    have odd := recycled.odd
    omega
  constructor
  · rw [h2HandleRstStream,if_neg (by omega),if_neg proper]
    rw [show h2StreamFind (c.noted type).table hdr.streamId = none from recycled.missing]
    rfl
  · rw [h2HandleRstStream,if_neg (by omega),if_neg proper,recycled.found formed]
    dsimp only
    rw [show ((c.keeping slot entry).noted type).table = (c.keeping slot entry).table from rfl,
      keeping_event recycled.closed]
    rfl

/-- Credit for a stream that is closed, or was, is ignored. -/
theorem update_recycled (recycled : Recycled c hdr.streamId slot entry) (formed : c.WellFormed) (payload : Mem)
    (type : Nat) :
    (h2HandleWindowUpdate (c.noted type) hdr payload).error =
        (h2HandleWindowUpdate ((c.keeping slot entry).noted type) hdr payload).error := by
  have stream : hdr.streamId ≠ 0 := by
    have odd := recycled.odd
    omega
  have old : ¬ (c.noted type).conn.lastStreamId < hdr.streamId := Nat.not_lt.mpr recycled.last
  have closed : (((c.keeping slot entry).noted type).table.streams slot).state = .closed := by
    simpa [Core.keeping,Core.noted] using recycled.closed
  rw [h2HandleWindowUpdate,h2HandleWindowUpdate]
  dsimp only
  split
  · rfl
  split
  · rfl
  have missing : h2StreamFind (c.noted type).table hdr.streamId = none := recycled.missing
  simp only [recycled.found formed,missing,if_pos closed]
  rfl

/-- The types of the frames that are not treated alike. -/
def TellsApart (hdr : FrameHeader) : Prop :=
  hdr.type = frameData ∨ hdr.type = frameHeaders ∨ (hdr.type = frameRstStream ∧ hdr.length = 4)

theorem treatment_recycled (recycled : Recycled c hdr.streamId slot entry) (formed : c.WellFormed) (payload : Mem) :
    treatment c hdr payload = treatment (c.keeping slot entry) hdr payload ↔ ¬ TellsApart hdr := by
  have odd := recycled.odd
  have stream : hdr.streamId ≠ 0 := by omega
  have differ : (h2DispatchFrame c hdr payload).error ≠ (h2DispatchFrame (c.keeping slot entry) hdr payload).error →
      treatment c hdr payload ≠ treatment (c.keeping slot entry) hdr payload :=
    fun errors same => errors (congrArg Prod.snd same)
  constructor
  · rintro same (data | headers | ⟨rst,length⟩)
    · obtain ⟨gone,kept⟩ := data_recycled recycled formed payload hdr.type
      have known : frameHandlers[hdr.type]? = some h2HandleData := by rw [data]; rfl
      refine differ ?_ same
      rw [dispatch_handler known,dispatch_handler known,gone,kept]
      decide
    · obtain ⟨gone,kept⟩ := headers_recycled recycled formed payload hdr.type
      have known : frameHandlers[hdr.type]? = some h2HandleHeaders := by rw [headers]; rfl
      refine differ ?_ same
      rw [dispatch_handler known,dispatch_handler known,gone,kept]
      decide
    · obtain ⟨gone,kept⟩ := rst_recycled recycled formed payload hdr.type length
      have known : frameHandlers[hdr.type]? = some h2HandleRstStream := by rw [rst]; rfl
      refine differ ?_ same
      rw [dispatch_handler known,dispatch_handler known,gone,kept]
      decide
  · intro alike
    rw [TellsApart,not_or,not_or] at alike
    obtain ⟨data,headers,rst⟩ := alike
    rw [treatment,treatment]
    match type : hdr.type with
    | 0 => exact absurd type data
    | 1 => exact absurd type headers
    | 2 =>
      have known : frameHandlers[hdr.type]? = some h2HandlePriority := by rw [type]; rfl
      rw [dispatch_handler known,dispatch_handler known]
      rfl
    | 3 =>
      have known : frameHandlers[hdr.type]? = some h2HandleRstStream := by rw [type]; rfl
      have length : hdr.length ≠ 4 := fun four => rst ⟨type,four⟩
      rw [dispatch_handler known,dispatch_handler known,h2HandleRstStream,h2HandleRstStream,if_pos length,if_pos length]
      rfl
    | 4 =>
      have known : frameHandlers[hdr.type]? = some h2HandleSettings := by rw [type]; rfl
      rw [dispatch_handler known,dispatch_handler known,h2HandleSettings,h2HandleSettings,if_pos stream,if_pos stream]
      rfl
    | 5 =>
      have known : frameHandlers[hdr.type]? = some h2HandlePushPromise := by rw [type]; rfl
      rw [dispatch_handler known,dispatch_handler known]
      rfl
    | 6 =>
      have known : frameHandlers[hdr.type]? = some h2HandlePing := by rw [type]; rfl
      rw [dispatch_handler known,dispatch_handler known,h2HandlePing,h2HandlePing,if_pos stream,if_pos stream]
      split <;> rfl
    | 7 =>
      have known : frameHandlers[hdr.type]? = some h2HandleGoaway := by rw [type]; rfl
      rw [dispatch_handler known,dispatch_handler known,h2HandleGoaway,h2HandleGoaway,if_pos stream,if_pos stream]
      rfl
    | 8 =>
      have known : frameHandlers[hdr.type]? = some h2HandleWindowUpdate := by rw [type]; rfl
      rw [dispatch_handler known,dispatch_handler known,update_replies,update_replies,update_recycled recycled formed]
    | 9 =>
      have known : frameHandlers[hdr.type]? = some h2HandleContinuation := by rw [type]; rfl
      rw [dispatch_handler known,dispatch_handler known]
      rfl
    | n+10 =>
      have unknown : frameHandlers[hdr.type]? = none := by rw [type]; rfl
      rw [dispatch_unknown unknown,dispatch_unknown unknown]
      rfl

end

/-- In every state of every run a frame on a recycled stream is treated as if the stream
    still had its closed entry, unless it is a DATA or HEADERS frame, or an RST_STREAM
    frame of the right length. -/
theorem recycled_alike_iff (files : List EmbeddedFile) (e : Entry) (n : Nat) {hdr : FrameHeader} (payload : Mem)
    {slot : Nat}
    {entry : Stream} (recycled : Recycled (run files (h2ConnectionLoop e) n).core hdr.streamId slot entry) :
    treatment (run files (h2ConnectionLoop e) n).core hdr payload =
        treatment ((run files (h2ConnectionLoop e) n).core.keeping slot entry) hdr payload ↔ ¬ TellsApart hdr :=
  treatment_recycled recycled (run_formed files e n).core payload

/-- Requests on the first 33 streams of a client: the last takes the entry of the
    first. -/
def manyRequests : Entry := .client ((List.range 33).flatMap fun i => (getIndex (2*i + 1)).encode)

/-- The entry of a stream that has had its answer. -/
def answered (streamId : Nat) : Stream := ⟨streamId,.closed,0,false,0⟩

/-- The header of a frame for stream 1. -/
def late (type length : Nat) : FrameHeader := ⟨length,type,0,1⟩

/-- An RST_STREAM frame for the recycled stream is an error of the connection; with the
    entry still there it is ignored. -/
theorem manyRequests_reset :
    let c := (run welcomeSite (h2ConnectionLoop manyRequests) 66).core
    (1 ≤ c.conn.lastStreamId ∧ h2StreamFind c.table 1 = none) ∧
      treatment c (late frameRstStream 4) (ofBytes (octets 4 0)) = ([],some .protocolError) ∧
      treatment (c.keeping 0 (answered 1)) (late frameRstStream 4) (ofBytes (octets 4 0)) = ([],none) := by
  decide +kernel

theorem manyRequests_recycled : Recycled (run welcomeSite (h2ConnectionLoop manyRequests) 66).core 1 0 (answered 1) :=
  ⟨by decide,manyRequests_reset.1.1,manyRequests_reset.1.2,by decide,rfl,rfl⟩

theorem recycled_alike_iff_update :
    treatment (run welcomeSite (h2ConnectionLoop manyRequests) 66).core (late frameWindowUpdate 4)
    (ofBytes (octets 4 1)) =
      treatment ((run welcomeSite (h2ConnectionLoop manyRequests) 66).core.keeping 0 (answered 1))
    (late frameWindowUpdate 4)
        (ofBytes (octets 4 1)) :=
  (recycled_alike_iff welcomeSite manyRequests 66 (ofBytes (octets 4 1)) manyRequests_recycled).mpr
    (by unfold TellsApart; decide)

theorem recycled_reset_apart :
    Recycled (run welcomeSite (h2ConnectionLoop manyRequests) 66).core 1 0 (answered 1) ∧
      treatment (run welcomeSite (h2ConnectionLoop manyRequests) 66).core (late frameRstStream 4) (ofBytes (octets 4 0)) ≠
        treatment ((run welcomeSite (h2ConnectionLoop manyRequests) 66).core.keeping 0 (answered 1))
    (late frameRstStream 4)
          (ofBytes (octets 4 0)) := by
  refine ⟨manyRequests_recycled,?_⟩
  rw [manyRequests_reset.2.1,manyRequests_reset.2.2]
  simp

end Sarm.H2
