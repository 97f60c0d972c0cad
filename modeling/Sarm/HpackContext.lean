import Sarm.Headers
import Sarm.HpackSound
import Sarm.Nesting

/-!
The header table and the client's. A HEADERS frame that its stream does not take is
answered without its block being decoded, so that the table falls behind. Where
every HEADERS frame is taken, the table is in every run the one of a decoder of
RFC 7541 that has been given the same blocks.
-/
namespace Sarm.H2
open Sarm.Memory Sarm.Trace
open Sarm.Hpack (h2HpackDecodeBlock HpackState FieldQueue Represents headerTableSize blockSteps Representation freedBy)
open Sarm.Fifo (Queue)

/-! ### The blocks received -/

/-- The header block of a HEADERS frame received, if there is one: the frame's header is
    valid, its block is whole, and padding and priority fit. -/
def Event.block : Event → Option (Option (List UInt8))
  | .frame _ _ hdr payload =>
    if hdr.type = frameHeaders then
      some (match blockFragment hdr payload with
        | .ok (off,len) => if hasFlag hdr.flags flagEndHeaders then some (slice (shift payload off) 0 len) else none
        | .error _ => none)
    else none
  | .refused _ _ hdr => if hdr.type = frameHeaders then some none else none
  | _ => none

/-- The header blocks received, in order. -/
def blocks (log : List Event) : List (Option (List UInt8)) := log.filterMap Event.block

/-- The table of a decoder of RFC 7541 behind header blocks, if every one is there and
    decodes. -/
noncomputable def tableAfter (q : FieldQueue) (blocks : List (Option (List UInt8))) : Option FieldQueue :=
  blocks.foldlM (fun q block => block.bind fun octets => (Rfc7541.decodeBlock q octets).map Prod.snd) q

/-- The decoder behind the block of a HEADERS frame. -/
def decodeFragment (hdr : FrameHeader) (payload : Mem) (hpack : HpackState) : HpackState :=
  match blockFragment hdr payload with
  | .error _ => hpack
  | .ok (off,len) => match h2HpackDecodeBlock (shift payload off) len hpack with
    | .ok _ hpack => hpack
    | .error _ hpack => hpack

/-- The decoder behind an event: the block of a HEADERS frame is decoded, and nothing
    else is. -/
def Event.decode (hpack : HpackState) : Event → HpackState
  | .frame _ _ hdr payload => if hdr.type = frameHeaders then decodeFragment hdr payload hpack else hpack
  | _ => hpack

theorem blocks_snoc (log : List Event) (e : Event) : blocks (log ++ [e]) = blocks log ++ e.block.toList := by
  rw [blocks,List.filterMap_append]
  cases block : e.block <;> simp [blocks,block]

theorem tableAfter_append {q q' q'' : FieldQueue} {blocks blocks' : List (Option (List UInt8))}
    (first : tableAfter q blocks = some q') (second : tableAfter q' blocks' = some q'') :
    tableAfter q (blocks ++ blocks') = some q'' := by
  rw [tableAfter] at first
  rw [tableAfter,List.foldlM_append,first]
  exact second

/-! ### The frames that are followed -/

/-- A stream takes a HEADERS frame if the client has not ended it, or if it is a new one,
    the client is not going away, and there is room. -/
def Core.Takes (c : Core) (hdr : FrameHeader) : Prop :=
  hdr.streamId % 2 = 1 ∧
    ((∃ slot ∈ h2StreamFind c.table hdr.streamId, (c.table.streams slot).state = .idle ∨
      (c.table.streams slot).state = .opened) ∨
      (h2StreamFind c.table hdr.streamId = none ∧ c.conn.lastStreamId < hdr.streamId ∧ c.conn.goawayReceived = false ∧
        openStreams c.table < maxConcurrent ∧ freshSlot c.table ≠ none))

instance (c : Core) (hdr : FrameHeader) : Decidable (c.Takes hdr) :=
  inferInstanceAs (Decidable (_ ∧ ((∃ slot ∈ h2StreamFind c.table hdr.streamId, _ ∨ _) ∨ (_ ∧ _ ∧ _ ∧ _ ∧ _))))

/-- A header block decodes. -/
def Decodes (block : Mem) (len : Nat) (hpack : HpackState) : Prop :=
  ∃ fields hpack', h2HpackDecodeBlock block len hpack = .ok fields hpack'

instance (block : Mem) (len : Nat) (hpack : HpackState) : Decidable (Decodes block len hpack) :=
  match decoded : h2HpackDecodeBlock block len hpack with
  | .ok fields hpack' => isTrue ⟨fields,hpack',decoded⟩
  | .error _ _ => isFalse (by rintro ⟨fields,hpack',done⟩; rw [decoded] at done; cases done)

/-- No insertion of a block moves the name it takes from the table. -/
def NamesStill (block : Mem) (len : Nat) (hpack : HpackState) : Prop :=
  ∀ step ∈ blockSteps block len hpack, step.read.NameStill step.found.dyn

instance (t : Hpack.DynTable) : DecidablePred (Representation.NameStill t)
  | .incremental f => match name : f.name with
    | .arena o => decidable_of_iff (freedBy t (.incremental f) = 0)
        ⟨by rintro none f' o' ⟨⟩ _; exact none,fun still => still f o rfl name⟩
    | .block _ | .strBuf _ | .staticName _ | .staticValue _ =>
      isTrue (by rintro f' o' ⟨⟩ arena; rw [name] at arena; cases arena)
  | .indexed _ | .sizeUpdate _ | .literal _ => isTrue (by rintro f' o' ⟨⟩)

instance (block : Mem) (len : Nat) (hpack : HpackState) : Decidable (NamesStill block len hpack) :=
  inferInstanceAs (Decidable (∀ step ∈ blockSteps block len hpack, step.read.NameStill step.found.dyn))

/-- The block of a HEADERS frame moves no name. While a request is served the frame is
    well formed and its block decodes. -/
def Core.Reads (c : Core) (serving : List Nat) (hdr : FrameHeader) (payload : Mem) : Prop :=
  match blockFragment hdr payload with
  | .error _ => serving = []
  | .ok (off,len) => NamesStill (shift payload off) len c.hpack ∧ (serving = [] ∨ Decodes (shift payload off) len c.hpack)

instance (c : Core) (serving : List Nat) (hdr : FrameHeader) (payload : Mem) : Decidable (c.Reads serving hdr payload) :=
  match fragment : blockFragment hdr payload with
  | .error _ => decidable_of_iff (serving = []) (by rw [Core.Reads,fragment])
  | .ok (off,len) => decidable_of_iff
      (NamesStill (shift payload off) len c.hpack ∧ (serving = [] ∨ Decodes (shift payload off) len c.hpack))
      (by rw [Core.Reads,fragment])

/-- A HEADERS frame has the whole of its block, and its stream takes it. -/
def Event.Followed : Event → Prop
  | .frame c serving hdr payload =>
    hdr.type = frameHeaders → hasFlag hdr.flags flagEndHeaders = true ∧ c.Takes hdr ∧ c.Reads serving hdr payload
  | .refused _ serving hdr => hdr.type = frameHeaders → serving = []
  | _ => True

instance : DecidablePred Event.Followed
  | .frame c serving hdr payload => inferInstanceAs (Decidable
      (hdr.type = frameHeaders → hasFlag hdr.flags flagEndHeaders = true ∧ c.Takes hdr ∧ c.Reads serving hdr payload))
  | .refused _ serving hdr => inferInstanceAs (Decidable (hdr.type = frameHeaders → serving = []))
  | .waiting _ | .waitFailed _ _ | .sent _ _ | .data _ _ _ | .serve _ _ _ _ => isTrue trivial

/-- A frame that its stream takes gets its entry, and the entry takes it. -/
theorem takes_entered {c : Core} {hdr : FrameHeader} (small : hdr.streamId < 2^31) (takes : c.Takes hdr) :
    ∃ slot table conn table',
    admitStream c hdr = .ok (slot,table,conn) ∧ h2StreamEvent table slot .recvHeaders = .ok table' := by
  obtain ⟨odd,⟨slot,found,state⟩ | ⟨missing,above,staying,few,room⟩⟩ := takes
  · have same : slots.find? (fun i => c.table.ids i = hdr.streamId) = some slot := by
      rw [Option.mem_def,h2StreamFind] at found
      split at found
      · cases found
      · exact found
    have valid : h2ValidateStreamId c.table c.conn hdr.streamId = .ok (some slot) := by
      rw [h2ValidateStreamId,if_neg (by omega),show h2StreamFind c.table hdr.streamId = some slot from found]
    refine ⟨slot,c.table,c.conn,c.table.setState slot .opened,?_,?_⟩
    · rw [admitStream,valid,h2StreamCreate]
      dsimp only
      rw [same]
    · rw [h2StreamEvent]
      rcases state with idle | opened
      · rw [idle]; rfl
      · rw [opened]; rfl
  · obtain ⟨slot,fresh⟩ := Option.ne_none_iff_exists'.mp room
    have valid : h2ValidateStreamId c.table c.conn hdr.streamId = .ok none := by
      rw [h2ValidateStreamId,if_neg (by omega),missing]
      exact if_neg (by omega)
    have admitted : admitStream c hdr = h2StreamCreate c.table c.conn hdr.streamId := by
      rw [admitStream,valid]
      dsimp only
      rw [if_neg (by simp [staying]),if_neg (by omega)]
    have unknown : slots.find? (fun i => c.table.ids i = hdr.streamId) = none := by
      rwa [h2StreamFind,if_neg (Nat.not_le.mpr small)] at missing
    refine ⟨slot,initSlot c.table c.conn slot hdr.streamId,{ c.conn with lastStreamId := hdr.streamId },
      (initSlot c.table c.conn slot hdr.streamId).setState slot .opened,?_,?_⟩
    · rw [admitted,h2StreamCreate,unknown]
      dsimp only
      rw [fresh]
    · rw [h2StreamEvent]
      simp [initSlot,transitions]

/-! ### What a frame makes of the table -/

/-- A HEADERS frame that its stream takes is decoded as far as it has a block. -/
theorem headers_decoded {c : Core} {hdr : FrameHeader} {payload : Mem} (small : hdr.streamId < 2^31)
    (headers : hdr.type = frameHeaders) (takes : c.Takes hdr) :
    (h2DispatchFrame c hdr payload).core.hpack = decodeFragment hdr payload c.hpack := by
  obtain ⟨slot,table,conn,table',admitted,event⟩ := takes_entered (c := c.noted frameHeaders) small takes
  refine headers_rule (P := fun outcome => outcome.core.hpack = decodeFragment hdr payload c.hpack) headers ?_
  intro outcome came
  cases came with
  | refused refused =>
    rw [admitted] at refused
    cases refused
  | late admitted' late =>
    rw [admitted] at admitted'
    cases admitted'
    rw [event] at late
    cases late
  | unframed _ _ fragment =>
    rw [decodeFragment,fragment]
    rfl
  | undecoded _ _ fragment decoded =>
    rw [decodeFragment,fragment]
    dsimp only
    rw [show h2HpackDecodeBlock _ _ c.hpack = _ from decoded]
    rfl
  | malformed _ _ fragment decoded _ =>
    rw [decodeFragment,fragment]
    dsimp only
    rw [show h2HpackDecodeBlock _ _ c.hpack = _ from decoded]
    rfl
  | accepted _ _ fragment decoded _ =>
    rw [(endStream_untouched _ _ _).hpack,decodeFragment,fragment]
    dsimp only
    rw [show h2HpackDecodeBlock _ _ c.hpack = _ from decoded]

/-- A block that decodes takes the table to where a decoder of RFC 7541 takes it. -/
theorem fragment_follows {hdr : FrameHeader} {payload : Mem} {off len : Nat} {hpack : HpackState} {q : FieldQueue}
    (fragment : blockFragment hdr payload = .ok (off,len)) (rep : Represents hpack.dyn q)
    (still : NamesStill (shift payload off) len hpack) (decodes : Decodes (shift payload off) len hpack) :
    ∃ q', tableAfter q [some (slice (shift payload off) 0 len)] = some q' ∧
      Represents (decodeFragment hdr payload hpack).dyn q' := by
  obtain ⟨fields,hpack',decoded⟩ := decodes
  obtain ⟨q',represents,reference⟩ := Hpack.decodeBlock_sound rep decoded
  refine ⟨q',?_,?_⟩
  · have behind := reference still
    simp [tableAfter,behind]
  · rw [decodeFragment,fragment]
    dsimp only
    rw [decoded]
    exact represents

/-- A frame changes the table as its block says. -/
theorem frame_decoded {c : Core} {serving : List Nat} {hdr : FrameHeader} {payload : Mem} (small : hdr.streamId < 2^31)
    (followed : (Event.frame c serving hdr payload).Followed) :
    (h2DispatchFrame c hdr payload).core.hpack = Event.decode c.hpack (.frame c serving hdr payload) := by
  rw [Event.decode]
  by_cases headers : hdr.type = frameHeaders
  · rw [if_pos headers]
    exact headers_decoded small headers (followed headers).2.1
  · rw [if_neg headers]
    exact (dispatch_untouched headers payload).hpack

/-- What a HEADERS frame with a stream that takes it is rejected with, if its block is
    not found or does not decode. -/
theorem headers_error {c : Core} {hdr : FrameHeader} {payload : Mem} (small : hdr.streamId < 2^31)
    (headers : hdr.type = frameHeaders) (takes : c.Takes hdr)
    (lost : ∀ off len, blockFragment hdr payload = .ok (off,len) → ¬ Decodes (shift payload off) len c.hpack) :
    ∃ e, (h2DispatchFrame c hdr payload).error = some e ∧ e.isStream = false := by
  obtain ⟨slot,table,conn,table',admitted,event⟩ := takes_entered (c := c.noted frameHeaders) small takes
  refine headers_rule (P := fun outcome => ∃ e, outcome.error = some e ∧ e.isStream = false) headers ?_
  intro outcome came
  cases came with
  | refused refused =>
    rw [admitted] at refused
    cases refused
  | late admitted' late =>
    rw [admitted] at admitted'
    cases admitted'
    rw [event] at late
    cases late
  | unframed _ _ fragment =>
    rcases fragment_error fragment with rfl | rfl
    · exact ⟨_,rfl,rfl⟩
    · exact ⟨_,rfl,rfl⟩
  | undecoded _ _ _ _ => exact ⟨_,rfl,rfl⟩
  | malformed _ _ fragment decoded _ => exact absurd ⟨_,_,decoded⟩ (lost _ _ fragment)
  | accepted _ _ fragment decoded _ => exact absurd ⟨_,_,decoded⟩ (lost _ _ fragment)

/-- The table behind a frame is the one behind its block, unless the frame is the end of
    the connection. -/
theorem frame_represents {c : Core} {serving : List Nat} {hdr : FrameHeader} {payload : Mem} {q : FieldQueue}
    (small : hdr.streamId < 2^31) (followed : (Event.frame c serving hdr payload).Followed)
    (rep : Represents c.hpack.dyn q)
    (going : serving = [] → ∀ e, (h2DispatchFrame c hdr payload).error = some e → e.isStream = true) :
    ∃ q', tableAfter q (Event.block (.frame c serving hdr payload)).toList = some q' ∧
      Represents (h2DispatchFrame c hdr payload).core.hpack.dyn q' := by
  by_cases headers : hdr.type = frameHeaders
  swap
  · refine ⟨q,?_,?_⟩
    · rw [Event.block,if_neg headers]
      rfl
    · rw [(dispatch_untouched headers payload).hpack]
      exact rep
  obtain ⟨whole,takes,reads⟩ := followed headers
  rw [Core.Reads] at reads
  -- A frame without its block, or whose block does not decode, is the end of the connection if it is not read
  -- while a request is served.
  have busy : (∀ off len, blockFragment hdr payload = .ok (off,len) → ¬ Decodes (shift payload off) len c.hpack) →
      serving ≠ [] := by
    intro lost idle
    obtain ⟨e,error,fatal⟩ := headers_error small headers takes lost
    rw [going idle e error] at fatal
    cases fatal
  cases fragment : blockFragment hdr payload with
  | error e =>
    rw [fragment] at reads
    refine absurd reads (busy ?_)
    rw [fragment]
    rintro off len ⟨⟩
  | ok found =>
    obtain ⟨off,len⟩ := found
    rw [fragment] at reads
    obtain ⟨still,decodes⟩ := reads
    have decodes : Decodes (shift payload off) len c.hpack := by
      by_contra fails
      refine busy ?_ (decodes.resolve_right fails)
      rw [fragment]
      rintro off len ⟨⟩
      exact fails
    obtain ⟨q',behind,represents⟩ := fragment_follows fragment rep still decodes
    refine ⟨q',?_,?_⟩
    · rw [Event.block,if_pos headers,fragment]
      dsimp only
      rw [if_pos whole]
      exact behind
    · rw [headers_decoded small headers takes]
      exact represents

/-! ### Runs -/

/-- The decoder has run over the blocks received, and on a connection that is not over
    the table is the one behind them. -/
structure InContext (start : HpackState) (s : Server) : Prop where
  decoded : s.core.hpack = s.log.foldl Event.decode start
  table : s.halted = false → ∃ q, tableAfter (Queue.empty headerTableSize) (blocks s.log) = some q ∧
    Represents s.core.hpack.dyn q

theorem InContext.same {start : HpackState} {s s' : Server} (context : InContext start s)
    (hpack : s'.core.hpack = s.core.hpack)
    (log : s'.log = s.log) (halted : s'.halted = false → s.halted = false) : InContext start s' := by
  constructor
  · rw [hpack,log]
    exact context.decoded
  · intro alive
    rw [hpack,log]
    exact context.table (halted alive)

/-- An event without a block. -/
theorem InContext.plain {start : HpackState} {s s' : Server} {e : Event} (context : InContext start s)
    (hpack : s'.core.hpack = s.core.hpack) (log : s'.log = s.log ++ [e]) (none : e.block = none)
    (still : ∀ h, e.decode h = h)
    (halted : s'.halted = false → s.halted = false) : InContext start s' := by
  constructor
  · rw [hpack,log,List.foldl_append]
    simp only [List.foldl_cons,List.foldl_nil,still]
    exact context.decoded
  · intro alive
    rw [hpack,log,blocks_snoc,none,Option.toList_none,List.append_nil]
    exact context.table (halted alive)

theorem context_keeps (start : HpackState) : acts.Keeps Event.Followed (InContext start) := by
  intro s s' act meets context
  cases act with
  | moved core _ halted log _ => exact context.same (by rw [core]) log (by rw [halted]; exact id)
  | sent core _ halted log _ _ _ => exact context.plain (by rw [core]) log rfl (fun _ => rfl) (by rw [halted]; exact id)
  | @frame _ hdr payload raw core _ alive _ passed log of _ =>
    have followed : (Event.frame s.core s.serving hdr payload).Followed :=
      (log ▸ meets : Meets Event.Followed (s.log ++ [.frame s.core s.serving hdr payload])).append
    constructor
    · rw [core,log,List.foldl_append,← context.decoded]
      exact frame_decoded of.small followed
    · intro going
      obtain ⟨q,behind,rep⟩ := context.table alive
      have idle : s.serving = [] → s.stack = [] := fun none => List.map_eq_nil_iff.mp none
      obtain ⟨q',next,represents⟩ := frame_represents of.small followed rep (fun none => passed going (idle none))
      refine ⟨q',?_,by rw [core]; exact represents⟩
      rw [log,blocks_snoc]
      exact tableAfter_append behind next
  | @refused _ hdr core _ halted still log =>
    have followed : (Event.refused s.core s.serving hdr).Followed :=
      (log ▸ meets : Meets Event.Followed (s.log ++ [.refused s.core s.serving hdr])).append
    by_cases idle : s.stack = []
    · -- A header that the frame loop rejects is the end of the connection.
      constructor
      · rw [core,log,List.foldl_append]
        exact context.decoded
      · intro going
        rw [halted idle] at going
        cases going
    · have other : hdr.type ≠ frameHeaders := fun headers => idle (List.map_eq_nil_iff.mp (followed headers))
      exact context.plain (by rw [core]) log (if_neg other) (fun _ => rfl) (by rw [still idle]; exact id)
  | waiting _ => exact context.plain rfl rfl rfl (fun _ => rfl) id
  | waitFailed core _ halted _ log _ =>
    exact context.plain (by rw [core]) log rfl (fun _ => rfl) (by rw [halted]; exact id)
  | serve alive _ _ _ _ => exact context.plain rfl rfl rfl (fun _ => rfl) id
  | top staged body => exact context.same (by rw [setTop_core]) (setTop_log _ _ _) (by rw [setTop_halted]; exact id)
  | charged _ _ => exact context.plain rfl rfl rfl (fun _ => rfl) id
  | finish => exact context.same (finish_hpack _) (finish_log _) (by rw [finish_halted]; exact id)
  | ends core _ _ log halted => exact context.same (by rw [core]) log (by rw [halted]; rintro ⟨⟩)

theorem enter_context (e : Entry) : InContext e.previous.reset.hpack (h2ConnectionLoop e) := by
  have entered := enter_entered e
  have start : InContext e.previous.reset.hpack { h2ConnectionLoop e with log := [] } := by
    constructor
    · show (h2ConnectionLoop e).core.hpack = _
      rw [entered.core]
      rfl
    · intro _
      refine ⟨_,rfl,?_⟩
      show Represents (h2ConnectionLoop e).core.hpack.dyn _
      rw [entered.core]
      exact Hpack.reset_represents _
  rcases entered.log with none | ⟨ok,settings⟩
  · exact start.same rfl none id
  · exact start.plain rfl settings rfl (fun _ => rfl) id

/-- A request for the page with a field more. -/
def getField (streamId : Nat) (field : List UInt8) : OutFrame :=
  ⟨frameHeaders,flagEndStream + flagEndHeaders,streamId,[0x82,0x84] ++ field⟩

/-- A field that is new to the table, and the field that it has there. -/
def newField : List UInt8 := [0x40,1,'a'.toUInt8,1,'b'.toUInt8]
def oldField : List UInt8 := [0xbe]

/-- Two requests with the same field. -/
def twoFields : List UInt8 := (getField 1 newField).encode ++ (getField 3 oldField).encode

/-- The page is asked for twice on one stream, the second time with a new field. -/
def staleField : List UInt8 := (getIndex 1).encode ++ (getField 1 newField).encode

/-- The header of a frame that is all block. -/
def blockHeader (len : Nat) : FrameHeader := ⟨len,frameHeaders,flagEndStream + flagEndHeaders,1⟩

end Sarm.H2
