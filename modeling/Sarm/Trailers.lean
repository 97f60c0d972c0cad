import Sarm.Isolation
import Sarm.StreamErrors

/-!
Trailers. A HEADERS frame on a stream that is still open goes the way of the first
one: a request is built from its fields, and without a method there is none.
-/
namespace Sarm.H2
open Sarm.Memory Sarm.Trace
open Sarm.Hpack (h2HpackDecodeBlock HpackState FieldRef Ptr)

/-! ### Fields without pseudo-headers -/

/-- A regular field: its name does not begin with a colon. -/
def Regular (read : Ptr → Mem) (f : FieldRef) : Prop := f.nameLen = 0 ∨ read f.name 0 ≠ ':'.toUInt8

instance (read : Ptr → Mem) (f : FieldRef) : Decidable (Regular read f) := inferInstanceAs (Decidable (_ ∨ _))

variable {read : Ptr → Mem}

theorem nameEq_empty {m : Mem} {name : String} (named : (Hpack.ascii name).length ≠ 0) : h2NameEq m 0 name = false := by
  rw [h2NameEq]
  simp [Ne.symm named]

/-- An empty name is no pseudo-header's. -/
theorem pseudo_empty (scan : Scan) {f : FieldRef} (empty : f.nameLen = 0) : scan.pseudo read f = none := by
  rw [Scan.pseudo,empty]
  split
  · rfl
  rw [nameEq_empty (by decide),nameEq_empty (by decide),nameEq_empty (by decide),nameEq_empty (by decide)]
  rfl

theorem field_method (scan : Scan) (f : FieldRef) : (scan.field read f).method = scan.method := by
  rw [Scan.field]
  dsimp only
  split <;> rfl

/-- Regular fields bring no method. -/
theorem scanFields_regular : ∀ (fields : List FieldRef) (scan scan' : Scan), (∀ f ∈ fields, Regular read f) →
    scanFields read fields scan = (scan',true) → scan'.method = scan.method := by
  intro fields
  induction fields with
  | nil => rintro scan scan' _ ⟨⟩; rfl
  | cons f fields ih =>
    intro scan scan' regular scanned
    rw [List.forall_mem_cons] at regular
    rw [scanFields] at scanned
    split at scanned
    · next colon =>
      rw [pseudo_empty scan (regular.1.resolve_right (fun other => other colon))] at scanned
      cases scanned
    · exact (ih _ _ regular.2 scanned).trans (field_method scan f)

/-- They make no request. -/
theorem build_regular {fields : List FieldRef} (regular : ∀ f ∈ fields, Regular read f) (streamId : Nat) (r : Request) :
    (h2BuildRequest read streamId fields r).2 = false := by
  rw [h2BuildRequest]
  split
  · rfl
  next scan scanned =>
  have missing : scan.method = none := scanFields_regular fields _ _ regular scanned
  rw [missing]
  rfl

/-! ### The end of a request -/

/-- A trailing HEADERS frame: on a stream that the client has not ended it ends it, its
    block decodes, and its fields are regular ones. -/
structure Trailing (c : Core) (hdr : FrameHeader) (payload : Mem) : Prop where
  headers : hdr.type = frameHeaders
  last : hasFlag hdr.flags flagEndStream = true
  opened : ∃ slot ∈ h2StreamFind c.table hdr.streamId, (c.table.streams slot).state = .opened
  fields : ∃ off len fields hpack, blockFragment hdr payload = .ok (off,len) ∧
    h2HpackDecodeBlock (shift payload off) len c.hpack = .ok fields hpack ∧
      ∀ f ∈ fields, Regular (hpack.at (shift payload off)) f

/-- An empty DATA frame that ends a stream. -/
def endOfData (streamId : Nat) : FrameHeader := ⟨0,frameData,flagEndStream,streamId⟩

/-- The trailers are accepted, and the same requests are served as if the stream had been ended by an
    empty DATA frame. -/
structure EndsLikeData (files : List EmbeddedFile) (h : InHand) : Prop where
  accepted : (h2DispatchFrame h.server.core h.hdr h.payload).error = none
  served : served (h.server.receive files h.hdr h.payload).log =
    served (h.server.receive files (endOfData h.hdr.streamId) h.payload).log

/-! ### Requests served -/

theorem sent_unserved (log : List Event) (f : OutFrame) (ok : Bool) : served (log ++ [.sent f ok]) = served log := by
  rw [served_snoc]
  exact List.append_nil _

theorem writeHeaders_served (s : Server) (r : Response) (streamId extra : Nat) :
    served (s.writeHeaders r streamId extra).1.log = served s.log := by
  rw [Server.writeHeaders]
  split
  · rfl
  · rw [send_log,sent_unserved]

theorem abort_served (s : Server) : served s.abort.log = served s.log := by
  rw [Server.abort]
  split
  · rfl
  · rw [finish_log]
    exact writeHeaders_served _ _ _ _

theorem respond_served (s : Server) (streamId : Nat) (a : Answer) : served (s.respond streamId a).log = served s.log := by
  cases a with
  | status code =>
    rw [Server.respond,finish_log]
    exact writeHeaders_served _ _ _ _
  | headers r =>
    have written := writeHeaders_served s r streamId flagEndStream
    rw [Server.respond]
    split
    · next s' done => rw [done] at written; rw [finish_log]; exact written
    · next s' failed => rw [failed] at written; rw [abort_served]; exact written
  | body r =>
    rw [Server.respond]
    split
    · exact abort_served s
    next f made =>
    split
    · rw [setTop_log]
    · have sent := sent_unserved s.log f (s.send f).2
      rw [← send_log] at sent
      split
      · next s' done => rw [done] at sent; rw [setTop_log]; exact sent
      · next s' failed => rw [failed] at sent; rw [abort_served]; exact sent

theorem rejects_served (s : Server) (streamId : Nat) (e : H2Error) :
    served (s.rejects streamId e).log = served s.log := by
  have reset : served (s.reset streamId e).log = served s.log := by rw [reset_log,sent_unserved]
  rw [Server.rejects]
  split
  · split
    · split
      · rfl
      · exact reset
    · show served (s.goaway e).log = _
      rw [Server.goaway,send_log,sent_unserved]
  · split
    · split
      · rfl
      · exact reset
    split
    · exact abort_served s
    · rw [finish_log]

theorem handled_served (s : Server) (hdr : FrameHeader) (payload : Mem) :
    served ((s.handled hdr payload).past hdr).log = served s.log := by
  rw [handled_past,served_snoc]
  exact List.append_nil _

/-! ### Trailers and data -/

theorem Trailing.rejected {c : Core} {hdr : FrameHeader} {payload : Mem} (formed : c.WellFormed)
    (small : hdr.streamId < 2^31)
    (trailing : Trailing c hdr payload) : (h2DispatchFrame c hdr payload).error = some .protocolError := by
  obtain ⟨headers,_,⟨slot,found,opened⟩,off,len,fields,hpack,fragment,decoded,regular⟩ := trailing
  obtain ⟨inside,own,_⟩ := find_some found
  have proper : c.table.ids slot ≠ 0 := by
    intro free
    rw [(formed.agrees slot inside).free free] at opened
    cases opened
  have odd := formed.odd slot inside proper
  rw [own] at odd
  have built := build_regular regular hdr.streamId c.req
  exact malformed_error small headers ⟨odd,.inl ⟨slot,found,.inr opened⟩⟩ fragment decoded (Prod.ext rfl built)

/-- An empty DATA frame completes the request of an open stream. -/
theorem data_completes {c : Core} {streamId slot : Nat} (payload : Mem)
    (found : h2StreamFind c.table streamId = some slot)
    (opened : (c.table.streams slot).state = .opened) :
    h2DispatchFrame c (endOfData streamId) payload =
      Core.done { c.noted frameData with table := (c.table.setState slot .opened).setState slot .halfClosedRemote } := by
  have handler : h2DispatchFrame c (endOfData streamId) payload = h2HandleData (c.noted frameData)
      (endOfData streamId) payload := rfl
  have taken : h2StreamEvent (c.noted frameData).table slot .recvData = .ok (c.table.setState slot .opened) := by
    rw [h2StreamEvent,show ((c.noted frameData).table.streams slot).state = .opened from opened]
    rfl
  have ended : h2StreamEvent (c.table.setState slot .opened) slot .recvEndStream =
      .ok ((c.table.setState slot .opened).setState slot .halfClosedRemote) := by
    rw [h2StreamEvent]
    simp [Table.setState,transitions]
  rw [handler,h2HandleData,show h2StreamFind (c.noted frameData).table (endOfData streamId).streamId =
    some slot from found]
  dsimp only
  rw [taken]
  dsimp only
  have last : hasFlag (endOfData streamId).flags flagEndStream = true := by simp [endOfData,hasFlag,flagEndStream]
  rw [Core.endStream,if_pos last]
  dsimp only
  rw [ended]

/-- The hook behind it serves the request. -/
theorem data_serves (files : List EmbeddedFile) {s : Server} {streamId slot : Nat} (payload : Mem) (formed : Formed s)
    (attended : s.core.Attended 0) (found : h2StreamFind s.core.table streamId = some slot)
    (opened : (s.core.table.streams slot).state = .opened) :
    served (s.receive files (endOfData streamId) payload).log = served s.log ++ [streamId] := by
  obtain ⟨inside,own,_⟩ := find_some found
  have proper : streamId ≠ 0 := by
    rw [← own]
    intro free
    rw [(formed.core.agrees slot inside).free free] at opened
    cases opened
  have idle : (s.core.table.streams slot).serving = false := by
    by_contra serving
    rcases (attended slot inside).2 (by simpa using serving) with half | closed
    · rw [half] at opened; cases opened
    · rw [closed] at opened; cases opened
  have outcome := data_completes payload found opened
  have received : s.receive files (endOfData streamId) payload =
      ((s.handled (endOfData streamId) payload).past (endOfData streamId)).hook files streamId := by
    rw [Server.receive,dispatch_eq,outcome]
    rfl
  rw [received]
  have core := (past_same (s.handled (endOfData streamId) payload) (endOfData streamId)).1
  have log := handled_served s (endOfData streamId) payload
  have table : (((s.handled (endOfData streamId) payload).past (endOfData streamId)).core.table) =
      (s.core.table.setState slot .opened).setState slot .halfClosedRemote := by
    rw [core,Server.handled,outcome]
    rfl
  generalize (s.handled (endOfData streamId) payload).past (endOfData streamId) = behind at table log
  have there : h2StreamFind behind.core.table streamId = some slot :=
    (find_congr (by rw [table]; rfl) streamId).trans found
  rw [Server.hook,if_neg proper,there,table]
  dsimp only
  rw [if_pos (by simp [Table.setState,idle]),Server.processRequest]
  rw [respond_served,← log]
  exact served_snoc behind.log _

/-- A request that ends with trailers is never served as one that ends with data: the trailers are
    rejected, and no request is served behind them. -/
theorem trailers_refused (files : List EmbeddedFile) (e : Entry) (n : Nat) {h : InHand}
    (found : (run files (h2ConnectionLoop e) n).inHand = some h)
    (trailing : Trailing h.server.core h.hdr h.payload) : ¬ EndsLikeData files h := by
  have of := inHand_of found
  have formed := (run_formed files e n).same of.core of.held
  have attended : h.server.core.Attended 0 := by
    rw [of.core]
    exact run_attended files e n
  have failed := trailing.rejected formed.core of.small
  obtain ⟨slot,there,opened⟩ := trailing.opened
  rintro ⟨_,same⟩
  rw [data_serves files h.payload formed attended there opened,receive_failed files failed,rejects_served,
    handled_served] at same
  simp at same

/-! ### Examples -/

/-- A request whose stream stays open, and a trailing field. -/
def trailedRequest : List UInt8 :=
  openIndex ++ (OutFrame.mk frameHeaders (flagEndStream + flagEndHeaders) 1 [0,1,'a'.toUInt8,1,'b'.toUInt8]).encode

def trailersHand : InHand :=
  (run welcomeSite (h2ConnectionLoop (.client trailedRequest)) 1).inHand.get (by decide +kernel)

/-- A block is decoded, and its fields are regular. -/
def regularBlock (block : Mem) (len : Nat) (s : HpackState) : Bool :=
  match h2HpackDecodeBlock block len s with
  | .ok fields s => decide (∀ f ∈ fields, Regular (s.at block) f)
  | .error _ _ => false

theorem trailersHand_trailing : Trailing trailersHand.server.core trailersHand.hdr trailersHand.payload := by
  have fields : regularBlock (shift trailersHand.payload 0) 5 trailersHand.server.core.hpack = true := by decide +kernel
  rw [regularBlock] at fields
  split at fields
  · next fields' hpack decoded =>
    exact ⟨by decide +kernel,by decide +kernel,⟨0,by decide +kernel,by decide +kernel⟩,0,5,fields',hpack,
      by decide +kernel,decoded,by simpa using fields⟩
  · cases fields

theorem trailers_refused_field : ¬ EndsLikeData welcomeSite trailersHand :=
  trailers_refused welcomeSite (.client trailedRequest) 1 (Option.some_get _).symm trailersHand_trailing

theorem trailedRequest_unserved : (run welcomeSite (h2ConnectionLoop (.client trailedRequest)) 2).halted = true ∧
    served (run welcomeSite (h2ConnectionLoop (.client trailedRequest)) 3).log = [] ∧
    served (run welcomeSite (h2ConnectionLoop (.client (openIndex ++ endIndex))) 3).log = [1] := by decide +kernel

end Sarm.H2
