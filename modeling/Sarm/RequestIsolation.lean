import Sarm.Http1Globals
import Sarm.PathBuffers
import Sarm.Pipelining

/-!
A request is answered alike wherever it stands: by two connections, behind whatever
requests, with the same status, the same body and the same header but for its
`Connection` field. What requests leave behind is cleared, or not looked at.
-/
namespace Sarm.Http1
open Sarm.Memory Sarm.H2
open Sarm.Hpack (ascii)

/-- A response as it goes to the socket. -/
def encode (r : Reply) (keep : Bool) : List UInt8 := headerStart r ++ headerTail keep ++ r.body

/-! ### Responses fit -/

/-- The header of a response fits, whatever becomes of the connection. -/
def Fits (r : Reply) : Prop := ∀ keep, (headerStart r ++ headerTail keep).length ≤ responseHeaderSize

theorem headerTail_length (keep : Bool) : (headerTail keep).length ≤ 144 := by
  cases keep <;> decide +kernel

theorem statusLine_length (status : Nat) : (statusLine status).length ≤ 44 := by
  rw [statusLine]
  split
  · next row found =>
    have known := List.mem_of_find?_eq_some found
    have lengths : ∀ row ∈ statusTable, (ascii row.2).length ≤ 44 := by decide
    exact lengths row known
  · decide

variable {files : List Resource}

theorem reply_fits {r : Reply} (contentType : r.contentType.length ≤ 71) (etag : r.etag.length ≤ 66) : Fits r := by
  intro keep
  have start := headerStart_length r
  have line := statusLine_length r.status
  have tail := headerTail_length keep
  rw [List.length_append,responseHeaderSize]
  omega

theorem resourceReply_fits (embedded : Embedded files) {file : Resource} (mem : file ∈ files)
    (range : Option (Nat × Nat)) :
    Fits (resourceReply file range) := by
  obtain ⟨known,tag⟩ := embedded file mem
  cases range with
  | none => exact reply_fits (mimeTypes_length _ known) (Nat.le_of_eq tag)
  | some range => exact reply_fits (mimeTypes_length _ known) (Nat.le_of_eq tag)

theorem statusReply_short (embedded : Embedded files) (status : Nat) : Fits (statusReply files status) := by
  have bare : Fits (bareReply status) := reply_fits (Nat.zero_le _) (Nat.zero_le _)
  rw [statusReply]
  split
  · exact bare
  split
  · exact bare
  · next file found =>
    obtain ⟨known,tag⟩ := embedded file (lookupResource_mem found)
    exact reply_fits (mimeTypes_length _ known) (Nat.le_of_eq tag)

/-! ### A response to two sessions -/

theorem shouldKeepAlive_status {hdr : Mem} {len status code : Nat} {method : Method}
    (malformed : shouldKeepAlive hdr len method status = .status code) : code = 400 := by
  rw [shouldKeepAlive] at malformed
  split at malformed
  · cases malformed
  split at malformed
  · next code field => cases malformed; exact scanField_status _ _ field
  · cases malformed
  split at malformed
  · next code field => cases malformed; exact scanField_status _ _ field
  · cases malformed
  · rw [connectionRule.eq_def] at malformed
    split at malformed
    · next code field => cases malformed; exact scanField_status _ _ field
    · split at malformed <;> cases malformed
    · split at malformed
      · cases malformed
      split at malformed
      · cases malformed
      split at malformed <;> cases malformed

/-- A response that fits is sent, unless the header turns out to be malformed. -/
theorem writeResponse_fits (s : Session) (hdr : Mem) {r : Reply} (fits : Fits r) :
    match shouldKeepAlive hdr s.headerLen s.req.method r.status with
    | .status _ => s.writeResponse hdr r = (s,.status 400)
    | _ => ∃ keep, s.writeResponse hdr r = ({ s with decision := keep, sent := s.sent ++ [encode r keep] },.done) := by
  have start : ¬responseHeaderSize < (headerStart r).length := by
    have whole := fits false
    rw [List.length_append] at whole
    omega
  have done : ∀ reply : KeepReply, (∀ code, reply ≠ .status code) →
    shouldKeepAlive hdr s.headerLen s.req.method r.status = reply →
      ∃ keep, s.writeResponse hdr r = ({ s with decision := keep, sent := s.sent ++ [encode r keep] },.done) := by
    intro reply plain decided
    refine ⟨reply = .keep ∧ 0 < s.budget,?_⟩
    rw [Session.writeResponse,if_neg start,decided]
    cases reply with
    | status code => exact absurd rfl (plain code)
    | keep | close =>
      dsimp only
      rw [if_neg (Nat.not_lt.mpr (fits _))]
      rfl
  cases decided : shouldKeepAlive hdr s.headerLen s.req.method r.status with
  | keep => exact done .keep (by rintro code ⟨⟩) decided
  | close => exact done .close (by rintro code ⟨⟩) decided
  | status code =>
    obtain rfl := shouldKeepAlive_status decided
    rw [Session.writeResponse,if_neg start,decided]

/-- Sessions that are at the same request. -/
structure Peers (s s' : Session) : Prop where
  headerLen : s.headerLen = s'.headerLen
  method : s.req.method = .unknown ↔ s'.req.method = .unknown

/-- Both have sent one response, the same but for its `Connection` field. -/
def Answered (s s' t t' : Session) : Prop :=
  ∃ r keep keep', t.sent = s.sent ++ [encode r keep] ∧ t'.sent = s'.sent ++ [encode r keep']

variable {s s' : Session} {hdr : Mem}

theorem Peers.keep (peers : Peers s s') (hdr : Mem) (status : Nat) :
    shouldKeepAlive hdr s.headerLen s.req.method status = shouldKeepAlive hdr s'.headerLen s'.req.method status := by
  rw [shouldKeepAlive,shouldKeepAlive,peers.headerLen]
  simp only [peers.method]

theorem writeResponse_peers (peers : Peers s s') (hdr : Mem) {r : Reply} (fits : Fits r) :
    (s.writeResponse hdr r = (s,.status 400) ∧ s'.writeResponse hdr r = (s',.status 400)) ∨
      ∃ keep keep', s.writeResponse hdr r = ({ s with decision := keep, sent := s.sent ++ [encode r keep] },.done) ∧
        s'.writeResponse hdr r = ({ s' with decision := keep', sent := s'.sent ++ [encode r keep'] },.done) := by
  have first := writeResponse_fits s hdr fits
  have second := writeResponse_fits s' hdr fits
  rw [← peers.keep hdr] at second
  split at first
  · next decided =>
    rw [decided] at second
    exact .inl ⟨first,second⟩
  · next plain =>
    obtain ⟨keep,first⟩ := first
    cases decided : shouldKeepAlive hdr s.headerLen s.req.method r.status with
    | status code => exact absurd decided (plain code)
    | keep | close =>
      rw [decided] at second
      obtain ⟨keep',second⟩ := second
      exact .inr ⟨keep,keep',first,second⟩

/-- The page for 400 does not look at the header again. -/
theorem replyStatus_peers (embedded : Embedded files) (peers : Peers s s') (hdr : Mem) (status : Nat) :
    Answered s s' (s.replyStatus files hdr status) (s'.replyStatus files hdr status) := by
  rw [Session.replyStatus,Session.replyStatus]
  rcases writeResponse_peers peers hdr (statusReply_short embedded status) with ⟨first,second⟩ | ⟨keep,keep',first,second⟩
  · rw [first,second]
    rcases writeResponse_peers peers hdr (statusReply_short embedded 400) with ⟨again,_⟩ | ⟨keep,keep',again,again'⟩
    · have lost := writeResponse_fits s hdr (statusReply_short embedded 400)
      rw [statusReply_status,lostSync_close s.req.method (by decide)] at lost
      obtain ⟨keep,done⟩ := lost
      rw [done] at again
      cases congrArg Prod.snd again
    · dsimp only
      rw [again,again']
      exact ⟨_,keep,keep',rfl,rfl⟩
  · rw [first,second]
    exact ⟨_,keep,keep',rfl,rfl⟩

theorem respond_peers (embedded : Embedded files) (peers : Peers s s') (hdr : Mem) {r : Reply} (fits : Fits r) :
    Answered s s' (s.respond files hdr r) (s'.respond files hdr r) := by
  rw [Session.respond,Session.respond]
  rcases writeResponse_peers peers hdr fits with ⟨first,second⟩ | ⟨keep,keep',first,second⟩
  · rw [first,second]
    exact replyStatus_peers embedded peers hdr 400
  · rw [first,second]
    exact ⟨_,keep,keep',rfl,rfl⟩

/-! ### The methods -/

theorem getSetup_alike (alike : Alike s.req s'.req) : getSetup files s.req = getSetup files s'.req := by
  rw [getSetup,getSetup,alike.filename 0 (by decide),alike.path]

theorem getSetup_mem {r : Request} {file : Resource} (setup : getSetup files r = .ok file) : file ∈ files := by
  rw [getSetup] at setup
  split at setup
  · cases setup
  split at setup
  · cases setup
  · next found => cases setup; exact lookupResource_mem found

theorem get_peers (embedded : Embedded files) (peers : Peers s s') (alike : Alike s.req s'.req) (hdr : Mem) (len : Nat) :
    Answered s s' (s.get files hdr len) (s'.get files hdr len) := by
  rw [Session.get,Session.get,← getSetup_alike alike]
  cases setup : getSetup files s.req with
  | error code => exact replyStatus_peers embedded peers hdr code
  | ok file =>
    have fits := resourceReply_fits embedded (getSetup_mem setup)
    dsimp only
    cases parseRange hdr len with
    | error code => exact replyStatus_peers embedded peers hdr code
    | ok range =>
      cases range with
      | none => exact respond_peers embedded peers hdr (fits none)
      | some range =>
        dsimp only
        cases getRange range file.content.length with
        | unsatisfiable => exact replyStatus_peers embedded peers hdr 416
        | whole => exact respond_peers embedded peers hdr (fits none)
        | window start «end» => exact respond_peers embedded peers hdr (fits (some (start,«end»)))

theorem head_peers (embedded : Embedded files) (peers : Peers s s') (alike : Alike s.req s'.req) (hdr : Mem) :
    Answered s s' (s.head files hdr) (s'.head files hdr) := by
  rw [Session.head,Session.head,← getSetup_alike alike]
  cases setup : getSetup files s.req with
  | error code => exact replyStatus_peers embedded peers hdr code
  | ok file =>
    have fits : Fits { resourceReply file none with body := [] } := resourceReply_fits embedded (getSetup_mem setup) none
    exact respond_peers embedded peers hdr fits

theorem options_peers (embedded : Embedded files) (peers : Peers s s') (alike : Alike s.req s'.req) (hdr : Mem) :
    Answered s s' (s.options files hdr) (s'.options files hdr) := by
  rw [Session.options,Session.options,alike.filename 0 (by decide),alike.path]
  split
  · exact replyStatus_peers embedded peers hdr 204
  · split
    · exact replyStatus_peers embedded peers hdr 404
    · exact replyStatus_peers embedded peers hdr 204

/-! ### A request -/

/-- Two sessions whose path buffers are clear answer a header alike. -/
theorem request_peers (embedded : Embedded files) (clear : Clear s.req) (clear' : Clear s'.req)
    (method : s.req.method = .unknown ↔ s'.req.method = .unknown) (hdr : Mem) (len : Nat) :
    Answered s s' (s.request files hdr len) (s'.request files hdr len) := by
  rw [Session.request,Session.request]
  dsimp only
  cases verifyHttpVersion hdr len with
  | some code =>
    have peers : Peers { s with headerLen := len, budget := s.budget - 1 } { s' with headerLen := len, budget := s'.budget - 1 } :=
      ⟨rfl,method⟩
    exact replyStatus_peers embedded peers hdr code
  | none =>
    obtain ⟨same,_,kept,kept',alike⟩ := @parseRequest_clear hdr len _ _ clear clear'
    dsimp only
    generalize parseRequest hdr len s.req = p at same kept alike ⊢
    generalize parseRequest hdr len s'.req = p' at same kept' alike ⊢
    obtain ⟨req,reply⟩ := p
    obtain ⟨req',reply'⟩ := p'
    dsimp only at same kept kept' alike
    subst same
    have peers : Peers { s with headerLen := len, budget := s.budget - 1, req := req }
        { s' with headerLen := len, budget := s'.budget - 1, req := req' } := ⟨rfl,by rw [kept,kept']⟩
    cases reply with
    | failed => exact replyStatus_peers embedded peers hdr 400
    | status code => exact replyStatus_peers embedded peers hdr code
    | parsed =>
      dsimp only
      rw [kept,kept']
      cases method : requestMethod hdr with
      | unknown => exact replyStatus_peers embedded peers hdr 501
      | get => exact get_peers embedded peers (alike rfl (by rw [method]; decide)) hdr len
      | head => exact head_peers embedded peers (alike rfl (by rw [method]; decide)) hdr
      | options => exact options_peers embedded peers (alike rfl (by rw [method]; decide)) hdr

/-! ### What is left of a request -/

theorem writeResponse_req (s : Session) (hdr : Mem) (r : Reply) : (s.writeResponse hdr r).1.req = s.req := by
  rw [Session.writeResponse]
  split
  · rfl
  split
  · rfl
  · dsimp only
    split <;> rfl

theorem replyStatus_req (s : Session) (hdr : Mem) (status : Nat) : (s.replyStatus files hdr status).req = s.req := by
  rw [Session.replyStatus]
  have kept := writeResponse_req s hdr (statusReply files status)
  generalize s.writeResponse hdr (statusReply files status) = written at kept ⊢
  obtain ⟨s',_ | _ | code⟩ := written
  · exact kept
  · exact kept
  · exact (writeResponse_req s' hdr _).trans kept

theorem respond_req (s : Session) (hdr : Mem) (r : Reply) : (s.respond files hdr r).req = s.req := by
  rw [Session.respond]
  have kept := writeResponse_req s hdr r
  generalize s.writeResponse hdr r = written at kept ⊢
  obtain ⟨s',_ | _ | code⟩ := written
  · exact kept
  · exact (replyStatus_req s' hdr 500).trans kept
  · exact (replyStatus_req s' hdr code).trans kept

theorem get_req (s : Session) (hdr : Mem) (len : Nat) : (s.get files hdr len).req = s.req := by
  rw [Session.get]
  split
  · exact replyStatus_req s hdr _
  split
  · exact replyStatus_req s hdr _
  · exact respond_req s hdr _
  split
  · exact replyStatus_req s hdr 416
  · exact respond_req s hdr _
  · exact respond_req s hdr _

/-- Whatever becomes of a request, the reset can clear what it has used. -/
theorem request_used (clear : Clear s.req) (hdr : Mem) (len : Nat) : Used (s.request files hdr len).req := by
  rw [Session.request]
  dsimp only
  split
  · rw [replyStatus_req]
    exact clear.used
  · have used := (@parseRequest_clear hdr len _ _ clear clear).2.1
    generalize parseRequest hdr len s.req = p at used ⊢
    obtain ⟨req,_ | _ | code⟩ := p
    · dsimp only at used ⊢
      split
      · rw [get_req]
        exact used
      · rw [Session.head]
        split
        · rw [replyStatus_req]
          exact used
        · rw [respond_req]
          exact used
      · rw [Session.options]
        split
        · rw [replyStatus_req]
          exact used
        · split <;> (rw [replyStatus_req]; exact used)
      · rw [replyStatus_req]
        exact used
    · rw [replyStatus_req]
      exact used
    · rw [replyStatus_req]
      exact used

/-! ### Runs -/

/-- Between two requests the path buffers are clear. -/
def Ready (c : Child) : Prop := Clear c.session.req ∧ c.session.req.method ≠ .unknown

variable {c : Child}

theorem resume_ready {session : Session} (used : Used session.req) (going : (c.resume session).ended = false) :
    Ready (c.resume session) := by
  rw [Child.resume] at going ⊢
  split at going
  · next kept =>
    rw [if_pos kept]
    exact ⟨used.reset,by rintro ⟨⟩⟩
  · cases going

theorem reply_ready (ready : Ready c) {status : Nat} (going : (c.reply files status).ended = false) :
    Ready (c.reply files status) :=
  resume_ready (by rw [replyStatus_req]; exact ready.1.used) going

theorem read_ready (ready : Ready c) (going : (c.read files).ended = false) : Ready (c.read files) := by
  rw [Child.read] at going ⊢
  cases reads : c.reads with
  | nil =>
    rw [reads] at going
    dsimp only at going ⊢
    rw [Child.endOfStream] at going ⊢
    split at going
    · cases going
    · next front =>
      rw [if_neg front]
      exact reply_ready ready going
  | cons read rest =>
    rw [reads] at going
    cases read with
    | data first octets => exact ready
    | failed errno =>
      have failed : Ready { c with reads := rest } := ready
      cases errno with
      | eintr => exact ready
      | etimedout | eagain => exact reply_ready failed going
      | other => exact reply_ready failed going
      | _ => cases going

theorem step_ready (ready : c.ended = false → Ready c) (going : (c.step files).ended = false) : Ready (c.step files) := by
  rw [Child.step] at going ⊢
  cases finished : c.ended with
  | true =>
    rw [if_pos finished] at going
    cases finished.symm.trans going
  | false =>
    have ready := ready finished
    rw [if_neg (by simp [finished])] at going ⊢
    split at going
    · exact resume_ready (request_used ready.1 _ _) going
    · split at going
      · next full =>
        rw [if_pos full]
        exact reply_ready ready going
      · next room =>
        rw [if_neg room]
        exact read_ready ready going

theorem run_ready (ready : c.ended = false → Ready c) (n : Nat) (going : (run files c n).ended = false) :
    Ready (run files c n) := by
  induction n with
  | zero => exact ready going
  | succ n ih =>
    rw [run,Function.iterate_succ_apply'] at going ⊢
    exact step_ready ih going

/-- A connection starts with clear buffers. -/
theorem accept_ready {previous : Child} {reads : List Read} (known : previous.session.req.method ≠ .unknown)
    (opened : accept previous reads = some c) : Ready c := by
  have clear : ∀ (chunks : Nat) (buf : Mem), Filled 0 (16 * chunks) (zero16 chunks buf) := by
    intro chunks buf
    refine ⟨fun _ => nofun,fun i _ inside => ?_⟩
    rw [zero16,blit_inside (Nat.zero_le i) (by omega)]
  cases reads with
  | nil => cases opened
  | cons read rest =>
    cases read with
    | failed errno => cases opened
    | data first octets =>
      rw [accept] at opened
      dsimp only at opened
      split at opened
      · cases opened
        exact ⟨⟨clear _ _,clear _ _⟩,known⟩
      · cases opened

/-- Wherever two connections have come to, as long as they go on: with the same header in
    front they send one response, the same but for its `Connection` field. -/
def Isolated (getFiletype : List UInt8 → List UInt8) (files : List Resource) (p p' : Process) : Prop :=
  ∀ n n' len, (p.run getFiletype files n).child.ended = false → (p'.run getFiletype files n').child.ended = false →
    parseHeaderEnd (p.run getFiletype files n).child.buf (p.run getFiletype files n).child.count = some len →
      parseHeaderEnd (p'.run getFiletype files n').child.buf (p'.run getFiletype files n').child.count = some len →
        slice (p.run getFiletype files n).child.buf 0 len = slice (p'.run getFiletype files n').child.buf 0 len →
          Answered (p.run getFiletype files n).child.session (p'.run getFiletype files n').child.session
            (p.run getFiletype files (n + 1)).child.session (p'.run getFiletype files (n' + 1)).child.session

/-- After each reset, and at the start, the path buffers are zero to their ends. -/
def Scrubbed (getFiletype : List UInt8 → List UInt8) (files : List Resource) (p : Process) : Prop :=
  ∀ n, (p.run getFiletype files n).child.ended = false →
    (∀ i < filenameOctets, (p.run getFiletype files n).child.session.req.filenameBuf i = 0) ∧
      ∀ i < queryOctets, (p.run getFiletype files n).child.session.req.queryBuf i = 0

theorem serve_session (going : c.ended = false) {len : Nat} (found : parseHeaderEnd c.buf c.count = some len) :
    (c.step files).session.sent = (c.session.request files (store c.buf c.count 0) len).sent := by
  rw [Child.step,if_neg (by simp [going]),found]
  dsimp only
  rw [Child.serve,Child.resume]
  split <;> rfl

/-- The requests of connections are isolated from each other, on one connection and
    between any two. -/
theorem requests_isolated {getFiletype : List UInt8 → List UInt8} {files : List Resource} (embedded : Embedded files)
    {previous previous' p p' : Process} {reads reads' : List Read} (known : previous.child.session.req.method ≠ .unknown)
    (known' : previous'.child.session.req.method ≠ .unknown) (opened : previous.accept reads = some p)
    (opened' : previous'.accept reads' = some p') :
    Scrubbed getFiletype files p ∧ Isolated getFiletype files p p' := by
  have ready : ∀ {previous p : Process} {reads : List Read}, previous.child.session.req.method ≠ .unknown →
      previous.accept reads = some p → ∀ n, (p.run getFiletype files n).child.ended = false →
        Ready (p.run getFiletype files n).child := by
    intro previous p reads known opened n going
    rw [Process.accept,Option.map_eq_some_iff] at opened
    obtain ⟨child,opened,rfl⟩ := opened
    rw [run_child] at going ⊢
    exact run_ready (fun _ => accept_ready known opened) n going
  constructor
  · intro n going
    have clear := (ready known opened n going).1
    exact ⟨fun i inside => clear.1.2 i (Nat.zero_le i) inside,fun i inside => clear.2.2 i (Nat.zero_le i) inside⟩
  · intro n n' len going going' found found' same
    obtain ⟨clear,method⟩ := ready known opened n going
    obtain ⟨clear',method'⟩ := ready known' opened' n' going'
    rw [run_next,run_next,step_child,step_child]
    generalize (p.run getFiletype files n).child = c at going found same clear method ⊢
    generalize (p'.run getFiletype files n').child = c' at going' found' same clear' method' ⊢
    have front : Same len (store c'.buf c'.count 0) (store c.buf c.count 0) := by
      intro i inside
      have within := (parseHeaderEnd_iff.mp found).1
      have within' := (parseHeaderEnd_iff.mp found').1
      have here := slice_eq_iff.mp same i inside
      rw [Nat.zero_add] at here
      rw [store_other _ _ (by omega),store_other _ _ (by omega),here]
    have answered := request_peers embedded clear clear' (by simp [method,method']) (store c.buf c.count 0) len
    rw [Answered,serve_session going found,serve_session going' found',request_same files c'.session front]
    exact answered

/-- Behind a connection that has left a path and the fields of its response. -/
theorem requests_isolated_stale :
    let file : Resource := ⟨⟨ascii "www/a.txt",ascii "abc",ascii "application/json",false⟩,List.replicate 66 'e'.toUInt8⟩
    let zero : Mem := fun _ => 0
    let stale : Request :=
      ⟨.head,0,9,true,3,true,false,0,false,ofBytes (ascii "www/b.txt"),ofBytes (ascii "q=1"),zero,zero⟩
    let previous : Process :=
      ⟨⟨⟨stale,0,0,false,[]⟩,zero,0,0,[],true⟩,
        ⟨true,ascii "old",some (ascii "text/css"),true,[],⟨404,[],3,ascii "old",none⟩⟩⟩
    ∃ p, previous.accept (whole (ascii "GET /a.txt HTTP/1.0\r\n\r\n")) = some p ∧ Scrubbed id [file] p ∧
      Isolated id [file] p p := by
  intro file zero stale previous
  have opened : (previous.accept (whole (ascii "GET /a.txt HTTP/1.0\r\n\r\n"))).isSome := by decide
  obtain ⟨p,opened⟩ := Option.isSome_iff_exists.mp opened
  have known : previous.child.session.req.method ≠ .unknown := show Method.head ≠ .unknown by decide
  exact ⟨p,opened,requests_isolated (by decide) known known opened opened⟩

end Sarm.Http1
