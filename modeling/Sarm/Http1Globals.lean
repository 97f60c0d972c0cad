import Sarm.Child
import Sarm.Ranges

/-!
The globals of the HTTP/1 handlers: what the resource lookup leaves for the response
builders, and the record of the response. They keep what the last response put there;
a response is encoded from them. The session, without them, goes through the same
states whatever they hold.
-/
namespace Sarm.Http1
open Sarm.Memory Sarm.H2
open Sarm.Hpack (ascii)

/-- `response`; a range of -1 is none. -/
structure ResponseRecord where
  status : Nat
  contentType : List UInt8
  contentLength : Nat
  body : List UInt8
  range : Option (Nat × Nat)

/-- `resource_type`, `embedded_content` and the rest of the resource, and `response`. -/
structure Globals where
  embedded : Bool
  content : List UInt8
  contentType : Option (List UInt8)
  gzip : Bool
  etag : List UInt8
  response : ResponseRecord

/-- What `http1_write_response` encodes. -/
def Globals.reply (g : Globals) : Reply :=
  ⟨⟨g.response.status,g.response.contentType,g.response.contentLength,g.response.range,g.response.body,
    g.embedded && g.gzip⟩,if g.embedded then g.etag else []⟩

/-- A resource that has been found. -/
def Globals.found (g : Globals) (file : Resource) : Globals :=
  { g with embedded := true, content := file.content, contentType := some file.contentType, gzip := file.gzip, etag := file.etag }

/-- What `http1_reset_request` leaves of them: zeros, also for the range. -/
def Globals.cleared : Globals := ⟨false,[],none,false,[],⟨0,[],0,[],some (0,0)⟩⟩

/-- The session with the globals. -/
structure Responder where
  session : Session
  globals : Globals

section
variable (getFiletype : List UInt8 → List UInt8) (files : List Resource)

/-! ### Responses -/

/-- `create_response`. Without a content type the record has one by the name of the
    file. -/
def Responder.createResponse (w : Responder) (status contentLength : Nat) (range : Option (Nat × Nat))
    (body : List UInt8) :
    Responder :=
  let path := slice w.session.req.filenameBuf 0 w.session.req.pathLength
  { w with
    globals := { w.globals with
      response := ⟨status,w.globals.contentType.getD (getFiletype path),contentLength,body,range⟩ } }

/-- `http1_write_response`. -/
def Responder.writeResponse (w : Responder) (hdr : Mem) : Responder × Written :=
  match w.session.writeResponse hdr w.globals.reply with
  | (session,written) => ({ w with session := session },written)

/-- `reply_status` up to its response. -/
def Responder.statusPage (w : Responder) (status : Nat) : Responder :=
  let bare := { w with globals := { w.globals with embedded := false } }
  if status < 400 ∨ 507 < status then bare.createResponse getFiletype status 0 none []
  else match lookupResource files (ascii "www/err/" ++ itoa status ++ ascii ".html") with
    | none => bare.createResponse getFiletype status 0 none []
    | some file =>
      Responder.createResponse getFiletype { w with globals := w.globals.found file } status file.content.length none file.content

/-- `reply_status`. -/
def Responder.replyStatus (w : Responder) (hdr : Mem) (status : Nat) : Responder :=
  match (w.statusPage getFiletype files status).writeResponse hdr with
  | (w,.status code) => ((w.statusPage getFiletype files code).writeResponse hdr).1
  | (w,_) => w

/-- The response of a handler is in the record. -/
def Responder.respond (w : Responder) (hdr : Mem) : Responder :=
  match w.writeResponse hdr with
  | (w,.done) => w
  | (w,.tooBig) => w.replyStatus getFiletype files hdr 500
  | (w,.status code) => w.replyStatus getFiletype files hdr code

/-! ### The methods -/

/-- `get_setup`: the size of the file. -/
def Responder.getSetup (w : Responder) : Responder × Except Nat Nat :=
  if w.session.req.filenameBuf 0 = '*'.toUInt8 then (w,.error 400)
  else match lookupResource files (slice w.session.req.filenameBuf 0 w.session.req.pathLength) with
    | none => ({ w with globals := { w.globals with embedded := false } },.error 404)
    | some file => ({ w with globals := w.globals.found file },.ok file.content.length)

/-- `Lcreate_response` of `get`, for the octets of the content from `start` to `stop`. -/
def Responder.window (w : Responder) (status size : Nat) (range : Option (Nat × Nat)) (start stop : Nat) : Responder :=
  w.createResponse getFiletype status size range ((w.globals.content.drop start).take (stop - start))

def Responder.get (w : Responder) (hdr : Mem) (len : Nat) : Responder :=
  match w.getSetup files with
  | (w,.error code) => w.replyStatus getFiletype files hdr code
  | (w,.ok size) => match parseRange hdr len with
    | .error code => w.replyStatus getFiletype files hdr code
    | .ok none => (w.window getFiletype 200 size none 0 size).respond getFiletype files hdr
    | .ok (some range) => match getRange range size with
      | .unsatisfiable => w.replyStatus getFiletype files hdr 416
      | .whole => (w.window getFiletype 200 size none 0 size).respond getFiletype files hdr
      | .window start «end» =>
        (w.window getFiletype 206 size (some (start,«end»)) start («end» + 1)).respond getFiletype files hdr

def Responder.head (w : Responder) (hdr : Mem) : Responder :=
  match w.getSetup files with
  | (w,.error code) => w.replyStatus getFiletype files hdr code
  | (w,.ok size) => (w.createResponse getFiletype 200 size none []).respond getFiletype files hdr

def Responder.options (w : Responder) (hdr : Mem) : Responder :=
  if w.session.req.filenameBuf 0 = '*'.toUInt8 then w.replyStatus getFiletype files hdr 204
  else match lookupResource files (slice w.session.req.filenameBuf 0 w.session.req.pathLength) with
    | none => w.replyStatus getFiletype files hdr 404
    | some _ => w.replyStatus getFiletype files hdr 204

/-- A request with a header of `len` octets, up to where the connection goes on. -/
def Responder.request (w : Responder) (hdr : Mem) (len : Nat) : Responder :=
  let w := { w with session := { w.session with headerLen := len, budget := w.session.budget - 1 } }
  match verifyHttpVersion hdr len with
  | some code => w.replyStatus getFiletype files hdr code
  | none => match parseRequest hdr len w.session.req with
    | (req,reply) =>
      let w := { w with session := { w.session with req := req } }
      match reply with
      | .failed => w.replyStatus getFiletype files hdr 400
      | .status code => w.replyStatus getFiletype files hdr code
      | .parsed => match req.method with
        | .get => w.get getFiletype files hdr len
        | .head => w.head getFiletype files hdr
        | .options => w.options getFiletype files hdr
        | .unknown => w.replyStatus getFiletype files hdr 501

/-! ### The loop -/

/-- The process of a connection. -/
structure Process where
  child : Child
  globals : Globals

/-- The session of a process with its globals. -/
def Process.responder (p : Process) : Responder := ⟨p.child.session,p.globals⟩

/-- `http1_keepalive_continue`, with what `http1_reset_request` clears. -/
def Process.resume (p : Process) (w : Responder) : Process :=
  ⟨p.child.resume w.session,if w.session.decision then .cleared else w.globals⟩

def Process.reply (p : Process) (status : Nat) : Process :=
  p.resume (p.responder.replyStatus getFiletype files p.child.buf status)

def Process.serve (p : Process) (len : Nat) : Process :=
  let c := { p.child with totalLen := p.child.count, buf := store p.child.buf p.child.count 0 }
  Process.resume { p with child := c } (p.responder.request getFiletype files c.buf len)

/-- The connection is over without an answer. -/
def Process.close (p : Process) : Process := { p with child := { p.child with ended := true } }

def Process.endOfStream (p : Process) : Process := if p.child.count = 0 then p.close else p.reply getFiletype files 400

/-- `read_failed`. -/
def Process.readFailed (p : Process) (errno : Errno) : Process :=
  match errno with
  | .eintr => p
  | .etimedout | .eagain => p.reply getFiletype files 408
  | .econnreset | .econnaborted | .epipe | .enetdown | .enetunreach | .enetreset | .ehostdown | .ehostunreach => p.close
  | .other => p.reply getFiletype files 500

def Process.read (p : Process) : Process :=
  match p.child.reads with
  | [] => p.endOfStream getFiletype files
  | .failed errno :: reads =>
    Process.readFailed getFiletype files { p with child := { p.child with reads := reads } } errno
  | .data first rest :: reads =>
    let n := min (bufSize - p.child.count) (rest.length + 1)
    { p with
      child := { p.child with
        buf := blit p.child.buf p.child.count (ofBytes (first :: rest)) n
        count := p.child.count + n
        reads := leaving (first :: rest) n reads } }

def Process.step (p : Process) : Process :=
  if p.child.ended then p
  else match parseHeaderEnd p.child.buf p.child.count with
    | some len => p.serve getFiletype files len
    | none => if bufSize ≤ p.child.count then p.reply getFiletype files 431 else p.read getFiletype files

def Process.run (p : Process) (n : Nat) : Process := (Process.step getFiletype files)^[n] p

/-- A connection is accepted; the globals are what the last one has left. -/
def Process.accept (previous : Process) (reads : List Read) : Option Process :=
  (Http1.accept previous.child reads).map fun child => ⟨child,previous.globals⟩

/-! ### Without the globals -/

/-- A header shows no content type where there is no content. -/
theorem writeResponse_bare (s : Session) (hdr : Mem) (status : Nat) (contentType : List UInt8) :
    s.writeResponse hdr ⟨⟨status,contentType,0,none,[],false⟩,[]⟩ = s.writeResponse hdr (bareReply status) := by
  have start : headerStart ⟨⟨status,contentType,0,none,[],false⟩,[]⟩ = headerStart (bareReply status) := rfl
  rw [Session.writeResponse,Session.writeResponse,start]
  rfl

variable {getFiletype files} {w : Responder}

/-- A page is encoded as if it had been built from nothing. -/
theorem statusPage_writes (hdr : Mem) (status : Nat) :
    (w.statusPage getFiletype files status).session.writeResponse hdr
    (w.statusPage getFiletype files status).globals.reply =
      w.session.writeResponse hdr (statusReply files status) := by
  rw [Responder.statusPage,statusReply]
  by_cases out : status < 400 ∨ 507 < status
  · rw [if_pos out,if_pos out]
    exact writeResponse_bare w.session hdr status _
  · rw [if_neg out,if_neg out]
    cases lookupResource files (ascii "www/err/" ++ itoa status ++ ascii ".html") with
    | none => exact writeResponse_bare w.session hdr status _
    | some file => rfl

theorem replyStatus_session (hdr : Mem) (status : Nat) :
    (w.replyStatus getFiletype files hdr status).session = w.session.replyStatus files hdr status := by
  have page := @statusPage_writes getFiletype files w hdr status
  rw [Responder.replyStatus,Responder.writeResponse,page,Session.replyStatus]
  generalize w.session.writeResponse hdr (statusReply files status) = written
  obtain ⟨session,_ | _ | code⟩ := written
  · rfl
  · rfl
  · have again :=
      @statusPage_writes getFiletype files { (w.statusPage getFiletype files status) with session := session } hdr code
    exact congrArg Prod.fst again

theorem respond_session {r : Reply} (hdr : Mem) (built : w.globals.reply = r) :
    (w.respond getFiletype files hdr).session = w.session.respond files hdr r := by
  rw [Responder.respond,Responder.writeResponse,built,Session.respond]
  generalize w.session.writeResponse hdr r = written
  obtain ⟨session,_ | _ | code⟩ := written
  · rfl
  · exact replyStatus_session hdr 500
  · exact replyStatus_session hdr code

/-- The record of a file that has been found is that of its response. -/
theorem window_reply (file : Resource) :
    ((Responder.window getFiletype { w with globals := w.globals.found file } 200 file.content.length none 0
        file.content.length).globals.reply = resourceReply file none) ∧
      ∀ start «end», start ≤ «end» →
        (Responder.window getFiletype { w with globals := w.globals.found file } 206 file.content.length
          (some (start,«end»)) start
          («end» + 1)).globals.reply = resourceReply file (some (start,«end»)) := by
  constructor
  · simp [Responder.window,Responder.createResponse,Globals.reply,Globals.found,resourceReply,fileResponse]
  · intro start «end» le
    have length : «end» + 1 - start = «end» - start + 1 := by omega
    simp [Responder.window,Responder.createResponse,Globals.reply,Globals.found,resourceReply,fileResponse,length]

theorem window_session (file : Resource) (hdr : Mem) :
    ((Responder.window getFiletype { w with globals := w.globals.found file } 200 file.content.length none 0
      file.content.length).respond getFiletype files hdr).session =
        w.session.respond files hdr (resourceReply file none) :=
  respond_session hdr (window_reply file).1

theorem get_session (hdr : Mem) (len : Nat) :
    (w.get getFiletype files hdr len).session = w.session.get files hdr len := by
  rw [Responder.get,Responder.getSetup,Session.get,getSetup]
  by_cases asterisk : w.session.req.filenameBuf 0 = '*'.toUInt8
  · rw [if_pos asterisk,if_pos asterisk]
    exact replyStatus_session hdr 400
  rw [if_neg asterisk,if_neg asterisk]
  cases lookupResource files (slice w.session.req.filenameBuf 0 w.session.req.pathLength) with
  | none => exact replyStatus_session hdr 404
  | some file =>
    dsimp only
    cases parsed : parseRange hdr len with
    | error code => exact replyStatus_session hdr code
    | ok range =>
      cases range with
      | none => exact window_session file hdr
      | some range =>
        dsimp only
        cases chosen : getRange range file.content.length with
        | unsatisfiable => exact replyStatus_session hdr 416
        | whole => exact window_session file hdr
        | window start «end» =>
          exact respond_session hdr ((window_reply file).2 start «end» (getRange_inside parsed chosen).1)

theorem head_session (hdr : Mem) : (w.head getFiletype files hdr).session = w.session.head files hdr := by
  rw [Responder.head,Responder.getSetup,Session.head,getSetup]
  by_cases asterisk : w.session.req.filenameBuf 0 = '*'.toUInt8
  · rw [if_pos asterisk,if_pos asterisk]
    exact replyStatus_session hdr 400
  rw [if_neg asterisk,if_neg asterisk]
  cases lookupResource files (slice w.session.req.filenameBuf 0 w.session.req.pathLength) with
  | none => exact replyStatus_session hdr 404
  | some file => exact respond_session hdr rfl

theorem options_session (hdr : Mem) : (w.options getFiletype files hdr).session = w.session.options files hdr := by
  rw [Responder.options,Session.options]
  by_cases asterisk : w.session.req.filenameBuf 0 = '*'.toUInt8
  · rw [if_pos asterisk,if_pos asterisk]
    exact replyStatus_session hdr 204
  rw [if_neg asterisk,if_neg asterisk]
  cases lookupResource files (slice w.session.req.filenameBuf 0 w.session.req.pathLength) with
  | none => exact replyStatus_session hdr 404
  | some file => exact replyStatus_session hdr 204

/-- What is done with a request does not depend on the globals. -/
theorem request_session (hdr : Mem) (len : Nat) :
    (w.request getFiletype files hdr len).session = w.session.request files hdr len := by
  rw [Responder.request,Session.request]
  dsimp only
  cases verifyHttpVersion hdr len with
  | some code => exact replyStatus_session hdr code
  | none =>
    dsimp only
    obtain ⟨req,_ | _ | code⟩ := parseRequest hdr len w.session.req
    · dsimp only
      cases req.method with
      | get => exact get_session hdr len
      | head => exact head_session hdr
      | options => exact options_session hdr
      | unknown => exact replyStatus_session hdr 501
    · exact replyStatus_session hdr 400
    · exact replyStatus_session hdr code

theorem reply_child (p : Process) (status : Nat) :
    (p.reply getFiletype files status).child = p.child.reply files status := by
  rw [Process.reply,Process.resume,Child.reply,replyStatus_session]
  rfl

theorem read_child (p : Process) : (p.read getFiletype files).child = p.child.read files := by
  rw [Process.read,Child.read]
  cases p.child.reads with
  | nil =>
    dsimp only
    rw [Process.endOfStream,Child.endOfStream]
    by_cases nothing : p.child.count = 0
    · rw [if_pos nothing,if_pos nothing]
      rfl
    · rw [if_neg nothing,if_neg nothing]
      exact reply_child p 400
  | cons read reads =>
    cases read with
    | data first rest => rfl
    | failed errno =>
      cases errno with
      | etimedout | eagain => exact reply_child _ 408
      | other => exact reply_child _ 500
      | _ => rfl

/-- A step of the process is one of the loop. -/
theorem step_child (p : Process) : (p.step getFiletype files).child = p.child.step files := by
  rw [Process.step,Child.step]
  cases p.child.ended with
  | true => rfl
  | false =>
    rw [if_neg Bool.false_ne_true,if_neg Bool.false_ne_true]
    cases parseHeaderEnd p.child.buf p.child.count with
    | some len =>
      dsimp only
      rw [Process.serve,Process.resume,request_session]
      rfl
    | none =>
      dsimp only
      split
      · exact reply_child p 431
      · exact read_child p

theorem run_next (p : Process) (n : Nat) :
    p.run getFiletype files (n + 1) = (p.run getFiletype files n).step getFiletype files :=
  Function.iterate_succ_apply' _ n p

/-- Whatever the globals hold, the loop goes through the same states. -/
theorem run_child (p : Process) (n : Nat) : (p.run getFiletype files n).child = run files p.child n := by
  rw [Process.run,run]
  exact Function.Semiconj.iterate_right (f := Process.child) step_child n p

end

end Sarm.Http1
