import Sarm.Detection
import Sarm.HeaderEnd
import Sarm.Http1Response

/-!
The loop of an HTTP/1 connection. Octets gather in the buffer until a header is
whole; the request is answered, and what is behind it moves to the front of the
buffer. A step is one read, one request, or the end.
-/
namespace Sarm.Http1
open Sarm.Memory Sarm.H2
open Sarm.Hpack (ascii memcpy)

/-! ### Reads -/

/-- The failures of a `read` that are told apart. -/
inductive Errno where
  | eintr
  | econnreset
  | etimedout
  | eagain
  | econnaborted
  | epipe
  | enetdown
  | enetunreach
  | enetreset
  | ehostdown
  | ehostunreach
  | other
  deriving DecidableEq, Repr

/-- What the socket has for a `read`: octets, at least one, of which it takes as many as
    it has room for, or a failure. The end of the stream is the end of the list. -/
inductive Read where
  | data (first : UInt8) (rest : List UInt8)
  | failed (errno : Errno)
  deriving DecidableEq, Repr

/-- What is left of octets for the read behind the one that has taken `n` of them. -/
def leaving (octets : List UInt8) (n : Nat) (reads : List Read) : List Read :=
  match octets.drop n with
  | [] => reads
  | first :: rest => .data first rest :: reads

/-! ### Resetting the request -/

/-- Clear chunks of 16 octets. -/
def zero16 (chunks : Nat) (buf : Mem) : Mem := blit buf 0 (fun _ => 0) (16 * chunks)

/-- Clear chunks up to the first that is clear. The recursion is on the chunks left. -/
def zeroDirty : Nat → Nat → Mem → Mem
  | 0, _, buf => buf
  | left+1, i, buf =>
    if slice buf i 16 = List.replicate 16 0 then buf else zeroDirty left (i + 16) (blit buf i (fun _ => 0) 16)

/-- Chunks of the path buffers and of the authority buffer. -/
def filenameChunks : Nat := 257
def queryChunks : Nat := 256
def authorityChunks : Nat := 17

/-- `http1_reset_request`, of what is read of it again. -/
def http1ResetRequest (r : Request) : Request where
  method := .get
  streamId := 0
  pathLength := 0
  query := false
  queryLength := 0
  authority := false
  range := false
  rangeLength := 0
  forbidden := false
  filenameBuf := zeroDirty filenameChunks 0 r.filenameBuf
  queryBuf := zeroDirty queryChunks 0 r.queryBuf
  authorityBuf := zero16 authorityChunks r.authorityBuf
  rangeBuf := r.rangeBuf

/-- `http1_scrub_path_buffers`. -/
def http1ScrubPathBuffers (r : Request) : Request :=
  { r with filenameBuf := zero16 filenameChunks r.filenameBuf, queryBuf := zero16 queryChunks r.queryBuf }

/-! ### The loop -/

structure Child where
  session : Session
  buf : Mem
  count : Nat
  totalLen : Nat
  reads : List Read
  ended : Bool

/-- `http1_keepalive_continue`: with what is behind the header the connection goes on. -/
def Child.resume (c : Child) (session : Session) : Child :=
  if session.decision then
    { c with
      session := { session with req := http1ResetRequest session.req }
      buf := if session.headerLen < c.totalLen then memcpy c.buf 0 session.headerLen
        (c.totalLen - session.headerLen) else c.buf
      count := c.totalLen - session.headerLen }
  else { c with session := session, ended := true }

/-- An answer without a request. -/
def Child.reply (files : List Resource) (c : Child) (status : Nat) : Child :=
  c.resume (c.session.replyStatus files c.buf status)

/-- A whole header is there; a NUL goes behind the octets read. -/
def Child.serve (files : List Resource) (c : Child) (len : Nat) : Child :=
  let c := { c with totalLen := c.count, buf := store c.buf c.count 0 }
  c.resume (c.session.request files c.buf len)

/-- The end of the stream, in the middle of a header or between two. -/
def Child.endOfStream (files : List Resource) (c : Child) : Child :=
  if c.count = 0 then { c with ended := true } else c.reply files 400

/-- `read_failed`. -/
def Child.readFailed (files : List Resource) (c : Child) (errno : Errno) : Child :=
  match errno with
  | .eintr => c
  | .etimedout | .eagain => c.reply files 408
  | .econnreset | .econnaborted | .epipe | .enetdown | .enetunreach | .enetreset | .ehostdown | .ehostunreach =>
    { c with ended := true }
  | .other => c.reply files 500

/-- A read behind the octets that are there. -/
def Child.read (files : List Resource) (c : Child) : Child :=
  match c.reads with
  | [] => c.endOfStream files
  | .failed errno :: reads => Child.readFailed files { c with reads := reads } errno
  | .data first rest :: reads =>
    let n := min (bufSize - c.count) (rest.length + 1)
    { c with
      buf := blit c.buf c.count (ofBytes (first :: rest)) n
      count := c.count + n
      reads := leaving (first :: rest) n reads }

def Child.step (files : List Resource) (c : Child) : Child :=
  if c.ended then c
  else match parseHeaderEnd c.buf c.count with
    | some len => c.serve files len
    | none => if bufSize ≤ c.count then c.reply files 431 else c.read files

def run (files : List Resource) (c : Child) (n : Nat) : Child := (Child.step files)^[n] c

/-! ### Where it starts -/

/-- `HTTP1_KEEPALIVE_BUDGET`. -/
def keepaliveBudget : Int := 100

/-- `_main` up to `child_with_data`, and that up to its loop, behind what a process has
    done before: the first read is that of a connection of HTTP/1. -/
def accept (previous : Child) : List Read → Option Child
  | .data first rest :: reads =>
    let n := min bufSize (rest.length + 1)
    let buf := blit previous.buf 0 (ofBytes (first :: rest)) n
    if detectProtocol buf n = .http1 then
      let session := previous.session
      some {
        session := { session with req := http1ScrubPathBuffers session.req, budget := keepaliveBudget, sent := [] }
        buf := buf
        count := n
        totalLen := previous.totalLen
        reads := leaving (first :: rest) n reads
        ended := false }
    else none
  | _ => none

end Sarm.Http1
