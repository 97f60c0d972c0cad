import Sarm.Http1Request
import Sarm.Response

/-!
How a request of HTTP/1 is answered. The header that has been read is looked at again
when the response is written, for whether the connection may be kept; a field that
is malformed for its reader is answered with status 400 from wherever it is read.
-/
namespace Sarm.Http1
open Sarm.Memory Sarm.H2
open Sarm.Hpack (ascii)

/-- A row of the table of embedded files, with its entity tag. -/
structure Resource extends EmbeddedFile where
  etag : List UInt8

/-- The first file of a path. -/
def lookupResource (files : List Resource) (path : List UInt8) : Option Resource :=
  files.find? fun file => path.length = file.path.length && streqn path file.path

/-- `response`, with the entity tag that is sent with it. -/
structure Reply extends Response where
  etag : List UInt8

/-! ### The header of a response -/

/-- `status_table`. -/
def statusTable : List (Nat × String) := [
  (200,"HTTP/1.1 200 OK"), (201,"HTTP/1.1 201 Created"), (204,"HTTP/1.1 204 No Content"),
  (206,"HTTP/1.1 206 Partial Content"), (400,"HTTP/1.1 400 Bad Request"), (403,"HTTP/1.1 403 Forbidden"),
  (404,"HTTP/1.1 404 Not Found"), (408,"HTTP/1.1 408 Request Timeout"), (409,"HTTP/1.1 409 Conflict"),
  (411,"HTTP/1.1 411 Length Required"), (413,"HTTP/1.1 413 Content Too Large"), (414,"HTTP/1.1 414 URI Too Long"),
  (416,"HTTP/1.1 416 Range Not Satisfiable"), (431,"HTTP/1.1 431 Request Header Fields Too Large"),
  (500,"HTTP/1.1 500 Internal Server Error"), (501,"HTTP/1.1 501 Not Implemented"), (502,"HTTP/1.1 502 Bad Gateway"),
  (503,"HTTP/1.1 503 Service Unavailable"), (505,"HTTP/1.1 505 HTTP Version Not Supported"),
  (507,"HTTP/1.1 507 Insufficient Storage")]

/-- `find_http_code`; an unknown status goes out as 500. -/
def statusLine (status : Nat) : List UInt8 :=
  match statusTable.find? fun row => row.1 = status with
  | some row => ascii row.2
  | none => ascii "HTTP/1.1 500 Internal Server Error"

/-- `Content-Length`, and `Content-Range` on a ranged response. -/
def lengthFields (r : Response) : List UInt8 :=
  ascii "\r\nContent-Length: " ++ itoa r.length ++
    match r.range with
    | none => []
    | some (start,«end») =>
      ascii "\r\nContent-Range: bytes " ++ itoa start ++ ['-'.toUInt8] ++ itoa «end» ++ ['/'.toUInt8] ++ itoa r.contentLength

/-- A header up to its `Connection` field; 204 says nothing of a body. -/
def headerStart (r : Reply) : List UInt8 :=
  statusLine r.status ++
    (if r.status = 204 then []
      else lengthFields r.toResponse ++
        if r.contentLength = 0 then [] else ascii "\r\nContent-Type: " ++ r.contentType) ++
    (if r.gzip then ascii "\r\nContent-Encoding: gzip" else []) ++
    (if r.etag = [] then [] else ascii "\r\nETag: " ++ r.etag)

/-- The rest of it. -/
def headerTail (keep : Bool) : List UInt8 :=
  ascii (if keep then "\r\nConnection: keep-alive" else "\r\nConnection: close") ++
    ascii ("\r\nX-Frame-Options: DENY\r\nReferrer-Policy: no-referrer\r\nAllow: GET, HEAD, OPTIONS\r\nAccept-Ranges: bytes" ++
      "\r\nServer: sarm\r\n\r\n")

/-- `RESPONSE_HEADER_SIZE`. -/
def responseHeaderSize : Nat := 512

/-! ### Whether the connection is kept -/

inductive KeepReply where
  | keep
  | close
  | status (code : Nat)
  deriving DecidableEq, Repr

/-- The index of the first carriage return. The recursion is on the octets left. -/
def findReturn (hdr : Mem) : Nat → Nat → Option Nat
  | 0, _ => none
  | left+1, i => if hdr i = '\r'.toUInt8 then some i else findReturn hdr left (i + 1)

/-- The request line ends in the version 1.0. -/
def isHttp10 (hdr : Mem) (len : Nat) : Bool :=
  match findReturn hdr len 0 with
  | none => false
  | some i => 8 ≤ i && streqnI (slice hdr (i - 8) 8) (ascii "HTTP/1.0")

/-- What may follow an option of the `Connection` field. -/
def optionEnd (octet : UInt8) : Bool :=
  octet = '\r'.toUInt8 || octet = ' '.toUInt8 || octet = '\t'.toUInt8 || octet = ';'.toUInt8 || octet = ','.toUInt8

/-- A value begins with an option, `remaining` octets of the header from there on. -/
def hasOption (hdr : Mem) (start remaining : Nat) (option : List UInt8) : Bool :=
  option.length ≤ remaining && streqnI (slice hdr start option.length) option &&
    (remaining = option.length || optionEnd (hdr (start + option.length)))

/-- The rule on the `Connection` field: what 1.0 has to ask for, 1.1 has to decline. -/
def connectionRule (hdr : Mem) (http10 : Bool) : FieldReply → KeepReply
  | .status code => .status code
  | .absent => if http10 then .close else .keep
  | .found start remaining =>
    if hasOption hdr start remaining (ascii "close") then .close
    else if hasOption hdr start remaining (ascii "keep-alive") then .keep
    else if http10 then .close else .keep

/-- The statuses behind which the header may be out of step. -/
def lostSync (status : Nat) : Bool := status ∈ [400,408,413,431,500]

/-- `http1_should_keep_alive`. -/
def shouldKeepAlive (hdr : Mem) (len : Nat) (method : Method) (status : Nat) : KeepReply :=
  if len = 0 ∨ method = .unknown ∨ lostSync status then .close
  else match getHeaderField hdr len (ascii "Content-Length") with
    | .status code => .status code
    | .found _ _ => .close
    | .absent => match getHeaderField hdr len (ascii "Transfer-Encoding") with
      | .status code => .status code
      | .found _ _ => .close
      | .absent => connectionRule hdr (isHttp10 hdr len) (getHeaderField hdr len (ascii "Connection"))

/-! ### Ranges -/

/-- The digits up to the end of the line. -/
def lineDigits : List UInt8 → List UInt8 → Option (List UInt8)
  | [], _ => none
  | octet :: rest, digits =>
    if octet = '\r'.toUInt8 then some digits
    else if isDigit octet then if 18 ≤ digits.length then none else lineDigits rest (digits ++ [octet])
    else none

/-- The range a `range` field asks for, out of the header from its value on; none if it
    is not a single usable one. -/
def rangeValue (value : List UInt8) : Option ByteRange :=
  if value.length ≤ 6 then none
  else if streqnI (value.take 5) (ascii "bytes") = false ∨ value[5]? ≠ some '='.toUInt8 then none
  else do
    let (first,rest) ← startDigits (value.drop 6) []
    let start ← rangeBound first
    let last ← lineDigits rest []
    let «end» ← rangeBound last
    match start, «end» with
    | none, none => none
    | some start, some «end» => if «end» < start then none else some ⟨some start,some «end»⟩
    | _, _ => some ⟨start,«end»⟩

/-- `parse_range`; a malformed field is answered straight away. -/
def parseRange (hdr : Mem) (len : Nat) : Except Nat (Option ByteRange) :=
  match getHeaderField hdr len (ascii "range") with
  | .status code => .error code
  | .absent => .ok none
  | .found start remaining => .ok (rangeValue (slice hdr start remaining))

/-- `Lbuild_ranged_header` of `get`. -/
def rangedHeader (size start «end» : Nat) : RangeReply :=
  if size ≤ start then .unsatisfiable else .window start «end»

/-- What `get` makes of a range of a file. -/
def getRange (r : ByteRange) (size : Nat) : RangeReply :=
  match r.start with
  | none =>
    let count := r.end.getD (2^64 - 1)
    if count = 0 then .unsatisfiable
    else if size = 0 then .whole
    else if count < size then rangedHeader size (size - count) (size - 1)
    else rangedHeader size 0 (size - 1)
  | some start =>
    if size = 0 ∨ size ≤ start then .unsatisfiable
    else match r.end with
      | none => rangedHeader size start (size - 1)
      | some «end» => rangedHeader size start (if size - 1 < «end» then size - 1 else «end»)

/-! ### Writing a response -/

/-- What a connection keeps from one request to the next. `headerLen` is that of the
    last request; the responses are there as they go to the socket, whose failures
    nothing looks at. -/
structure Session where
  req : Request
  headerLen : Nat
  budget : Int
  decision : Bool
  sent : List (List UInt8)

/-- What becomes of a response. -/
inductive Written where
  | done
  | tooBig
  | status (code : Nat)
  deriving DecidableEq, Repr

/-- `http1_write_response`. The decision to keep the connection is made once the front
    of the header is there. -/
def Session.writeResponse (s : Session) (hdr : Mem) (r : Reply) : Session × Written :=
  let start := headerStart r
  if responseHeaderSize < start.length then (s,.tooBig)
  else match shouldKeepAlive hdr s.headerLen s.req.method r.status with
    | .status code => (s,.status code)
    | reply =>
      let keep := reply = .keep ∧ 0 < s.budget
      let s := { s with decision := keep }
      let header := start ++ headerTail keep
      if responseHeaderSize < header.length then (s,.tooBig)
      else ({ s with sent := s.sent ++ [header ++ r.body] },.done)

/-- A response of a header alone. -/
def bareReply (status : Nat) : Reply := ⟨⟨status,[],0,none,[],false⟩,[]⟩

/-- The page for a status, if there is one. -/
def statusReply (files : List Resource) (status : Nat) : Reply :=
  if status < 400 ∨ 507 < status then bareReply status
  else match lookupResource files (ascii "www/err/" ++ itoa status ++ ascii ".html") with
    | none => bareReply status
    | some file => ⟨⟨status,file.contentType,file.content.length,none,file.content,file.gzip⟩,file.etag⟩

/-- `reply_status`, up to where the connection goes on. A malformed field is answered
    from inside with another status, which does not look at fields. -/
def Session.replyStatus (files : List Resource) (s : Session) (hdr : Mem) (status : Nat) : Session :=
  match s.writeResponse hdr (statusReply files status) with
  | (s,.status code) => (s.writeResponse hdr (statusReply files code)).1
  | (s,_) => s

/-- The response of a handler. -/
def Session.respond (files : List Resource) (s : Session) (hdr : Mem) (r : Reply) : Session :=
  match s.writeResponse hdr r with
  | (s,.done) => s
  | (s,.tooBig) => s.replyStatus files hdr 500
  | (s,.status code) => s.replyStatus files hdr code

/-! ### The methods -/

/-- The file of the request, or the status it is answered with. -/
def getSetup (files : List Resource) (r : Request) : Except Nat Resource :=
  if r.filenameBuf 0 = '*'.toUInt8 then .error 400
  else match lookupResource files (slice r.filenameBuf 0 r.pathLength) with
    | none => .error 404
    | some file => .ok file

/-- The response of a file, with its entity tag. -/
def resourceReply (file : Resource) (range : Option (Nat × Nat)) : Reply :=
  ⟨fileResponse file.toEmbeddedFile range,file.etag⟩

def Session.get (files : List Resource) (s : Session) (hdr : Mem) (len : Nat) : Session :=
  match getSetup files s.req with
  | .error code => s.replyStatus files hdr code
  | .ok file => match parseRange hdr len with
    | .error code => s.replyStatus files hdr code
    | .ok none => s.respond files hdr (resourceReply file none)
    | .ok (some range) => match getRange range file.content.length with
      | .unsatisfiable => s.replyStatus files hdr 416
      | .whole => s.respond files hdr (resourceReply file none)
      | .window start «end» => s.respond files hdr (resourceReply file (some (start,«end»)))

def Session.head (files : List Resource) (s : Session) (hdr : Mem) : Session :=
  match getSetup files s.req with
  | .error code => s.replyStatus files hdr code
  | .ok file => s.respond files hdr { resourceReply file none with body := [] }

def Session.options (files : List Resource) (s : Session) (hdr : Mem) : Session :=
  if s.req.filenameBuf 0 = '*'.toUInt8 then s.replyStatus files hdr 204
  else match lookupResource files (slice s.req.filenameBuf 0 s.req.pathLength) with
    | none => s.replyStatus files hdr 404
    | some _ => s.replyStatus files hdr 204

/-! ### A request -/

/-- The index of the line feed that ends the request line, `left` octets from `i` on. An
    octet behind a carriage return is passed over if it is no line feed. -/
def lineEnd (hdr : Mem) : Nat → Nat → Option Nat
  | 0, _ => none
  | 1, _ => none
  | left+2, i =>
    if hdr i = '\r'.toUInt8 then
      if hdr (i + 1) = '\n'.toUInt8 then some (i + 1) else lineEnd hdr left (i + 2)
    else lineEnd hdr (left + 1) (i + 1)

/-- `verify_http_version`: the status of a request line it does not accept. HTTP/1.1 has to
    name a host. -/
def verifyHttpVersion (hdr : Mem) (len : Nat) : Option Nat :=
  match lineEnd hdr len 0 with
  | none => some 400
  | some i =>
    if i < 9 then some 400
    else if slice hdr (i - 9) 8 = ascii "HTTP/1.1" then
      match getHeaderField hdr len (ascii "Host") with
      | .status code => some code
      | .absent => some 400
      | .found _ _ => none
    else if slice hdr (i - 9) 8 = ascii "HTTP/1.0" then none
    else if slice hdr (i - 9) 5 = ascii "HTTP/" then some 505
    else some 400

/-- A request with a header of `len` octets, up to where the connection goes on. -/
def Session.request (files : List Resource) (s : Session) (hdr : Mem) (len : Nat) : Session :=
  let s := { s with headerLen := len, budget := s.budget - 1 }
  match verifyHttpVersion hdr len with
  | some code => s.replyStatus files hdr code
  | none => match parseRequest hdr len s.req with
    | (req,.failed) => Session.replyStatus files { s with req := req } hdr 400
    | (req,.status code) => Session.replyStatus files { s with req := req } hdr code
    | (req,.parsed) => match req.method with
      | .get => Session.get files { s with req := req } hdr len
      | .head => Session.head files { s with req := req } hdr
      | .options => Session.options files { s with req := req } hdr
      | .unknown => Session.replyStatus files { s with req := req } hdr 501

end Sarm.Http1
