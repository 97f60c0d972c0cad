import Sarm.Http1Path
import Sarm.Request

/-!
A request of HTTP/1, out of its header, and the fields of a header. Only the methods
that are served have their path parsed.
-/
namespace Sarm.Http1
open Sarm.Memory Sarm.H2
open Sarm.Hpack (ascii)

/-- A field of a header: where its value starts, and what is left of the header there. -/
inductive FieldReply where
  | found (start remaining : Nat)
  | absent
  | status (code : Nat)
  deriving DecidableEq, Repr

/-- Go past the blanks behind the colon at `i`. The recursion is on the octets left
    behind it. -/
def skipBlanks (hdr : Mem) : Nat → Nat → FieldReply
  | 0, _ => .status 400
  | left+1, i =>
    if hdr (i + 1) = ' '.toUInt8 ∨ hdr (i + 1) = '\t'.toUInt8 then skipBlanks hdr left (i + 1)
    else .found (i + 1) (left + 1)

/-- A line that starts with the name of the field, `left` octets of the header behind
    the name. -/
def fieldValue (hdr : Mem) (left i : Nat) : FieldReply :=
  match left with
  | 0 => .status 400
  | left+1 => if hdr i = ':'.toUInt8 then skipBlanks hdr left i else .status 400

/-- Look for a line that starts with the name, `left` octets from `i` on. A line has an
    octet behind the end of the one before it, which is passed over if the line does
    not start with the name. -/
def scanField (hdr : Mem) (name : List UInt8) : Nat → Nat → FieldReply
  | 0, _ | 1, _ | 2, _ => .absent
  | left+3, i =>
    if hdr i = '\r'.toUInt8 then
      if hdr (i + 1) = '\n'.toUInt8 then
        if hdr (i + 2) = ' '.toUInt8 ∨ hdr (i + 2) = '\t'.toUInt8 then .status 400
        else if left + 1 < name.length then .absent
        else if streqnI (slice hdr (i + 2) name.length) name then
          fieldValue hdr (left + 1 - name.length) (i + 2 + name.length)
        else scanField hdr name left (i + 3)
      else scanField hdr name (left + 2) (i + 1)
    else scanField hdr name (left + 2) (i + 1)

def getHeaderField (hdr : Mem) (len : Nat) (name : List UInt8) : FieldReply := scanField hdr name len 0

/-! ### The request -/

/-- The method, by its first octets. -/
def requestMethod (hdr : Mem) : Method :=
  if slice hdr 0 4 = ascii "GET " then .get
  else if slice hdr 0 5 = ascii "HEAD " then .head
  else if slice hdr 0 8 = ascii "OPTIONS " then .options
  else .unknown

/-- Copy the value of the host field up to the end of its line, cut off at the size of
    the buffer, with a NUL behind it. The recursion is on the octets left. -/
def copyHost (hdr : Mem) : Nat → Nat → Nat → Mem → Mem
  | 0, _, written, buf => store buf written 0
  | left+1, read, written, buf =>
    if authorityBufSize ≤ written ∨ hdr read = '\r'.toUInt8 then store buf written 0
    else copyHost hdr left (read + 1) (written + 1) (store buf written (hdr read))

/-- A request is there, or there is none, or it is answered straight away. -/
inductive RequestReply where
  | parsed
  | failed
  | status (code : Nat)
  deriving DecidableEq, Repr

/-- The part behind the path: the host. -/
def storeHost (hdr : Mem) (len : Nat) (r : Request) : Request × RequestReply :=
  match getHeaderField hdr len (ascii "Host") with
  | .status code => (r,.status code)
  | .absent => ({ r with authority := false },.parsed)
  | .found start remaining =>
    ({ r with authority := true, authorityBuf := copyHost hdr remaining start 0 r.authorityBuf },.parsed)

/-- The part behind the method. -/
def parseTarget (hdr : Mem) (len : Nat) (r : Request) : Request × RequestReply :=
  match parsePath hdr len (r.method ≠ .options) ⟨r.filenameBuf,r.queryBuf⟩ with
  | (bufs,.noMatch) => ({ r with filenameBuf := bufs.filename, queryBuf := bufs.query },.failed)
  | (bufs,.status code) => ({ r with filenameBuf := bufs.filename, queryBuf := bufs.query },.status code)
  | (bufs,.path parsed) =>
    let r := { r with filenameBuf := bufs.filename, queryBuf := bufs.query }
    match decodeUrl r.filenameBuf parsed.length with
    | (filename,none) => ({ r with filenameBuf := filename },.failed)
    | (filename,some length) =>
      let r := { r with filenameBuf := filename }
      if pathForbidden filename length then (r,.failed)
      else storeHost hdr len
        { r with pathLength := length, query := parsed.query.isSome, queryLength := parsed.query.getD 0 }

/-- Parse a header of `len` octets into the record. -/
def parseRequest (hdr : Mem) (len : Nat) (r : Request) : Request × RequestReply :=
  let r := { r with method := requestMethod hdr, streamId := 0 }
  if r.method = .unknown then (r,.parsed) else parseTarget hdr len r

end Sarm.Http1
