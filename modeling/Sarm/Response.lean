import Sarm.Frame
import Sarm.Request

/-!
What a request is answered with: the embedded file its path names, the range of
it that is asked for, and the response's HEADERS frame. The record is read once;
the answer depends on it and on the table of files alone.
-/
namespace Sarm.H2
open Sarm.Memory
open Sarm.Hpack (ascii)

/-- A row of the table of embedded files. -/
structure EmbeddedFile where
  path : List UInt8
  content : List UInt8
  contentType : List UInt8
  gzip : Bool

/-- Equality of strings of one length, up to a NUL in both. -/
def streqn : List UInt8 → List UInt8 → Bool
  | a :: as, b :: bs => a = b && (a = 0 || streqn as bs)
  | _, _ => true

/-- The first file of a path. -/
def lookupEmbedded (files : List EmbeddedFile) (path : List UInt8) : Option EmbeddedFile :=
  files.find? fun file => path.length = file.path.length && streqn path file.path

/-! ### Ranges -/

/-- A parsed range; an absent start is a suffix range, an absent end an open one. -/
structure ByteRange where
  start : Option Nat
  «end» : Option Nat
  deriving DecidableEq, Repr

def isDigit (octet : UInt8) : Bool := '0'.toUInt8 ≤ octet && octet ≤ '9'.toUInt8

/-- The number of at most 18 digits. -/
def atoiN (digits : List UInt8) : Option Nat :=
  if 19 ≤ digits.length ∨ digits = [] ∨ digits.all isDigit = false then none
  else some (digits.foldl (fun value digit => 10 * value + (digit.toNat - '0'.toNat)) 0)

/-- The digits up to the dash, and what is behind it. -/
def startDigits : List UInt8 → List UInt8 → Option (List UInt8 × List UInt8)
  | [], _ => none
  | octet :: rest, digits =>
    if octet = '-'.toUInt8 then some (digits,rest)
    else if isDigit octet then if 18 ≤ digits.length then none else startDigits rest (digits ++ [octet])
    else none

/-- The digits up to the end of the value or of the line. -/
def endDigits : List UInt8 → List UInt8 → Option (List UInt8)
  | [], digits => some digits
  | octet :: rest, digits =>
    if octet = '\r'.toUInt8 ∨ octet = '\n'.toUInt8 then some digits
    else if isDigit octet then if 18 ≤ digits.length then none else endDigits rest (digits ++ [octet])
    else none

/-- A bound of a range: absent, or a number. -/
def rangeBound (digits : List UInt8) : Option (Option Nat) :=
  if digits = [] then some none else (atoiN digits).map some

/-- The value of a `range` field; none if it is not a single usable range. -/
def h2ParseRange (value : List UInt8) : Option ByteRange :=
  let unit := ascii "bytes"
  if value.length < 6 then none
  else if streqnI (value.take unit.length) unit = false ∨ value[5]? ≠ some '='.toUInt8 then none
  else do
    let (first,rest) ← startDigits (value.drop 6) []
    let start ← rangeBound first
    let last ← endDigits rest []
    let «end» ← rangeBound last
    match start, «end» with
    | none, none => none
    | some start, some «end» => if «end» < start then none else some ⟨some start,some «end»⟩
    | _, _ => some ⟨start,«end»⟩

/-- What a range comes to on a file: the statuses 416, 200 and 206. -/
inductive RangeReply where
  | unsatisfiable
  | whole
  | window (start «end» : Nat)
  deriving DecidableEq, Repr

def h2ResolveRange (r : ByteRange) (size : Nat) : RangeReply :=
  match r.start with
  | none =>
    let count := r.end.getD (2^64 - 1)
    if count = 0 then .unsatisfiable
    else if size = 0 then .whole
    else if count < size then .window (size - count) (size - 1)
    else .window 0 (size - 1)
  | some start =>
    if size = 0 then .unsatisfiable
    else if size ≤ start then .unsatisfiable
    else match r.end with
      | none => .window start (size - 1)
      | some «end» =>
        if «end» < start then .unsatisfiable else .window start (if size - 1 < «end» then size - 1 else «end»)

/-! ### The HEADERS frame -/

/-- `response`, with whether a file is what is sent, and whether it is compressed. -/
structure Response where
  status : Nat
  contentType : List UInt8
  contentLength : Nat
  range : Option (Nat × Nat)
  body : List UInt8
  gzip : Bool

/-- The digits of a number, last first; twenty hold every 64-bit number. -/
def itoaLoop : Nat → Nat → List UInt8 → List UInt8
  | 0, _, digits => digits
  | fuel+1, n, digits =>
    let digits := UInt8.ofNat (n % 10 + '0'.toNat) :: digits
    if n / 10 = 0 then digits else itoaLoop fuel (n / 10) digits

def itoa (n : Nat) : List UInt8 := itoaLoop 20 n []

/-- The continuation octets of a length; ten carry every 64-bit number. -/
def lengthLoop : Nat → Nat → List UInt8
  | 0, _ => []
  | fuel+1, n => if n < 128 then [UInt8.ofNat n] else UInt8.ofNat (n % 128 + 128) :: lengthLoop fuel (n / 128)

/-- A string with its length in front. A length of 127 takes the short form. -/
def appendStr (s : List UInt8) : List UInt8 :=
  if 127 < s.length then 127 :: lengthLoop 10 (s.length - 127) ++ s else UInt8.ofNat s.length :: s

/-- The octets of the body a response announces. -/
def Response.length (r : Response) : Nat :=
  match r.range with
  | none => r.contentLength
  | some (start,«end») => «end» - start + 1

/-- `:status`, indexed when it is 200. -/
def statusField (r : Response) : List UInt8 := if r.status = 200 then [0x88] else 0x08 :: appendStr (itoa r.status)

/-- `content-type`, unless the file is empty. -/
def typeField (r : Response) : List UInt8 :=
  if r.contentLength = 0 then [] else [0x0f,0x10] ++ appendStr r.contentType

/-- `content-length`. -/
def lengthField (r : Response) : List UInt8 := [0x0f,0x0d] ++ appendStr (itoa r.length)

/-- `content-range`, on a ranged response. -/
def rangeField (r : Response) : List UInt8 :=
  match r.range with
  | none => []
  | some (start,«end») =>
    [0x0f,0x0f] ++
      appendStr (itoa start ++ ['-'.toUInt8] ++ itoa «end» ++ ['/'.toUInt8] ++ itoa r.contentLength)

/-- `content-encoding`, on a compressed file. -/
def encodingField (r : Response) : List UInt8 := if r.gzip then [0x0f,0x0b] ++ appendStr (ascii "gzip") else []

/-- The header block of a response; 204 says nothing of a body. -/
def headerBlock (r : Response) : List UInt8 :=
  statusField r ++ (if r.status = 204 then [] else typeField r ++ lengthField r ++ rangeField r) ++ encodingField r

/-- `h2_frame_buf_size` less the frame header. -/
def maxHeaderBlock : Nat := defaultMaxFrameSize

/-- The HEADERS frame of a response, if it fits the frame buffer. -/
def headersFrame (r : Response) (streamId extra : Nat) : Option OutFrame :=
  let block := headerBlock r
  if maxHeaderBlock < block.length then none else some ⟨frameHeaders,flagEndHeaders ||| extra,streamId,block⟩

theorem headersFrame_some {r : Response} {streamId extra : Nat} {f : OutFrame}
    (made : headersFrame r streamId extra = some f) : f.type = frameHeaders ∧ f.streamId = streamId := by
  rw [headersFrame] at made
  split at made
  · contradiction
  · cases made; exact ⟨rfl,rfl⟩

/-- `H2_HEADERS_STAGE_MAX`: the longest HEADERS frame that waits for the first DATA
    frame. -/
def headersStageMax : Nat := 256

/-- The response of `h2_reply_status`. -/
def statusResponse (status : Nat) : Response := ⟨status,[],0,none,[],false⟩

/-! ### The answer to a request -/

/-- What `h2_process_request` sends. -/
inductive Answer where
  | status (code : Nat)
  | headers (r : Response)
  | body (r : Response)

/-- The response of a file, whole or a window of it. -/
def fileResponse (file : EmbeddedFile) (range : Option (Nat × Nat)) : Response :=
  match range with
  | none => ⟨200,file.contentType,file.content.length,none,file.content,file.gzip⟩
  | some (start,«end») =>
    ⟨206,file.contentType,file.content.length,some (start,«end»),(file.content.drop start).take («end» - start + 1),
      file.gzip⟩

/-- GET and HEAD of a file. A range it cannot parse is ignored. -/
def answerFile (r : Request) (file : EmbeddedFile) : Answer :=
  if r.method = .head then .headers { fileResponse file none with body := [] }
  else if r.range then
    match h2ParseRange (slice r.rangeBuf 0 r.rangeLength) with
    | none => .body (fileResponse file none)
    | some range => match h2ResolveRange range file.content.length with
      | .unsatisfiable => .status 416
      | .whole => .body (fileResponse file none)
      | .window start «end» => .body (fileResponse file (some (start,«end»)))
  else .body (fileResponse file none)

/-- The answer to the request in the record. -/
def answer (files : List EmbeddedFile) (r : Request) : Answer :=
  if r.forbidden then .status 403
  else match r.method with
    | .unknown => .status 501
    | .options => match lookupEmbedded files (slice r.filenameBuf 0 r.pathLength) with
      | none => .status 404
      | some _ => .status 204
    | _ => match lookupEmbedded files (slice r.filenameBuf 0 r.pathLength) with
      | none => .status 404
      | some file => answerFile r file

/-! ### Windows -/

/-- A resolved window lies in the file and is not empty. -/
theorem resolve_inside {r : ByteRange} {size start «end» : Nat} (window : h2ResolveRange r size = .window start «end») :
    start ≤ «end» ∧ «end» < size := by
  rw [h2ResolveRange] at window
  split at window
  · dsimp only at window
    split at window
    · contradiction
    split at window
    · contradiction
    split at window <;> cases window <;> omega
  · split at window
    · contradiction
    split at window
    · contradiction
    split at window
    · cases window; omega
    · split at window
      · contradiction
      · cases window
        split <;> omega

/-- The body that goes with a file's response has the length its headers announce. -/
theorem answerFile_length {req : Request} {file : EmbeddedFile} {r : Response} (sent : answerFile req file = .body r) :
    r.body.length = r.length := by
  rw [answerFile] at sent
  split at sent
  · contradiction
  split at sent
  · split at sent
    · cases sent; rfl
    · next range parsed =>
      split at sent
      · contradiction
      · cases sent; rfl
      · next start stop window =>
        have inside := resolve_inside window
        cases sent
        simp only [fileResponse,Response.length,List.length_take,List.length_drop]
        omega
  · cases sent; rfl

end Sarm.H2
