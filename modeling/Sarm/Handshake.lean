import Sarm.HelloParsed
import Sarm.Outcomes
import Sarm.RecordReads
import Sarm.SecureTransport
import Sarm.ServerMessages

/-!
The driver of a handshake: its calls in their order, each of them with its failure, over the memory, the
socket and the random source. What it has sent, hashed and sealed is noted as it goes.
-/
namespace Sarm.Handshake
open Sarm.Memory Sarm.Neon Sarm.KeySchedule Sarm.Transcript Sarm.Tls Sarm.P256
open Sarm.Hello (tls_parse_client_hello)
open Sarm.H2 (ReadEvent)
open Sarm.Staging (Stage Socket)

/-! ### The state -/

/-- `TLS_HS_…`. -/
inductive HsState where
  | start
  | chReceived
  | shSent
  | eeSent
  | certSent
  | cvSent
  | finSent
  | connected
  | failed
  deriving DecidableEq, Repr

/-- `TRANSPORT_…`. -/
inductive Mode where
  | plain
  | tls
  deriving DecidableEq, Repr

/-- A record has been sent whole, the transcript is looked at, both contexts have been rebuilt, or a record
    has been sealed. -/
inductive Event where
  | sent (record : List UInt8)
  | snapshot (m : Mem)
  | installed
  | sealed (iv : List UInt8) (seq : BitVec 64)

structure World where
  m : Mem
  reads : List ReadEvent
  transport : Stage Socket
  random : List RandomEvent
  tls_hs_state : HsState
  transport_mode : Mode
  tls_read_stage_len : Nat
  tls_read_stage_pos : Nat
  log : List Event

/-- What is in `x0` behind a set carry. -/
inductive HandshakeError where
  | record (e : RecordError)
  | hello (stop : Hello.Stop)
  | alert (code : Nat)
  | write
  | generic

abbrev Driver := EStateM HandshakeError World

/-- The addresses of what the driver names. `tls_hs_record_buf` is behind `tls_hs_msg_buf`. -/
structure Image extends MessageImage where
  tls_transcript_ctx : Nat
  tls_hs_msg_buf : Nat

def Image.tls_hs_record_buf (A : Image) : Nat := A.tls_hs_msg_buf + 2048

/-! ### Calls -/

def onMemory (f : Mem → Mem) : Driver Unit := modify fun w => { w with m := f w.m }

/-- A call that gives a number. -/
def computing (f : Mem → Mem × Nat) : Driver Nat := fun w => .ok (f w.m).2 { w with m := (f w.m).1 }

/-- A call of the record layer. -/
def attempting {α : Type} (f : Mem → Except RecordError α × Mem) : Driver α := fun w =>
  match f w.m with
  | (.ok a,m) => .ok a { w with m := m }
  | (.error e,m) => .error (.record e) { w with m := m }

/-- A call that draws from the random source. -/
def drawing (f : List RandomEvent → Mem → List RandomEvent × Mem × Except Nat Nat) : Driver Nat := fun w =>
  match f w.random w.m with
  | (random,m,.ok n) => .ok n { w with random := random, m := m }
  | (random,m,.error e) => .error (.alert e) { w with random := random, m := m }

/-- A call that reads a record off the socket. -/
def reading (f : List ReadEvent → Mem → Reading) : Driver Parsed := fun w =>
  match f w.reads w.m with
  | (.ok parsed,m,reads) => .ok parsed { w with m := m, reads := reads }
  | (.error e,m,reads) => .error (.record e) { w with m := m, reads := reads }

def note (e : Event) : Driver Unit := modify fun w => { w with log := w.log ++ [e] }

def moveTo (s : HsState) : Driver Unit := modify fun w => { w with tls_hs_state := s }

/-- `b.ne .Lhs_fail_generic`, and its like. -/
def failIf (c : Prop) [Decidable c] : Driver Unit := if c then throw .generic else pure ()

/-- `transport_write` of a connection that is still in plain text. -/
def transport_write (x1 x2 : Nat) : Driver Unit := fun w =>
  let record := slice w.m x1 x2
  match w.transport.write Socket.write record with
  | (transport,true) => .ok () { w with transport := transport, log := w.log ++ [.sent record] }
  | (transport,false) => .error .write { w with transport := transport }

/-- Three octets, the first one the highest. -/
def be24 (m : Mem) (a : Nat) : Nat := (m a).toNat * 2^16 + (m (a+1)).toNat * 2^8 + (m (a+2)).toNat

/-- `tls_record_write`. -/
def tls_record_write (m : Mem) (type frag len out : Nat) : Except RecordError Nat × Mem :=
  if !isContentType type then (.error .type,m)
  else if maxPlaintext < len then (.error .length,m)
  else if len = 0 ∧ type = 22 then (.error .empty,m)
  else (.ok (len + 5),Hpack.memcpy (writeHeader m out (UInt8.ofNat type) len) (out+5) frag len)

/-- `.Lhs_memcmp32`. -/
def memcmp32 (m : Mem) (x0 x1 : Nat) : UInt8 := (List.range 32).foldl (fun w9 i => w9 ||| (m (x0+i) ^^^ m (x1+i))) 0

/-! ### The driver -/

section
variable (A : Image)

def transcriptAdd (sp : Nat) (type : UInt8) (x1 x2 : Nat) : Driver Unit :=
  onMemory fun m => tls_transcript_add m (sp - 8) A.tls_transcript_ctx type x1 x2

/-- The hash is at 80 in the frame. -/
def snapshot (sp : Nat) : Driver Unit := do
  modify fun w => { w with log := w.log ++ [.snapshot w.m] }
  onMemory fun m => tls_transcript_hash m (sp - 128) A.tls_transcript_ctx (sp+80)

/-- `tls_record_next_server_seq` and `tls_record_next_client_seq`. -/
def nextSeq (a : Nat) : Driver (BitVec 64) := fun w =>
  .ok (ldr 64 w.m a) { w with m := str w.m a (ldr 64 w.m a + 1) }

/-- The transcript and the sequence numbers of a connection that begins. -/
def begin : Driver Unit := do
  onMemory fun m => tls_transcript_init m A.tls_transcript_ctx
  onMemory fun m => str m (A.tls_state+400) (0 : BitVec 64)
  onMemory fun m => str m (A.tls_state+408) (0 : BitVec 64)
  moveTo .start

/-- The first record, of which `x2` octets at `x1` have been read before. -/
def firstRecord (x1 x2 : Nat) : Driver Parsed := do
  if x2 ≠ 0 then onMemory fun m => Hpack.memcpy m A.tls_hs_record_buf x1 x2
  reading fun reads m => tls_read_record_prefilled reads m A.tls_hs_record_buf 16384 x2

def parseClientHello (x0 x1 : Nat) : Driver Unit := fun w =>
  match tls_parse_client_hello (slice w.m x0 x1) (shift w.m A.tls_state) with
  | (.ok (),state) => .ok () { w with m := blit w.m A.tls_state state 544 }
  | (.error stop,state) => .error (.hello stop) { w with m := blit w.m A.tls_state state 544 }

/-- A record of one ClientHello, entire. -/
def receiveHello (sp : Nat) (parsed : Parsed) : Driver Unit := do
  failIf (parsed.type ≠ 22)
  failIf (parsed.length < 4)
  let m := (← get).m
  let x1 := parsed.fragment
  failIf (m x1 ≠ 1)
  failIf (be24 m (x1+1) + 4 ≠ parsed.length)
  transcriptAdd A sp 1 (x1+4) (parsed.length - 4)
  parseClientHello A (x1+4) (parsed.length - 4)
  moveTo .chReceived

def sendServerHello (sp : Nat) : Driver Unit := do
  let x20 ← drawing fun random m => tls_build_server_hello A.toMessageImage random m sp A.tls_hs_msg_buf
  transcriptAdd A sp 2 (A.tls_hs_msg_buf+4) (x20 - 4)
  let x21 ← attempting fun m => tls_record_write m 22 A.tls_hs_msg_buf x20 A.tls_hs_record_buf
  transport_write A.tls_hs_record_buf x21
  moveTo .shSent

def handshakeSecrets (sp : Nat) : Driver Unit := do
  snapshot A sp
  onMemory fun m => tls_derive_handshake_secrets A.toImage m sp (sp+80)
  note .installed

/-- `.Lhs_send_encrypted_current`, with `x20` octets in `tls_hs_msg_buf`. -/
def sendEncrypted (sp x20 : Nat) : Driver Unit := do
  let seq ← nextSeq (A.tls_state+408)
  let x9 ← attempting fun m =>
    tls_record_encrypt m (sp-80) 22 A.tls_hs_msg_buf x20 A.tls_server_gcm_ctx (A.tls_state+320) seq A.tls_hs_record_buf
  modify fun w => { w with log := w.log ++ [.sealed (slice w.m (A.tls_state+320) 12) seq] }
  transport_write A.tls_hs_record_buf x9

/-- What becomes of each of the messages behind ServerHello. -/
def sendMessage (sp : Nat) (type : UInt8) (x20 : Nat) (next : HsState) : Driver Unit := do
  transcriptAdd A sp type (A.tls_hs_msg_buf+4) (x20 - 4)
  sendEncrypted A sp x20
  moveTo next

def sendEncryptedExtensions (sp : Nat) : Driver Unit := do
  let x20 ← computing fun m => tls_encrypted_extensions_write A.toMessageImage m A.tls_hs_msg_buf
  sendMessage A sp 8 x20 .eeSent

def sendCertificate (sp : Nat) : Driver Unit := do
  let x20 ← computing fun m => tls_certificate_write A.toMessageImage m A.tls_hs_msg_buf
  sendMessage A sp 11 x20 .certSent

def sendCertificateVerify (comb : Nat → Nat → AffinePoint) (stack : Nat → Mem) (sp : Nat) : Driver Unit := do
  snapshot A sp
  let x20 ← drawing fun random m =>
    tls_certificate_verify_write comb A.toSigningImage stack random m sp A.tls_hs_msg_buf (sp+80)
  sendMessage A sp 15 x20 .cvSent

def sendFinished (sp : Nat) : Driver Unit := do
  snapshot A sp
  let x20 ← computing fun m => tls_finished_write A.toMessageImage m sp A.tls_hs_msg_buf (sp+80)
  sendMessage A sp 20 x20 .finSent

/-- `.Lhs_read_client_next`: the next record that is not a change_cipher_spec. -/
def readClientNext (w : World) : EStateM.Result HandshakeError World Parsed :=
  match _ : tls_read_record w.reads w.m A.tls_hs_record_buf 16384 with
  | (.error e,m,reads) => .error (.record e) { w with m := m, reads := reads }
  | (.ok parsed,m,reads) =>
    let w := { w with m := m, reads := reads }
    if parsed.type = 20 then readClientNext w else .ok parsed w
termination_by (stream w.reads).length
decreasing_by exact tls_read_record_shorter ‹_›

/-- What is expected of the client: `finished_key` is at 112 in the frame, the authenticator at 144. -/
def checkFinished (sp : Nat) : Driver Unit := do
  onMemory fun m => tls_finished_key A.toMessageImage m sp (A.tls_state+512) (sp+112)
  snapshot A sp
  onMemory fun m => tls_finished_verify_data m sp (sp+112) (sp+80) (sp+144)
  let m := (← get).m
  failIf (memcmp32 m (A.tls_hs_msg_buf+4) (sp+144) ≠ 0)

def receiveFinished (sp : Nat) : Driver Unit := do
  let parsed ← readClientNext A
  failIf (parsed.type ≠ applicationData)
  let seq ← nextSeq (A.tls_state+400)
  let (x0,x1) ← attempting fun m =>
    tls_record_decrypt m (sp-80) A.tls_hs_record_buf parsed.total A.tls_client_gcm_ctx (A.tls_state+288) seq
      A.tls_hs_msg_buf
  failIf (x1 ≠ 22)
  failIf (x0 ≠ 36)
  let m := (← get).m
  failIf (m A.tls_hs_msg_buf ≠ 20)
  failIf (be24 m (A.tls_hs_msg_buf+1) ≠ 32)
  checkFinished A sp

def applicationSecrets (sp : Nat) : Driver Unit := do
  snapshot A sp
  onMemory fun m => tls_derive_application_secrets A.toImage m sp (sp+80)
  note .installed
  moveTo .connected
  modify fun w => { w with transport_mode := .tls, tls_read_stage_len := 0, tls_read_stage_pos := 0 }

variable (comb : Nat → Nat → AffinePoint) (stack : Nat → Mem)

/-- Up to the certificate. -/
def flight (sp x1 x2 : Nat) : Driver Unit := do
  begin A
  let parsed ← firstRecord A x1 x2
  receiveHello A sp parsed
  sendServerHello A sp
  handshakeSecrets A sp
  sendEncryptedExtensions A sp
  sendCertificate A sp

/-- What is behind the certificate. -/
def authenticate (sp : Nat) : Driver Unit := do
  sendCertificateVerify A comb stack sp
  sendFinished A sp
  receiveFinished A sp
  applicationSecrets A sp

/-- The frame is of 192 octets; an error leaves the state at FAILED. -/
def tls_server_handshake (sp x1 x2 : Nat) (w : World) : Except HandshakeError Unit × World :=
  let sp := sp - 192
  match (do flight A sp x1 x2; authenticate A comb stack sp : Driver Unit) w with
  | .ok _ w => (.ok (),w)
  | .error e w => (.error e,{ w with tls_hs_state := .failed })

end
end Sarm.Handshake
