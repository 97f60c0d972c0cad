import Sarm.Session

/-!
The other end of a connection: a client of RFC 8446 that knows the ClientHello it has sent, the scalar of its share and the
point that belongs to the server's key. It reads the server's octets with the keys that it derives on its own.
-/
namespace Sarm.Tls
open Sarm.Memory Sarm.Ghash Sarm.Gcm

/-! ### Records of any type -/

section
variable (e : Epoch) (seq : BitVec 64)

theorem protect_held (inner : List UInt8) :
    slice (ofBytes (protect e.ciph e.iv seq inner)) 0 (inner.length + 21) = protect e.ciph e.iv seq inner := by
  rw [← protect_length e.ciph e.iv seq]
  exact slice_ofBytes _

theorem protect_field {inner : List UInt8} (fits : inner.length ≤ 16385) :
    be16 (ofBytes (protect e.ciph e.iv seq inner)) 3 = inner.length + 16 :=
  protect_length_field (protect_held e seq inner) (by omega)

theorem firstRecord_protect {inner : List UInt8} (fits : inner.length ≤ 16385) (tail : List UInt8) :
    firstRecord (protect e.ciph e.iv seq inner ++ tail) = some (protect e.ciph e.iv seq inner) := by
  have width := protect_length e.ciph e.iv seq inner
  have parsed := parse_protect (protect_held e seq inner) (by rw [maxCiphertext]; omega) (Nat.le_refl (inner.length + 21))
  have field := protect_field e seq fits
  generalize protect e.ciph e.iv seq inner = record at width parsed field
  have front : be16 (ofBytes ((record ++ tail).take 5)) 3 = inner.length + 16 := by
    rw [List.take_append_of_le_length (by omega),← field,be16,be16]
    simp only [ofBytes,List.getD_eq_getElem?_getD,List.getElem?_take]
    rfl
  have whole : (record ++ tail).take (inner.length + 16 + 5) = record := List.take_left' (by omega)
  have room : ¬ ((record ++ tail).length < 5 ∨ 16448 < inner.length + 16 + 5 ∨
      (record ++ tail).length < inner.length + 16 + 5) := by
    rw [List.length_append]
    omega
  rw [firstRecord,front,if_neg room,whole,parsed]
  rfl

theorem open_protect {content : List UInt8} {type : UInt8} (known : isContentType type.toNat = true) {padding : Nat}
    (fits : content.length + padding ≤ maxPlaintext) :
    e.open seq (protect e.ciph e.iv seq (innerPlaintext content type padding)) = some (content,type) := by
  rw [maxPlaintext] at fits
  have count := innerPlaintext_length content type padding
  have width := protect_length e.ciph e.iv seq (innerPlaintext content type padding)
  have held : slice (ofBytes (innerPlaintext content type padding)) 0 (content.length + 1 + padding) =
      innerPlaintext content type padding := by
    rw [← count]
    exact slice_ofBytes _
  have typed := (innerType_inner known held).1
  have cut : (innerPlaintext content type padding).take content.length = content := by
    rw [innerPlaintext,List.take_left]
  have field : be16 (ofBytes (protect e.ciph e.iv seq (innerPlaintext content type padding))) 3 =
      (innerPlaintext content type padding).length + 16 := protect_field e seq (by omega)
  rw [← count] at typed
  generalize innerPlaintext content type padding = inner at count width typed cut field
  rw [Epoch.open,field]
  dsimp only
  rw [if_neg (by rw [maxAead,width]; omega),Nat.add_sub_cancel]
  obtain ⟨text,tag⟩ := encrypt_length e.ciph (recordNonce e.iv seq) (protectedHeader inner) inner
  have opens := decrypt_encrypt e.ciph (recordNonce e.iv seq) (protectedHeader inner) inner
  rw [protect]
  generalize encrypt e.ciph (recordNonce e.iv seq) (protectedHeader inner) inner = sealed at text tag opens
  have header : (protectedHeader inner ++ sealed.1 ++ sealed.2).take 5 = protectedHeader inner := by
    rw [List.append_assoc]
    exact List.take_left' rfl
  have middle : ((protectedHeader inner ++ sealed.1 ++ sealed.2).drop 5).take inner.length = sealed.1 := by
    rw [List.append_assoc,List.drop_left' (protectedHeader_length _)]
    exact List.take_left' text
  have last : ((protectedHeader inner ++ sealed.1 ++ sealed.2).drop (5 + inner.length)).take 16 = sealed.2 := by
    rw [List.drop_left' (by rw [List.length_append,text]; rfl)]
    exact List.take_of_length_le tag.le
  rw [header,middle,last,opens]
  dsimp only
  rw [typed]
  dsimp only
  rw [cut]

/-- So many records of the handshake: the messages in them, and what is behind them. -/
def opened (e : Epoch) (seq : BitVec 64) : Nat → List UInt8 → Option (List (List UInt8) × List UInt8)
  | 0,octets => some ([],octets)
  | n+1,octets => do
    let record ← firstRecord octets
    let (text,type) ← e.open seq record
    if type = 22 then
      let (texts,rest) ← opened e (seq + 1) n (octets.drop record.length)
      some (text :: texts,rest)
    else none

theorem opened_sealed (e : Epoch) (tail : List UInt8) (texts : List (List UInt8))
    (short : ∀ text ∈ texts, text.length ≤ maxPlaintext) (k : Nat) :
    opened e (BitVec.ofNat 64 k) texts.length ((texts.zipIdx k).flatMap (fun text =>
      protect e.ciph e.iv (BitVec.ofNat 64 text.2) (innerPlaintext text.1 22 0)) ++ tail) = some (texts,tail) := by
  induction texts generalizing k with
  | nil => rfl
  | cons text texts ih =>
    obtain ⟨fits,short⟩ := List.forall_mem_cons.mp short
    have count := innerPlaintext_length text 22 0
    have small : (innerPlaintext text 22 0).length ≤ 16385 := by
      rw [maxPlaintext] at fits
      omega
    rw [List.zipIdx_cons,List.flatMap_cons,List.append_assoc,List.length_cons,opened,firstRecord_protect e _ small]
    have next : BitVec.ofNat 64 k + 1 = BitVec.ofNat 64 (k+1) := (BitVec.ofNat_add k 1).symm
    have opens : e.open (BitVec.ofNat 64 k) (protect e.ciph e.iv (BitVec.ofNat 64 k) (innerPlaintext text 22 0)) =
        some (text,22) := open_protect e _ (by decide) fits
    simp only [Option.bind_eq_bind,Option.bind_some,opens,if_true,List.drop_left,next,ih short]

end

end Sarm.Tls

namespace Sarm.Handshake
open Sarm.Memory Sarm.Neon Sarm.Sha256 Sarm.KeySchedule Sarm.Tls Sarm.Gcm Sarm.P256 Sarm.X25519 Sarm.Der
open Sarm.Programs
open Sarm.H2 (Layer EmbeddedFile Pipe Smooth)

/-! ### RFC 8446, section 4 -/

/-- What is in the messages of a server. -/
structure Flight where
  random : List UInt8
  sessionId : List UInt8
  share : List UInt8
  alpn : List UInt8
  der : List UInt8
  signature : List UInt8
  last : List UInt8

namespace Flight

def first (f : Flight) : List UInt8 := serverHello f.random f.sessionId f.share

def signed (f : Flight) : List (List UInt8) := [f.first,encryptedExtensions f.alpn,certificate f.der]

def authenticated (f : Flight) : List (List UInt8) := f.signed ++ [certificateVerify f.signature]

def messages (f : Flight) : List (List UInt8) := f.authenticated ++ [f.last]

end Flight

/-- The ClientHello that it has sent, the scalar of the share in it, and the point of the server's key. -/
structure Client where
  hello : List UInt8
  scalar : List UInt8
  point : Nat × Nat

namespace Client

def hash (c : Client) (messages : List (List UInt8)) : List UInt8 := digest (c.hello ++ messages.flatten)

def shared (c : Client) (f : Flight) : List UInt8 := rfcX25519 c.scalar f.share

/-- Of the server's records in the handshake. -/
def secret (c : Client) (f : Flight) : List UInt8 := serverHandshakeTraffic (c.shared f) (c.hash [f.first])

/-- Of the application. -/
def keys (c : Client) (f : Flight) : Keys :=
  let server := serverApplicationTraffic (c.shared f) (c.hash f.messages)
  let client := clientApplicationTraffic (c.shared f) (c.hash f.messages)
  ⟨⟨aes128 (trafficKey server),trafficIv server⟩,⟨aes128 (trafficKey client),trafficIv client⟩⟩

/-- The flight is in front of these octets and is as it should be: its records open, the signature is one of the transcript
    under the point, and the Finished is right. -/
structure Accepts (c : Client) (octets : List UInt8) (f : Flight) (rest : List UInt8) : Prop where
  opens : ∃ records, octets = recordHeader 22 f.first.length ++ f.first ++ records ∧
    opened ⟨aes128 (trafficKey (c.secret f)),trafficIv (c.secret f)⟩ 0 4 records = some (f.messages.tail,rest)
  signs : ∃ r s, Der.readSignature f.signature = some (r,s) ∧
    P256.Accepts (Octets.value (digest (signedContent (c.hash f.signed)))) r s c.point.1 c.point.2
  finished : f.last = Handshake.finished (c.secret f) (c.hash f.authenticated)

end Client

/-! ### The server's flight -/

/-- What the client is to read. -/
def Exchange.flight (e : Exchange) : Flight where
  random := e.serverRandom
  sessionId := e.hello.sessionId
  share := rfcX25519 e.scalar basepoint9
  alpn := Hpack.ascii "h2"
  der := e.der
  signature := Der.signature e.rs e.ss
  last := finished (serverSecret e.clientHello e.shared e.serverHello) (e.hash e.authenticated)

/-- A client whose share has been taken, and that trusts the point of the private key. -/
def Exchange.client (e : Exchange) (scalar key : List UInt8) : Client where
  hello := e.clientHello
  scalar := scalar
  point := ((coordinates (Octets.value key • base)).1.val,(coordinates (Octets.value key • base)).2.val)

theorem draw_length (random : List RandomEvent) (n : Nat) {random' : List RandomEvent} {octets : List UInt8}
    (drawn : draw random n = (random',some octets)) : octets.length = n := by
  have delivered := (crypto_random_bytes_draws random (fun _ => 0) 0 n).2
  rw [drawn] at delivered
  rw [← delivered.2,slice_length]

section
variable {A : Image} {der key given : List UInt8} {e : Exchange} {w0 w : World}

theorem Exchange.Completes.agrees (completes : e.Completes A der key given w0 w) {scalar : List UInt8}
    (width : scalar.length = 32) (share : e.share = rfcX25519 scalar basepoint9) :
    (e.client scalar key).shared e.flight = e.shared := by
  obtain ⟨reads,signs,_⟩ := completes.signs
  obtain ⟨random1,opens,_⟩ := signs.opens
  obtain ⟨random2,_,drawn⟩ := opens.drawn
  rw [Exchange.shared,share]
  exact rfcX25519_comm width (draw_length _ _ drawn) rfl

theorem Exchange.hash_first (e : Exchange) (scalar key : List UInt8) :
    (e.client scalar key).hash [e.flight.first] = digest (e.clientHello ++ e.serverHello) := by
  rw [Client.hash,List.flatten_cons,List.flatten_nil,List.append_nil]
  rfl

theorem Exchange.Completes.secret (completes : e.Completes A der key given w0 w) {scalar : List UInt8}
    (width : scalar.length = 32) (share : e.share = rfcX25519 scalar basepoint9) :
    (e.client scalar key).secret e.flight = serverSecret e.clientHello e.shared e.serverHello := by
  rw [Client.secret,completes.agrees width share,serverSecret,e.hash_first]

theorem Exchange.short (e : Exchange) (width : e.rs.length = 32 ∧ e.ss.length = 32) (room : e.der.length + 13 ≤ 2048) :
    ∀ text ∈ e.messages.tail, text.length ≤ maxPlaintext := by
  have listed : e.messages.tail = [encryptedExtensions (Hpack.ascii "h2"),certificate e.der,
      certificateVerify (Der.signature e.rs e.ss),e.flight.last] := rfl
  have verify := signature_short width.1 width.2
  rw [listed,maxPlaintext]
  simp only [List.forall_mem_cons,List.not_mem_nil,false_imp_iff,implies_true,and_true]
  refine ⟨by decide,?_,?_,?_⟩
  · simp [certificate,message,Transcript.header,vec24,u24,Hello.u16]
    omega
  · rw [certificateVerify_length]
    omega
  · have data : (verifyData (serverSecret e.clientHello e.shared e.serverHello) (e.hash e.authenticated)).length = 32 :=
      Hmac.digest_length _
    simp [Exchange.flight,finished,message,Transcript.header,data]

theorem Exchange.Completes.keys_agree (completes : e.Completes A der key given w0 w) {scalar : List UInt8}
    (width : scalar.length = 32) (share : e.share = rfcX25519 scalar basepoint9) :
    (e.client scalar key).keys e.flight = e.keys := by
  rw [Client.keys,completes.agrees width share]
  rfl

/-- A client accepts what has been sent. -/
theorem Exchange.Completes.accepts (completes : e.Completes A der key given w0 w) {scalar : List UInt8}
    (width : scalar.length = 32) (share : e.share = rfcX25519 scalar basepoint9)
    (inside : 0 < Octets.value key ∧ Octets.value key < order) (room : der.length + 13 ≤ 2048) (rest : List UInt8) :
    (e.client scalar key).Accepts (flightOctets e.clientHello e.shared e.messages ++ rest) e.flight rest := by
  obtain ⟨reads,signs,_⟩ := completes.signs
  obtain ⟨random1,opens,attempted⟩ := signs.opens
  have secret : (e.client scalar key).secret e.flight = _ := completes.secret width share
  obtain rfl := opens.der
  -- The records behind the ServerHello open under the secret, from number 0 on.
  have sealed := opened_sealed ⟨aes128 (trafficKey ((e.client scalar key).secret e.flight)),
    trafficIv ((e.client scalar key).secret e.flight)⟩ rest e.messages.tail (e.short signs.width room) 0
  refine ⟨⟨_,?_,sealed⟩,⟨_,_,?_,attempted.accepts inside⟩,?_⟩
  · rw [secret,← List.append_assoc]
    rfl
  · have width := signs.width
    refine Der.readSignature_signature ?_ ?_ ?_
    · exact List.ne_nil_of_length_pos (by omega)
    · exact List.ne_nil_of_length_pos (by omega)
    · omega
  · rw [secret]
    rfl

/-- The Finished that the server has taken is the one that the client makes. -/
theorem Exchange.Completes.answers (completes : e.Completes A der key given w0 w) {scalar : List UInt8}
    (width : scalar.length = 32) (share : e.share = rfcX25519 scalar basepoint9) :
    let client := e.client scalar key
    ∃ reads, Answers reads (client.shared e.flight) (client.hash [e.flight.first]) (client.hash e.flight.messages)
      (stream w.reads) := by
  intro client
  obtain ⟨reads,_,answered⟩ := completes.signs
  rw [completes.agrees width share,e.hash_first]
  exact ⟨_,answered⟩

variable {base x1 x2 : Nat}

end

end Sarm.Handshake
