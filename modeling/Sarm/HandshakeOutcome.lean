import Sarm.HandshakeFinish

/-!
What a handshake comes to. It ends with the keys of the application only if the client has offered what is asked
for and has proved that it holds the keys; it ends otherwise in plain text. What it sends, hashes and seals on
the way is the same in both cases.
-/
namespace Sarm.Handshake
open Sarm.Memory Sarm.Neon Sarm.KeySchedule Sarm.Transcript Sarm.Sha256 Sarm.Tls Sarm.Gcm Sarm.Outcomes Sarm.P256
open Sarm.X25519 Sarm.Der
open Sarm.Hello (ClientHello KeyShare x25519Group)
open Sarm.Hpack (ascii)
open Sarm.H2 (ReadEvent)

/-! ### An exchange -/

/-- What both sides put into a handshake. -/
structure Exchange where
  hello : ClientHello
  share : List UInt8
  serverRandom : List UInt8
  scalar : List UInt8
  der : List UInt8
  rs : List UInt8
  ss : List UInt8

namespace Exchange

def clientHello (e : Exchange) : List UInt8 := message 1 e.hello.octets

def shared (e : Exchange) : List UInt8 := rfcX25519 e.scalar e.share

def serverHello (e : Exchange) : List UInt8 :=
  Handshake.serverHello e.serverRandom e.hello.sessionId (rfcX25519 e.scalar basepoint9)

/-- The hash of the ClientHello and of what the server has sent behind it. -/
def hash (e : Exchange) (messages : List (List UInt8)) : List UInt8 := digest (e.clientHello ++ messages.flatten)

/-- What the signature is of. -/
def signed (e : Exchange) : List (List UInt8) :=
  [e.serverHello,encryptedExtensions (ascii "h2"),certificate e.der]

/-- What the Finished of the server is of. -/
def authenticated (e : Exchange) : List (List UInt8) := e.signed ++ [certificateVerify (signature e.rs e.ss)]

def messages (e : Exchange) : List (List UInt8) :=
  e.authenticated ++ [finished (serverSecret e.clientHello e.shared e.serverHello) (e.hash e.authenticated)]

/-- Up to the certificate: what the client has offered and what has been drawn. `reads` and `random` are what is left. -/
structure Opens (e : Exchange) (der given : List UInt8) (w0 : World) (reads : List ReadEvent) (random : List RandomEvent) :
    Prop where
  framed : e.hello.Framed
  offers : e.hello.Offers
  share : ∃ list, .shares list ∈ e.hello.list ∧ ⟨x25519Group,e.share⟩ ∈ list
  received : Received given w0.reads reads e.clientHello
  drawn : ∃ random1, draw w0.random 32 = (random1,some e.serverRandom) ∧ draw random1 32 = (random,some e.scalar)
  der : e.der = der

/-- Up to the Finished of the server, with a signature of the messages. -/
structure Signs (e : Exchange) (der key given : List UInt8) (w0 : World) (reads : List ReadEvent)
    (random : List RandomEvent) : Prop where
  width : e.rs.length = 32 ∧ e.ss.length = 32
  opens : ∃ random1, e.Opens der given w0 reads random1 ∧
    Attempted (Octets.value key) (e.hash e.signed) 4 random1 random (some (Octets.value e.rs,Octets.value e.ss))

/-- The Finished of the client is the next record, and `s` is behind it. -/
def AnsweredBy (e : Exchange) (reads : List ReadEvent) (s : List (Option UInt8)) : Prop :=
  Answers (stream reads) e.shared (digest (e.clientHello ++ e.serverHello)) (e.hash e.messages) s

/-- It has taken place, between these two states. -/
structure Completes (e : Exchange) (A : Image) (der key given : List UInt8) (w0 w : World) : Prop where
  signs : ∃ reads, e.Signs der key given w0 reads w.random ∧ e.AnsweredBy reads (stream w.reads)
  told : ∃ log m1 m2, w.log = log ++ [.snapshot m1] ++ [.snapshot m2] ++ [.installed] ∧
    Told A.tls_transcript_ctx e.clientHello e.shared (log ++ [.snapshot m1] ++ [.snapshot m2]) e.messages 4
  wire : w.transport.sink.wire = w0.transport.sink.wire ++ w.log.flatMap Event.octets
  keys : ApplicationKeys A.toImage w.m e.shared (e.hash e.messages)
  connected : w.tls_hs_state = .connected
  mode : w.transport_mode = .tls
  staged : w.tls_read_stage_len = 0 ∧ w.tls_read_stage_pos = 0

end Exchange

/-- Why a handshake comes to nothing: the socket, the ClientHello, the random source, or the Finished of the client. -/
inductive Refused (der key given : List UInt8) (w : World) : Prop
  | write (unwilling : ¬Willing 5 w.transport.sink)
  | hello (unwelcome : ∀ text, Presents given w.reads text → ¬Welcome text)
  | random (empty : ¬Supplies w.random)
  | nonce (e : Exchange) (reads : List ReadEvent) (random random' : List RandomEvent)
    (opens : e.Opens der given w reads random)
      (none : Attempted (Octets.value key) (e.hash e.signed) 4 random random' none)
  | answer (e : Exchange) (reads : List ReadEvent) (random : List RandomEvent) (signs : e.Signs der key given w reads random)
      (other : ∀ s, ¬e.AnsweredBy reads s)

section
variable {A : Image} {base : Nat} {der key given : List UInt8} {w : World}

theorem flight_ends {x1 x2 : Nat} (ready : Ready A base der key x1 x2 w) (read : slice w.m x1 x2 = given) :
    Ends (flight A (base+2048) x1 x2) w
      (fun _ w' => ∃ e : Exchange, e.Opens der given w w'.reads w'.random ∧
        Flown A der key given w e.clientHello e.shared e.serverHello [encryptedExtensions (ascii "h2"),certificate der] w')
      (fun _ w' => Stopped A given w w' ∧ Refused der key given w) := by
  have layout := ready.layout
  rw [flight]
  refine (begin_ends ready).bind ?_
  rintro _ w1 ⟨begun1,reads1,random1,same1⟩
  refine (firstRecord_ends ready begun1 same1 read).bind' ?_ ?_
  · rintro _ w2 ⟨stopped,nowhere⟩
    rw [reads1] at nowhere
    exact ⟨stopped,.hello fun text presents _ => nowhere text presents⟩
  rintro parsed w2 ⟨begun2,random2,delivers,front,there⟩
  rw [reads1] at delivers there
  refine (receiveHello_ends ready begun2 delivers front).bind' ?_ ?_
  · rintro _ w3 ⟨stopped,unwelcome⟩
    refine ⟨stopped,.hello fun text presents welcome => unwelcome ?_⟩
    obtain ⟨type,rfl⟩ := there text presents
    exact ⟨type,welcome⟩
  rintro _ w3 ⟨h,framed,offers,kept,running3,random3,-⟩
  have random0 : w3.random = w.random := random3.trans (random2.trans random1)
  refine (sendServerHello_ends layout framed.sessionId kept running3).bind' ?_ ?_
  · rintro _ w4 ⟨stopped,empty⟩
    rw [random0] at empty
    refine ⟨stopped,?_⟩
    by_cases willing : Willing 5 w.transport.sink
    · exact .random (empty willing)
    · exact .write willing
  rintro _ w4 ⟨random,serverRandom,scalar,draw1,draw2,running4,held,reads4,-⟩
  rw [random0] at draw1
  refine (handshakeSecrets_ends layout running4 held).bind ?_
  rintro _ w5 ⟨running5,keyed5,random5,reads5,-⟩
  refine (sendEncryptedExtensions_ends layout ⟨running5,keyed5⟩ (by decide)).bind' ?_ ?_
  · rintro _ w6 ⟨stopped,unwilling⟩
    exact ⟨stopped,.write unwilling⟩
  rintro _ w6 ⟨flown6,random6,reads6,-⟩
  refine (sendCertificate_ends layout flown6 (by simp)).mono ?_ ?_
  · rintro _ w7 ⟨flown7,random7,reads7,-⟩
    refine ⟨⟨h,_,serverRandom,scalar,der,[],[]⟩,
      ⟨framed,offers,kept.share,flown7.running.received,⟨random,draw1,?_⟩,rfl⟩,flown7⟩
    rw [random7,random6,random5]
    exact draw2
  · rintro _ w7 ⟨stopped,unwilling⟩
    exact ⟨stopped,.write unwilling⟩

theorem handshake_ends {comb : Nat → Nat → AffinePoint} (table : CombTable comb) (stack : Nat → Mem) {x1 x2 : Nat}
    (ready : Ready A base der key x1 x2 w) (read : slice w.m x1 x2 = given) :
    Ends (do flight A (base+2048) x1 x2; authenticate A comb stack (base+2048)) w
      (fun _ w' => ∃ e : Exchange, e.Completes A der key given w w')
      (fun _ w' => Stopped A given w w' ∧ Refused der key given w) := by
  have layout := ready.layout
  refine (flight_ends ready read).bind ?_
  rintro _ w1 ⟨e,opens,flown1⟩
  obtain rfl := opens.der
  rw [authenticate]
  refine (sendCertificateVerify_ends table stack layout flown1 (by simp)).bind' ?_ ?_
  · rintro _ w2 ⟨stopped,none⟩
    refine ⟨stopped,?_⟩
    by_cases willing : Willing 5 w.transport.sink
    · exact .nonce e w1.reads w1.random w2.random opens (none willing)
    · exact .write willing
  rintro _ w2 ⟨rs,ss,rsWidth,ssWidth,attempted,flown2,reads2,-⟩
  refine (sendFinished_ends layout flown2 (by simp)).bind' ?_ ?_
  · rintro _ w3 ⟨stopped,unwilling⟩
    exact ⟨stopped,.write unwilling⟩
  rintro _ w3 ⟨flown3,random3,reads3,-⟩
  -- The signature is a part of the exchange from here on.
  have signs : ({ e with rs := rs, ss := ss } : Exchange).Signs e.der key given w w3.reads w3.random := by
    refine ⟨⟨rsWidth,ssWidth⟩,w1.random,?_,?_⟩
    · rw [reads3,reads2]
      exact ⟨opens.framed,opens.offers,opens.share,opens.received,opens.drawn,rfl⟩
    · rw [random3]
      exact attempted
  refine (receiveFinished_ends layout flown3).bind' ?_ ?_
  · rintro _ w4 ⟨stopped,other⟩
    exact ⟨stopped,.answer _ _ _ signs other⟩
  rintro _ _ ⟨m1,m4,reads4,rfl,answers,hashed,transcribed4,loaded4,keyed4⟩
  refine (applicationSecrets_ends layout transcribed4 loaded4 keyed4).mono ?_ fun _ _ => id
  rintro _ _ ⟨m5,keys,rfl⟩
  refine ⟨{ e with rs := rs, ss := ss },⟨w3.reads,signs,answers⟩,⟨w3.log,m1,m4,rfl,?_⟩,?_,keys,rfl,rfl,rfl,rfl⟩
  · exact (flown3.running.told.snapshot hashed).snapshot transcribed4
  · rw [List.flatMap_append,List.flatMap_append,List.flatMap_append,flown3.running.wire]
    simp [Event.octets]

end

/-! ### What has been noted -/

/-- The records that carry the messages. -/
def flightOctets (hello shared : List UInt8) : List (List UInt8) → List UInt8
  | [] => []
  | first :: rest =>
    let secret := serverSecret hello shared first
    carrier hello shared [] first ++ rest.zipIdx.flatMap fun text =>
      protect (aes128 (trafficKey secret)) (trafficIv secret) (BitVec.ofNat 64 text.2) (innerPlaintext text.1 22 0)

/-- The nonce of a record that has been sealed. -/
def Event.nonce : Event → Option (List UInt8)
  | .sealed iv seq => some (recordNonce iv seq)
  | _ => none

/-- The nonces of so many records, from number 0 on. -/
def nonces (iv : List UInt8) (n : Nat) : List (List UInt8) := (List.range n).map fun i => recordNonce iv (BitVec.ofNat 64 i)

theorem nonces_fresh {iv : List UInt8} (width : iv.length = 12) {n : Nat} (few : n ≤ 2^64) : (nonces iv n).Nodup := by
  refine List.Nodup.map_on (fun i small j small' same => ?_) List.nodup_range
  have numbers := congrArg BitVec.toNat (recordNonce_injective width same)
  rw [List.mem_range] at small small'
  rwa [BitVec.toNat_ofNat,BitVec.toNat_ofNat,Nat.mod_eq_of_lt (by omega),Nat.mod_eq_of_lt (by omega)] at numbers

theorem trafficIv_length (secret : List UInt8) : (trafficIv secret).length = 12 := by
  rw [trafficIv,Hkdf.expandLabel,Hkdf.expand,List.length_take]
  simp [Hkdf.blocks,Hkdf.block_length]

section
variable {ctx n : Nat} {hello shared : List UInt8} {log : List Event} {messages : List (List UInt8)}

theorem Told.octets (told : Told ctx hello shared log messages n) :
    log.flatMap Event.octets = flightOctets hello shared messages := by
  induction told with
  | none => rfl
  | clear told ih =>
    rw [List.flatMap_append,ih]
    simp [flightOctets,Event.octets]
  | snapshot told hashed ih =>
    rw [List.flatMap_append,ih]
    simp [Event.octets]
  | installed told ih =>
    rw [List.flatMap_append,ih]
    simp [Event.octets]
  | sealed told ih =>
    rw [List.flatMap_append,ih]
    simp [Event.octets]
  | sent told ih =>
    rw [List.flatMap_append,ih]
    simp [Event.octets,flightOctets,carrier,List.zipIdx_append]

/-- The last of a list that is cut somewhere. -/
theorem concat_eq_append_cons {α : Type} {l l1 l2 : List α} {a b : α} (same : l ++ [a] = l1 ++ b :: l2) :
    (l1 = l ∧ b = a ∧ l2 = []) ∨ ∃ l3, l2 = l3 ++ [a] ∧ l = l1 ++ b :: l3 := by
  rcases List.eq_nil_or_concat l2 with rfl | ⟨l3,c,rfl⟩
  · obtain ⟨rfl,last⟩ := List.append_inj' same rfl
    exact .inl ⟨rfl,(List.cons.inj last).1.symm,rfl⟩
  · rw [List.concat_eq_append,← List.cons_append,← List.append_assoc] at same
    obtain ⟨rfl,last⟩ := List.append_inj' same rfl
    exact .inr ⟨l3,by rw [List.concat_eq_append,(List.cons.inj last).1],rfl⟩

/-- The transcript at a snapshot is of what has been sent before it. -/
theorem Told.hashed (told : Told ctx hello shared log messages n) {before after : List Event} {m : Mem}
    (there : log = before ++ .snapshot m :: after) :
    ∃ sent k, Told ctx hello shared before sent k ∧ Transcribed ctx m (hello ++ sent.flatten) := by
  induction told generalizing after with
  | none => simp at there
  | clear told ih =>
    rcases concat_eq_append_cons there with ⟨_,other,_⟩ | ⟨_,_,earlier⟩
    · cases other
    · exact ih earlier
  | snapshot told hashed ih =>
    rcases concat_eq_append_cons there with ⟨rfl,same,_⟩ | ⟨_,_,earlier⟩
    · cases same
      exact ⟨_,_,told,hashed⟩
    · exact ih earlier
  | installed told ih =>
    rcases concat_eq_append_cons there with ⟨_,other,_⟩ | ⟨_,_,earlier⟩
    · cases other
    · exact ih earlier
  | sealed told ih =>
    rcases concat_eq_append_cons there with ⟨_,other,_⟩ | ⟨_,_,earlier⟩
    · cases other
    · exact ih earlier
  | sent told ih =>
    rcases concat_eq_append_cons there with ⟨_,other,_⟩ | ⟨_,_,earlier⟩
    · cases other
    · exact ih earlier

/-- Every record is sealed under the next number. -/
theorem Told.numbered (told : Told ctx hello shared log messages n) : n ≤ messages.length ∧
    log.filterMap Event.nonce = nonces (trafficIv (serverSecret hello shared (messages.headD []))) n := by
  induction told with
  | none => exact ⟨le_rfl,rfl⟩
  | clear told ih => exact ⟨Nat.zero_le _,by rw [List.filterMap_append,ih.2]; rfl⟩
  | snapshot told hashed ih => exact ⟨ih.1,by rw [List.filterMap_append,ih.2]; exact List.append_nil _⟩
  | installed told ih => exact ⟨ih.1,by rw [List.filterMap_append,ih.2]; exact List.append_nil _⟩
  | sealed told ih =>
    refine ⟨le_rfl,?_⟩
    rw [List.filterMap_append,ih.2,nonces,nonces,List.range_succ,List.map_append]
    rfl
  | sent told ih =>
    refine ⟨?_,by rw [List.filterMap_append,ih.2]; exact List.append_nil _⟩
    rw [List.length_append]
    exact ih.1.trans (Nat.le_add_right _ _)

/-- No nonce comes twice. -/
theorem Told.fresh (told : Told ctx hello shared log messages n) (few : messages.length ≤ 2^64) :
    (log.filterMap Event.nonce).Nodup := by
  obtain ⟨count,numbered⟩ := told.numbered
  rw [numbered]
  exact nonces_fresh (trafficIv_length _) (count.trans few)

end

/-! ### A connection of which nothing has been read -/

/-- The addresses of a process. -/
def placed : Image where
  tls_state := 4096
  tls_client_gcm_ctx := 5120
  tls_server_gcm_ctx := 6144
  khs := 8192
  as := 8320
  tls_priv_key := 8576
  cv_content_prefix := 8448
  tls_cert_der := 8640
  tls_cert_der_end := 8642
  x25519_basepoint9 := 8704
  fk_label_finished := 8400
  tls_transcript_ctx := 7168
  tls_hs_msg_buf := 16384

/-- What it starts with, from 8192 on. -/
def data : List UInt8 :=
  khsLabels ++ List.replicate 12 0 ++ khs_empty_hash ++ List.replicate 48 0 ++ asLabels ++ List.replicate 51 0 ++
    ascii "finished" ++ List.replicate 40 0 ++ contentPrefix ++ List.replicate 30 0 ++ List.replicate 32 1 ++
    List.replicate 32 0 ++ [0x30,0] ++ List.replicate 62 0 ++ basepoint9

/-- A connection of it, of which nothing has been read. -/
def idle : World :=
  ⟨fun i => if i < 8192 then 0 else data.getD (i - 8192) 0,[],⟨⟨[],[]⟩,false,fun _ => 0,0⟩,[],.start,.plain,0,0,[]⟩

theorem placed_layout : Layout placed 0 := by
  refine ⟨fun r s other => ?_,by decide⟩
  cases r <;> cases s <;> first | exact absurd rfl other | exact .inl (by decide) | exact .inr (by decide)

theorem idle_ready : Ready placed 0 [0x30,0] (List.replicate 32 1) 0 0 idle where
  layout := placed_layout
  loaded := by constructor <;> decide +kernel
  unbuffered := rfl
  plain := rfl
  log := rfl
  apart := fun r _ => by cases r <;> first | exact .inl (by decide) | exact .inr (by decide)
  room := by decide

/-! ### The driver -/

section
variable {A : Image} {base : Nat} {der key given : List UInt8} {w : World}

/-- Where the driver ends, and why. -/
theorem server_handshake_ends {comb : Nat → Nat → AffinePoint} (table : CombTable comb) (stack : Nat → Mem) {x1 x2 : Nat}
    (ready : Ready A base der key x1 x2 w) :
    let given := slice w.m x1 x2
    let result := tls_server_handshake A comb stack (base+2240) x1 x2 w
    (result.1 = .ok () ∧ ∃ e : Exchange, e.Completes A der key given w result.2) ∨
      ((∃ e, result.1 = .error e) ∧ result.2.tls_hs_state = .failed ∧ Stopped A given w result.2 ∧
        Refused der key given w) := by
  have ends := handshake_ends table stack ready rfl
  rw [Ends] at ends
  dsimp only
  rw [tls_server_handshake,show base + 2240 - 192 = base + 2048 from Nat.add_sub_assoc (by decide) base]
  generalize (do flight A (base+2048) x1 x2; authenticate A comb stack (base+2048) : Driver Unit) w = outcome at ends ⊢
  cases outcome with
  | ok _ w' => exact .inl ⟨rfl,ends⟩
  | error e w' => exact .inr ⟨⟨e,rfl⟩,rfl,⟨ends.1.plain,ends.1.told⟩,ends.2⟩

/-- All that goes out in a handshake that takes place. -/
theorem Exchange.Completes.sent {e : Exchange} {w' : World} (completes : e.Completes A der key given w w') :
    w'.transport.sink.wire = w.transport.sink.wire ++ flightOctets e.clientHello e.shared e.messages ∧
      (w'.log.filterMap Event.nonce).Nodup := by
  obtain ⟨log,m1,m2,same,told⟩ := completes.told
  constructor
  · rw [completes.wire,same,List.flatMap_append,told.octets]
    exact congrArg _ (List.append_nil _)
  · rw [same,List.filterMap_append,show [Event.installed].filterMap Event.nonce = [] from rfl,List.append_nil]
    exact told.fresh ((show e.messages.length = 5 from rfl).trans_le (by decide))

/-- What has been noted of it, wherever it ends. -/
theorem server_handshake_told {comb : Nat → Nat → AffinePoint} (table : CombTable comb) (stack : Nat → Mem) {x1 x2 : Nat}
    (ready : Ready A base der key x1 x2 w) :
    let w' := (tls_server_handshake A comb stack (base+2240) x1 x2 w).2
    ∃ hello shared log messages n, Told A.tls_transcript_ctx hello shared log messages n ∧ messages.length ≤ 5 ∧
      (w'.log = log ∨ w'.log = log ++ [.installed]) ∧
      (w'.log ≠ [] → ∃ reads, Received (slice w.m x1 x2) w.reads reads hello) := by
  dsimp only
  rcases server_handshake_ends table stack ready with ⟨_,e,completes⟩ | ⟨_,_,stopped,_⟩
  · obtain ⟨log,m1,m2,same,told⟩ := completes.told
    obtain ⟨reads,⟨_,_,opens,_⟩,_⟩ := completes.signs
    exact ⟨_,_,_,_,_,told,le_rfl,.inr same,fun _ => ⟨reads,opens.received⟩⟩
  · obtain ⟨hello,shared,messages,n,_,_,few,told,_,received⟩ := stopped.told
    exact ⟨hello,shared,_,messages,n,told,few,.inl rfl,received⟩

end

end Sarm.Handshake
