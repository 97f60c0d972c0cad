import Sarm.HandshakeFrame
import Sarm.Passing

/-!
What a handshake has sent: the messages that its records carry, the transcript of them, and the sequence
numbers they are sealed with. Each call that sends a message adds it to all of these, or stops.
-/
namespace Sarm.Handshake
open Sarm.Memory Sarm.Neon Sarm.KeySchedule Sarm.Transcript Sarm.Sha256 Sarm.Tls Sarm.Gcm Sarm.Outcomes
open Sarm.Hpack (ascii)
open Sarm.H2 (ReadEvent)
open Sarm.Staging (Stage Socket rawWriteAll_part)
open Sarm.H2 (WriteEvent)

/-! ### What is noted -/

/-- The octets of a record that has been sent. -/
def Event.octets : Event → List UInt8
  | .sent record => record
  | _ => []

/-- The secret of the server's records, by the messages in clear. -/
def serverSecret (hello shared serverHello : List UInt8) : List UInt8 :=
  serverHandshakeTraffic shared (digest (hello ++ serverHello))

/-- The record that carries one more message behind these: the first in clear, the others protected and numbered. -/
def carrier (hello shared : List UInt8) : List (List UInt8) → List UInt8 → List UInt8
  | [],text => recordHeader 22 text.length ++ text
  | first :: rest,text =>
    let secret := serverSecret hello shared first
    protect (aes128 (trafficKey secret)) (trafficIv secret) (BitVec.ofNat 64 rest.length) (innerPlaintext text 22 0)

/-- What is noted up to some point: the records carry these messages, the transcript at each snapshot is of the
    ClientHello and the messages before it, and `n` records have been sealed, each with the next number. -/
inductive Told (ctx : Nat) (hello shared : List UInt8) : List Event → List (List UInt8) → Nat → Prop
  | none : Told ctx hello shared [] [] 0
  | clear {log : List Event} {text : List UInt8} (told : Told ctx hello shared log [] 0) :
      Told ctx hello shared (log ++ [.sent (carrier hello shared [] text)]) [text] 0
  | snapshot {log : List Event} {messages : List (List UInt8)} {n : Nat} {m : Mem}
      (told : Told ctx hello shared log messages n) (hashed : Transcribed ctx m (hello ++ messages.flatten)) :
      Told ctx hello shared (log ++ [.snapshot m]) messages n
  | installed {log : List Event} {first : List UInt8} (told : Told ctx hello shared log [first] 0) :
      Told ctx hello shared (log ++ [.installed]) [first] 0
  | sealed {log : List Event} {first : List UInt8} {rest : List (List UInt8)}
      (told : Told ctx hello shared log (first :: rest) rest.length) : Told ctx hello shared
        (log ++ [.sealed (trafficIv (serverSecret hello shared first)) (BitVec.ofNat 64 rest.length)]) (first :: rest)
        (rest.length + 1)
  | sent {log : List Event} {first text : List UInt8} {rest : List (List UInt8)}
      (told : Told ctx hello shared log (first :: rest) (rest.length + 1)) :
      Told ctx hello shared (log ++ [.sent (carrier hello shared (first :: rest) text)]) (first :: rest ++ [text])
        (rest.length + 1)

/-- The first record, some of it read before: its fragment is one message. -/
def Received (given : List UInt8) (reads reads' : List ReadEvent) (hello : List UInt8) : Prop :=
  ∃ version, (version = 1 ∨ version = 3) ∧
    given.map some ++ stream reads = (wholeRecord 22 version hello).map some ++ stream reads'

/-- A handshake that has failed: still in plain text, what has been noted is right, and what has been sent besides
    is a part of the record that would have been next. -/
structure Stopped (A : Image) (given : List UInt8) (w0 w : World) : Prop where
  plain : w.transport_mode = .plain
  told : ∃ hello shared messages n text k, messages.length ≤ 5 ∧ Told A.tls_transcript_ctx hello shared w.log messages n ∧
    w.transport.sink.wire = w0.transport.sink.wire ++ w.log.flatMap Event.octets ++
      (carrier hello shared messages text).take k ∧
    (w.log ≠ [] → ∃ reads, Received given w0.reads reads hello)

/-! ### Calls that send -/

section
variable {A : Image} {base : Nat} {w : World}

/-- A call of the record layer that has come to something. -/
theorem attempting_ends {α β : Type} {f : Mem → Except RecordError α × Mem} {reply : Except RecordError α} {m : Mem}
    {k : α → Driver β} {Done : β → World → Prop} {Fails : HandshakeError → World → Prop} (run : f w.m = (reply,m))
    (fails : ∀ e, reply = .error e → Fails (.record e) { w with m := m })
    (rest : ∀ a, reply = .ok a → Ends (k a) { w with m := m } Done Fails) : Ends (attempting f >>= k) w Done Fails := by
  cases reply with
  | error e => exact Ends.stop (by rw [attempting,run]) (fails e rfl)
  | ok a => exact Ends.step (by rw [attempting,run]) (rest a rfl)

theorem drawing_ok {f : List RandomEvent → Mem → List RandomEvent × Mem × Except Nat Nat} {random : List RandomEvent}
    {m : Mem} {n : Nat} (reply : f w.random w.m = (random,m,.ok n)) :
    drawing f w = .ok n { w with random := random, m := m } := by rw [drawing,reply]

theorem drawing_error {f : List RandomEvent → Mem → List RandomEvent × Mem × Except Nat Nat} {random : List RandomEvent}
    {m : Mem} {e : Nat} (reply : f w.random w.m = (random,m,.error e)) :
    drawing f w = .error (.alert e) { w with random := random, m := m } := by rw [drawing,reply]

/-- The socket takes what comes, this many times. -/
def Willing : Nat → Socket → Prop
  | 0,_ => True
  | n+1,s => ∀ data : List UInt8, data.length ≤ 18496 → (s.write data).2 = true ∧ Willing n (s.write data).1

theorem Willing.mono : ∀ {n k : Nat} {s : Socket}, Willing n s → k ≤ n → Willing k s := by
  intro n
  induction n with
  | zero =>
    intro k s willing few
    rwa [Nat.le_zero.mp few]
  | succ n ih =>
    intro k s willing few
    cases k with
    | zero => trivial
    | succ k => exact fun data short => ⟨(willing data short).1,ih (willing data short).2 (Nat.le_of_succ_le_succ few)⟩

/-- A write of a plaintext connection that gathers nothing. -/
theorem transport_write_ends (x1 x2 : Nat) (unbuffered : w.transport.buffering = false) (short : x2 ≤ 18496) :
    Ends (transport_write x1 x2) w
      (fun _ w' => ∃ transport : Stage Socket, transport.sink.wire = w.transport.sink.wire ++ slice w.m x1 x2 ∧
        transport.buffering = false ∧ (∀ n, Willing (n+1) w.transport.sink → Willing n transport.sink) ∧
        w' = { w with transport := transport, log := w.log ++ [.sent (slice w.m x1 x2)] })
      (fun _ w' => ¬Willing 1 w.transport.sink ∧ ∃ (transport : Stage Socket) (k : Nat),
        transport.sink.wire = w.transport.sink.wire ++ (slice w.m x1 x2).take k ∧
          w' = { w with transport := transport }) := by
  rw [Ends,transport_write,Stage.write,if_pos unbuffered,Stage.writeNow]
  have delivered := @Staging.socket_delivers w.transport.sink (slice w.m x1 x2)
  have fits : (slice w.m x1 x2).length ≤ 18496 := by rwa [slice_length]
  obtain ⟨k,part⟩ := rawWriteAll_part w.transport.sink.outcomes w.transport.sink.wire (slice w.m x1 x2)
  cases written : Socket.write w.transport.sink (slice w.m x1 x2) with
  | mk socket ok =>
    rw [written] at delivered
    cases ok with
    | false =>
      refine ⟨fun willing => ?_,{ w.transport with sink := socket },k,
        (congrArg (fun r => r.1.wire) written).symm.trans part,rfl⟩
      have taken := (willing _ fits).1
      rw [written] at taken
      cases taken
    | true =>
      refine ⟨{ w.transport with sink := socket },delivered socket rfl,unbuffered,fun n willing => ?_,rfl⟩
      have left := (willing _ fits).2
      rwa [written] at left

theorem record_write_lays {m : Mem} {frag len out : Nat} (some_ : 0 < len) (short : len ≤ maxPlaintext)
    (apart : Clear frag len out (len+5)) :
    ∃ m', tls_record_write m 22 frag len out = (.ok (len+5),m') ∧
      Lays m out (recordHeader 22 len ++ slice m frag len) m' := by
  have front : Lays m out (recordHeader 22 len) (writeHeader m out 22 len) := by
    refine ⟨slice_header m out 22 len,fun i outside => ?_⟩
    exact writeHeader_outside (outside (out,5) (List.mem_singleton_self _))
  have kept : slice (writeHeader m out 22 len) frag len = slice m frag len :=
    front.keeps (apart.symm.part le_rfl (by simp [recordHeader]) le_rfl le_rfl)
  have forward := @Hpack.memcpy_forward (writeHeader m out 22 len) (out+5) frag len (by unfold Clear at apart; omega)
  refine ⟨Hpack.memcpy (writeHeader m out 22 len) (out+5) frag len,?_,?_⟩
  · rw [tls_record_write,if_neg (by decide),if_neg (by omega),if_neg (by omega)]
    rfl
  · refine front.behind (b := out+5) ⟨?_,fun i outside => ?_⟩ rfl
    · rw [forward,slice_length,slice_blit_same,slice_shift,Nat.add_zero,kept]
    · rw [forward]
      have := outside (out+5,_) (List.mem_singleton_self _)
      rw [slice_length] at this
      exact blit_outside this

/-! ### A handshake that goes on -/

/-- What the memory holds of a handshake behind these messages, and what has been noted. -/
structure Running (A : Image) (der key given : List UInt8) (w0 : World) (hello shared : List UInt8)
    (messages : List (List UInt8)) (w : World) : Prop where
  loaded : Loaded A der key w.m
  transcribed : Transcribed A.tls_transcript_ctx w.m (hello ++ messages.flatten)
  clientSeq : ldr 64 w.m (A.tls_state+400) = 0
  serverSeq : ldr 64 w.m (A.tls_state+408) = BitVec.ofNat 64 (messages.length - 1)
  alpnLength : (ldr 64 w.m (A.tls_state+416)).toNat = 2
  alpn : slice w.m (A.tls_state+424) 2 = ascii "h2"
  received : Received given w0.reads w.reads hello
  told : Told A.tls_transcript_ctx hello shared w.log messages (messages.length - 1)
  wire : w.transport.sink.wire = w0.transport.sink.wire ++ w.log.flatMap Event.octets
  unbuffered : w.transport.buffering = false
  plain : w.transport_mode = .plain
  few : messages.length ≤ 5
  willing : ∀ n, Willing (n + messages.length) w0.transport.sink → Willing n w.transport.sink

/-- The keys of the handshake are in place. -/
structure Keyed (A : Image) (shared h1 : List UInt8) (m : Mem) : Prop where
  keys : HandshakeKeys A.toImage m shared h1
  client : Context (trafficKey (clientHandshakeTraffic shared h1)) m A.tls_client_gcm_ctx
  server : Context (trafficKey (serverHandshakeTraffic shared h1)) m A.tls_server_gcm_ctx

variable {der key given hello shared h1 : List UInt8} {w0 : World} {messages : List (List UInt8)}
  {regions : List Region} {m' : Mem}

/-- A write that fails is one of the few that there are. -/
theorem Running.stuck (running : Running A der key given w0 hello shared messages w) (few : messages.length < 5)
    (stuck : ¬Willing 1 w.transport.sink) : ¬Willing 5 w0.transport.sink := fun willing =>
  stuck (running.willing 1 (willing.mono (by omega)))

theorem Running.stopped {w' : World} (running : Running A der key given w0 hello shared messages w)
    (log : w'.log = w.log) (mode : w'.transport_mode = w.transport_mode) (transport : w'.transport = w.transport) :
    Stopped A given w0 w' := by
  refine ⟨mode.trans running.plain,hello,shared,messages,messages.length - 1,[],0,running.few,?_,?_,fun _ =>
    ⟨_,running.received⟩⟩
  · rw [log]
    exact running.told
  · rw [transport,log,running.wire,List.take_zero,List.append_nil]

/-- A call that leaves the numbers and the protocol of the state. -/
theorem Running.moves {w' : World} {more : List (List UInt8)}
    (running : Running A der key given w0 hello shared messages w) (layout : Layout A base)
    (touches : Touches A base writable w.m w'.m) (state : slice w'.m (A.tls_state+400) 26 = slice w.m (A.tls_state+400) 26)
    (transcribed : Transcribed A.tls_transcript_ctx w'.m (hello ++ more.flatten))
    (told : Told A.tls_transcript_ctx hello shared w'.log more (messages.length - 1))
    (count : more.length - 1 = messages.length - 1) (reads : w'.reads = w.reads)
    (wire : w'.transport.sink.wire = w0.transport.sink.wire ++ w'.log.flatMap Event.octets)
    (unbuffered : w'.transport.buffering = false) (mode : w'.transport_mode = w.transport_mode) (few : more.length ≤ 5)
    (willing : ∀ n, Willing (n + more.length) w0.transport.sink → Willing n w'.transport.sink) :
    Running A der key given w0 hello shared more w' := by
  have word {a : Nat} (inside : a + 8 ≤ 26) : ldr 64 w'.m (A.tls_state+400+a) = ldr 64 w.m (A.tls_state+400+a) :=
    ldr_congr 8 rfl (by decide) fun k small => by
      rw [Nat.add_assoc _ a]
      exact slice_eq_iff.mp state (a+k) (by omega)
  have name : slice w'.m (A.tls_state+400+24) 2 = slice w.m (A.tls_state+400+24) 2 := slice_congr fun k small => by
    rw [Nat.add_assoc _ 24]
    exact slice_eq_iff.mp state (24+k) (by omega)
  refine ⟨running.loaded.after layout touches,transcribed,(word (a := 0) (by decide)).trans running.clientSeq,?_,
    (congrArg BitVec.toNat (word (a := 16) (by decide))).trans running.alpnLength,name.trans running.alpn,?_,?_,wire,
    unbuffered,mode.trans running.plain,few,willing⟩
  · rw [count]
    exact (word (a := 8) (by decide)).trans running.serverSeq
  · rw [reads]
    exact running.received
  · rw [count]
    exact told

/-- A call that writes neither the state nor the transcript. -/
theorem Running.after (running : Running A der key given w0 hello shared messages w) (layout : Layout A base)
    (touches : Touches A base regions w.m m') (few : ∀ r ∈ regions, r ∈ writable) (state : .state ∉ regions)
    (transcript : .transcript ∉ regions) :
    Running A der key given w0 hello shared messages { w with m := m' } :=
  running.moves layout (touches.mono few)
    (touches.keeps layout .state state (Nat.le_add_right _ _) (by simp only [Image.place]; omega))
    (running.transcribed.after layout touches transcript) running.told rfl rfl running.wire running.unbuffered rfl
    running.few running.willing

theorem HandshakeKeys.kept {m : Mem} (keys : HandshakeKeys A.toImage m shared h1)
    (secrets : slice m' (A.tls_state+208) 128 = slice m (A.tls_state+208) 128)
    (traffic : slice m' (A.tls_state+480) 64 = slice m (A.tls_state+480) 64) :
    HandshakeKeys A.toImage m' shared h1 := by
  have low {a n : Nat} (inside : a + n ≤ 128) : slice m' (A.tls_state+208+a) n = slice m (A.tls_state+208+a) n := by
    rw [label_slice secrets inside,slice_drop_take inside]
  have high {a n : Nat} (inside : a + n ≤ 64) : slice m' (A.tls_state+480+a) n = slice m (A.tls_state+480+a) n := by
    rw [label_slice traffic inside,slice_drop_take inside]
  exact ⟨(low (a := 0) (by decide)).trans keys.handshakeSecret,(low (a := 32) (by decide)).trans keys.masterSecret,
    (high (a := 32) (by decide)).trans keys.clientTraffic,(high (a := 0) (by decide)).trans keys.serverTraffic,
    (low (a := 64) (by decide)).trans keys.clientKey,(low (a := 80) (by decide)).trans keys.clientIv,
    (low (a := 96) (by decide)).trans keys.serverKey,(low (a := 112) (by decide)).trans keys.serverIv⟩

theorem Keyed.after {m : Mem} (keyed : Keyed A shared h1 m) (layout : Layout A base)
    (touches : Touches A base regions m m') (state : .state ∉ regions) (client : .client ∉ regions)
    (server : .server ∉ regions) : Keyed A shared h1 m' where
  keys := HandshakeKeys.kept keyed.keys
    (touches.keeps layout .state state (by simp [Image.place]) (by simp [Image.place]))
    (touches.keeps layout .state state (by simp [Image.place]) (by simp [Image.place]))
  client := contextAt_kept keyed.client (slice_eq_iff.mp (touches.region layout .client client))
  server := contextAt_kept keyed.server (slice_eq_iff.mp (touches.region layout .server server))

/-- The number of the next record is written. -/
theorem Keyed.counted {m : Mem} (keyed : Keyed A shared h1 m) (layout : Layout A base) {a : Nat}
    (counter : 400 ≤ a ∧ a ≤ 408) (v : BitVec 64) : Keyed A shared h1 (str m (A.tls_state+a) v) := by
  have changes : ChangesOnly [(A.tls_state+a,8)] m (str m (A.tls_state+a) v) := fun i outside =>
    str_outside v (outside (A.tls_state+a,8) (List.mem_singleton_self _))
  have touches : Touches A base [.state] m (str m (A.tls_state+a) v) :=
    touches_of changes (by simp [Image.place]; omega)
  exact ⟨HandshakeKeys.kept keyed.keys (changes.slice (by simp; omega)) (changes.slice (by simp; omega)),
    contextAt_kept keyed.client (slice_eq_iff.mp (touches.region layout .client (by decide))),
    contextAt_kept keyed.server (slice_eq_iff.mp (touches.region layout .server (by decide)))⟩

/-- A message in its buffer is sealed into the other one. -/
theorem encrypt_seals {m : Mem} (keyed : Keyed A shared h1 m) (layout : Layout A base) (seq : BitVec 64)
    {text : List UInt8} (laid : slice m A.tls_hs_msg_buf text.length = text) (some_ : text ≠ [])
    (short : text.length ≤ 2048) :
    ∃ m', tls_record_encrypt m (base+2048-80) 22 A.tls_hs_msg_buf text.length A.tls_server_gcm_ctx (A.tls_state+320) seq
        A.tls_hs_record_buf = (.ok (text.length+22),m') ∧
      slice m' A.tls_hs_record_buf (text.length+22) =
        protect (aes128 (trafficKey (serverHandshakeTraffic shared h1))) (trafficIv (serverHandshakeTraffic shared h1)) seq
          (innerPlaintext text 22 0) ∧
      Touches A base [.stack,.buffers] m m' := by
  have frame : base + 2048 - 80 = base + 1968 := Nat.add_sub_assoc (by decide) base
  have filled := List.length_pos_of_ne_nil some_
  rw [frame,Image.tls_hs_record_buf]
  have context := layout.clear .buffers .server (by decide) (a := A.tls_hs_msg_buf+2048) (k := text.length+22)
    (by simp [Image.place]) (by simp [Image.place]; omega) le_rfl le_rfl
  have iv := layout.clear .buffers .state (by decide) (a := A.tls_hs_msg_buf+2048) (k := text.length+22)
    (b := A.tls_state+320) (n := 12) (by simp [Image.place]) (by simp [Image.place]; omega) (by simp [Image.place])
    (by simp [Image.place])
  have stack := layout.clear .stack .buffers (by decide) (a := base+1968+56) (k := 12) (b := A.tls_hs_msg_buf+2048)
    (n := text.length+22) (by simp [Image.place]; omega) (by simp [Image.place]) (by simp [Image.place])
    (by simp [Image.place]; omega)
  have stackContext := layout.clear .stack .server (by decide) (a := base+1968+56) (k := 12)
    (by simp [Image.place]; omega) (by simp [Image.place]) le_rfl le_rfl
  have accepted : sealRefused 22 text.length = none := by
    rw [sealRefused,if_neg (by decide),if_neg (by rw [maxPlaintext]; omega),if_neg (by omega)]
  obtain ⟨m',sealed,record,outside⟩ := @encrypt_protects _ _ (base+1968) _ A.tls_hs_msg_buf _ _ (A.tls_state+320)
    (A.tls_hs_msg_buf+2048) seq accepted
    ⟨keyed.server,.inr (.inr (.inl (by omega))),.inr (.inr context.symm),.inr (.inr iv.symm),.inr (.inr stack.symm),
      .inr (.inr stackContext.symm)⟩
  have changes : ChangesOnly [(A.tls_hs_msg_buf+2048,text.length+22),(base+2024,12)] m m' := fun i away =>
    outside i (away (_,_) (List.mem_cons_self ..)) (away (base+2024,12) (by simp))
  refine ⟨m',sealed,?_,touches_of changes ?_⟩
  · rw [record,laid,keyed.keys.serverIv]
    rfl
  · simp [Image.place]
    omega

/-- It is sent under the next number. -/
theorem sendEncrypted_ends (keyed : Keyed A shared h1 w.m) (layout : Layout A base) {text : List UInt8}
    (laid : slice w.m A.tls_hs_msg_buf text.length = text) (some_ : text ≠ []) (short : text.length ≤ 2048)
    (unbuffered : w.transport.buffering = false) :
    let seq := ldr 64 w.m (A.tls_state+408)
    let secret := serverHandshakeTraffic shared h1
    let record := protect (aes128 (trafficKey secret)) (trafficIv secret) seq (innerPlaintext text 22 0)
    Ends (sendEncrypted A (base+2048) text.length) w
      (fun _ w' => ∃ m' transport, Touches A base [.stack,.buffers] (str w.m (A.tls_state+408) (seq+1)) m' ∧
        Stage.buffering transport = false ∧ transport.sink.wire = w.transport.sink.wire ++ record ∧
        (∀ n, Willing (n+1) w.transport.sink → Willing n transport.sink) ∧
        w' = { w with m := m', transport := transport, log := w.log ++ [.sealed (trafficIv secret) seq] ++ [.sent record] })
      (fun _ w' => ¬Willing 1 w.transport.sink ∧ w'.transport_mode = w.transport_mode ∧
        w'.log = w.log ++ [.sealed (trafficIv secret) seq] ∧
        ∃ k, w'.transport.sink.wire = w.transport.sink.wire ++ record.take k) := by
  intro seq secret record
  have numbered : Touches A base [.state] w.m (str w.m (A.tls_state+408) (seq+1)) := by
    refine touches_of (l := [(A.tls_state+408,8)]) (fun i outside => ?_) (by simp [Image.place])
    exact str_outside _ (outside (A.tls_state+408,8) (List.mem_singleton_self _))
  have keyed1 := keyed.counted layout (a := 408) (by decide) (seq+1)
  have laid1 : slice (str w.m (A.tls_state+408) (seq+1)) A.tls_hs_msg_buf text.length = text :=
    (numbered.keeps layout .buffers (by decide) le_rfl (by simp [Image.place]; omega)).trans laid
  rw [sendEncrypted]
  refine Ends.step (t := { w with m := str w.m (A.tls_state+408) (seq+1) }) rfl ?_
  generalize str w.m (A.tls_state+408) (seq+1) = m1 at keyed1 laid1 numbered ⊢
  obtain ⟨m2,sealed,written,touches⟩ := encrypt_seals keyed1 layout seq laid1 some_ short
  have iv : slice m2 (A.tls_state+320) 12 = trafficIv secret :=
    (touches.keeps layout .state (by decide) (by simp [Image.place]) (by simp [Image.place])).trans keyed1.keys.serverIv
  refine Ends.step (a := text.length+22) (t := { w with m := m2 }) ?_ ?_
  · rw [attempting,sealed]
  refine Ends.step (a := PUnit.unit)
    (t := { w with m := m2, log := w.log ++ [.sealed (trafficIv secret) seq] }) (by rw [← iv]; rfl) ?_
  refine (@transport_write_ends { w with m := m2, log := w.log ++ [.sealed (trafficIv secret) seq] }
    A.tls_hs_record_buf (text.length+22) unbuffered (by omega)).mono ?_ ?_
  · rintro _ _ ⟨transport,wire,off,willing,rfl⟩
    dsimp only at wire ⊢
    rw [written] at wire ⊢
    exact ⟨m2,transport,touches,off,wire,willing,rfl⟩
  · rintro _ _ ⟨stuck,transport,k,part,rfl⟩
    dsimp only at part ⊢
    rw [written] at part
    exact ⟨stuck,rfl,rfl,k,part⟩

/-- A message in its buffer is added to the transcript. -/
theorem transcript_message {m : Mem} {l : List UInt8} (transcribed : Transcribed A.tls_transcript_ctx m l)
    (layout : Layout A base) {type : UInt8} {body : List UInt8}
    (laid : slice m A.tls_hs_msg_buf (message type body).length = message type body)
    (short : (message type body).length ≤ 2048) :
    let m' := tls_transcript_add m (base+2048-8) A.tls_transcript_ctx type (A.tls_hs_msg_buf+4)
      ((message type body).length - 4)
    Transcribed A.tls_transcript_ctx m' (l ++ message type body) ∧ Touches A base [.stack,.transcript] m m' ∧
      slice m' A.tls_hs_msg_buf (message type body).length = message type body := by
  have width := message_length type body
  have text : slice m (A.tls_hs_msg_buf+4) body.length = body := by
    rw [width,Nat.add_comm,slice_add] at laid
    exact (List.append_inj laid (by simp [header])).2
  obtain ⟨added,touches⟩ := @transcript_add _ _ _ _ transcribed layout type (A.tls_hs_msg_buf+4) body.length
    (Nat.le_add_right _ _) (by omega)
  rw [text] at added
  rw [show (message type body).length - 4 = body.length by omega]
  exact ⟨added,touches,(touches.keeps layout .buffers (by decide) le_rfl (by simp only [Image.place]; omega)).trans laid⟩

/-- A message in its buffer is added to the transcript, sealed under the next number and sent. -/
theorem sendMessage_ends {first : List UInt8} {rest : List (List UInt8)} (layout : Layout A base)
    (running : Running A der key given w0 hello shared (first :: rest) w)
    (keyed : Keyed A shared (digest (hello ++ first)) w.m) {type : UInt8} {body : List UInt8}
    (laid : slice w.m A.tls_hs_msg_buf (message type body).length = message type body)
    (short : (message type body).length ≤ 2048) (few : rest.length < 4) (next : HsState) :
    Ends (sendMessage A (base+2048) type (message type body).length next) w
      (fun _ w' => Running A der key given w0 hello shared (first :: rest ++ [message type body]) w' ∧
        Keyed A shared (digest (hello ++ first)) w'.m ∧ w'.random = w.random ∧ w'.reads = w.reads ∧
        w'.tls_hs_state = next)
      (fun _ w' => Stopped A given w0 w' ∧ ¬Willing 5 w0.transport.sink) := by
  have filled : message type body ≠ [] := List.cons_ne_nil _ _
  obtain ⟨added,touches1,laid1⟩ := transcript_message running.transcribed layout laid short
  have keyed1 := keyed.after layout touches1 (by decide) (by decide) (by decide)
  have seq1 := (touches1.word layout .state (by decide) (a := A.tls_state+408) (by simp [Image.place])
    (by simp [Image.place])).trans running.serverSeq
  rw [sendMessage]
  refine Ends.step (t := { w with
    m := tls_transcript_add w.m (base+2048-8) A.tls_transcript_ctx type (A.tls_hs_msg_buf+4)
      ((message type body).length - 4) }) rfl ?_
  generalize tls_transcript_add w.m (base+2048-8) A.tls_transcript_ctx type (A.tls_hs_msg_buf+4) _ = m1
    at added touches1 keyed1 laid1 seq1 ⊢
  have sends := @sendEncrypted_ends A base { w with m := m1 } shared _ keyed1 layout _ laid1 filled short
    running.unbuffered
  dsimp only at sends
  rw [seq1] at sends
  refine Ends.bind (sends.mono (fun _ _ => id) ?_) ?_
  · rintro _ w' ⟨stuck,mode,log,k,part⟩
    refine ⟨⟨mode.trans running.plain,hello,shared,first :: rest,_,message type body,k,running.few,
      by rw [log]; exact running.told.sealed,
      ?_,fun _ => ⟨_,running.received⟩⟩,running.stuck (Nat.succ_lt_succ few) stuck⟩
    rw [part,log,running.wire]
    simp [Event.octets,carrier,serverSecret]
  rintro _ _ ⟨m2,transport,touches2,off,wire,more,rfl⟩
  -- What is written of the state is the number.
  have numbered : ChangesOnly [(A.tls_state+408,8)] m1
      (str m1 (A.tls_state+408) (BitVec.ofNat 64 ((first :: rest).length - 1) + 1)) := fun i outside =>
    str_outside _ (outside (A.tls_state+408,8) (List.mem_singleton_self _))
  have keyed2 := keyed1.counted layout (a := 408) (by decide) (BitVec.ofNat 64 ((first :: rest).length - 1) + 1)
  have written := ldr_str 8 rfl (by decide) m1 (A.tls_state+408) (BitVec.ofNat 64 ((first :: rest).length - 1) + 1)
  generalize str m1 (A.tls_state+408) _ = m1' at numbered touches2 keyed2 written
  have inState : Touches A base [.state] m1 m1' := touches_of numbered (by simp [Image.place])
  have all : Touches A base writable w.m m2 :=
    (touches1.mono (by decide)).trans ((inState.mono (by decide)).trans (touches2.mono (by decide)))
  have field {a n : Nat} (inside : a + n ≤ 408 ∨ 416 ≤ a) (within : a + n ≤ 544) :
      slice m2 (A.tls_state+a) n = slice w.m (A.tls_state+a) n := by
    rw [touches2.keeps layout .state (by decide) (by simp [Image.place]) (by simp [Image.place]; omega),
      numbered.slice (by simp; omega),
      touches1.keeps layout .state (by decide) (by simp [Image.place]) (by simp [Image.place]; omega)]
  have word {a : Nat} (inside : a + 8 ≤ 408 ∨ 416 ≤ a) (within : a + 8 ≤ 544) :
      ldr 64 m2 (A.tls_state+a) = ldr 64 w.m (A.tls_state+a) :=
    ldr_congr 8 rfl (by decide) (slice_eq_iff.mp (field inside within))
  have moved := (added.after layout inState (by decide)).after layout touches2 (by decide)
  have number : ldr 64 m2 (A.tls_state+408) = BitVec.ofNat 64 (rest.length + 1) := by
    rw [touches2.word layout .state (by decide) (by simp [Image.place]) (by simp [Image.place]),written,
      List.length_cons,Nat.add_sub_cancel,BitVec.ofNat_add]
    rfl
  refine Ends.modify ⟨⟨running.loaded.after layout all,?_,?_,?_,?_,?_,running.received,?_,?_,off,running.plain,?_,?_⟩,
    keyed2.after layout touches2 (by decide) (by decide) (by decide),rfl,rfl,rfl⟩
  · rw [List.flatten_append,List.flatten_singleton,← List.append_assoc]
    exact moved
  · exact (word (by decide) (by decide)).trans running.clientSeq
  · rw [List.length_append,List.length_singleton,Nat.add_sub_cancel]
    exact number
  · exact (congrArg BitVec.toNat (word (a := 416) (by decide) (by decide))).trans running.alpnLength
  · exact (field (a := 424) (by decide) (by decide)).trans running.alpn
  · rw [List.length_append,List.length_singleton,Nat.add_sub_cancel]
    exact running.told.sealed.sent
  · rw [wire,running.wire]
    simp [Event.octets]
  · rw [List.length_append,List.length_singleton,List.length_cons]
    omega
  · intro n willing
    rw [List.length_append,List.length_singleton,← Nat.add_assoc,Nat.add_right_comm] at willing
    exact more n (running.willing (n+1) willing)

end
end Sarm.Handshake
