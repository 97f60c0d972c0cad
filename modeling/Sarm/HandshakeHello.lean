import Sarm.HandshakeSends

/-!
The part of a handshake that is in clear: a ClientHello that is accepted, the ServerHello behind it, and the
keys that both of them lead to.
-/
namespace Sarm.Hello
open Sarm.Memory Sarm.Neon
open Sarm.Hpack (ascii)
open Sarm.X25519 (leValue ldr_value)

/-- What is kept of a message, in the state at `a`. -/
structure Kept (h : ClientHello) (m : Mem) (a : Nat) : Prop where
  idLength : (ldr 64 m (a+440)).toNat = h.sessionId.length
  id : slice m (a+448) h.sessionId.length = h.sessionId
  share : ∃ list, .shares list ∈ h.list ∧ ⟨x25519Group,slice m (a+80) 32⟩ ∈ list
  alpnLength : (ldr 64 m (a+416)).toNat = 2
  alpn : slice m (a+424) 2 = ascii "h2"

/-- It is in these fields. -/
theorem Kept.moved {h : ClientHello} {m m' : Mem} {a a' : Nat} (kept : Kept h m a) (short : h.sessionId.length ≤ 32)
    (share : slice m' (a'+80) 32 = slice m (a+80) 32) (rest : slice m' (a'+416) 64 = slice m (a+416) 64) :
    Kept h m' a' := by
  have octets := slice_eq_iff.mp rest
  have word {o : Nat} (inside : o + 8 ≤ 64) : ldr 64 m' (a'+416+o) = ldr 64 m (a+416+o) :=
    ldr_congr 8 rfl (by decide) fun k small => by
      rw [Nat.add_assoc _ o,Nat.add_assoc _ o]
      exact octets (o+k) (by omega)
  have part {o n : Nat} (inside : o + n ≤ 64) : slice m' (a'+416+o) n = slice m (a+416+o) n :=
    slice_congr fun k small => by
      rw [Nat.add_assoc _ o,Nat.add_assoc _ o]
      exact octets (o+k) (by omega)
  refine ⟨?_,(part (o := 32) (by omega)).trans kept.id,?_,?_,(part (o := 8) (by omega)).trans kept.alpn⟩
  · exact (congrArg BitVec.toNat (word (o := 24) (by decide))).trans kept.idLength
  · rw [share]
    exact kept.share
  · exact (congrArg BitVec.toNat (word (o := 0) (by decide))).trans kept.alpnLength

theorem leValue_u64 {n : Nat} (small : n < 256) : leValue (u64 n) = n := by
  have high {i : Nat} (some_ : 0 < i) : UInt8.ofNat (n / 256^i) = 0 := by
    rw [Nat.div_eq_of_lt (small.trans_le (Nat.le_self_pow some_.ne' 256))]
    rfl
  rw [u64,show List.range 8 = [0,1,2,3,4,5,6,7] from rfl]
  simp only [List.map_cons,List.map_nil,leValue]
  rw [@high 1 (by decide),@high 2 (by decide),@high 3 (by decide),@high 4 (by decide),@high 5 (by decide),
    @high 6 (by decide),@high 7 (by decide),Nat.pow_zero,Nat.div_one,toNat_ofNat8 small]
  rfl

/-- A message that is accepted offers what is asked for, and its fields are kept. -/
theorem accepted_keeps {body : List UInt8} {state : Mem} (accepted : (tls_parse_client_hello body state).1 = .ok ()) :
    ∃ h : ClientHello, h.Framed ∧ h.Offers ∧ body = h.octets ∧ Kept h (tls_parse_client_hello body state).2 0 := by
  obtain ⟨h,framed,null,rfl⟩ := (parse_walks body state).2.2 accepted
  rcases parse_laid framed null state with ⟨enough,same⟩ | ⟨_,a,refused⟩
  · obtain ⟨_,length,id⟩ := effect_fields framed ⟨noFlags,state⟩
    have more := agreed_changes (h.effect ⟨noFlags,state⟩)
    have short := framed.sessionId
    have text (n : Nat) : slice (ofBytes (u64 n)) 0 8 = u64 n :=
      (congrArg _ (length_u64 n).symm).trans (slice_ofBytes (u64 n))
    refine ⟨h,framed,((effect_enough state null framed).mp enough).1,rfl,?_⟩
    rw [same]
    dsimp only
    refine ⟨?_,?_,?_,?_,?_⟩
    · rw [ldr_value,more.slice (by simp),Nat.zero_add,length,leValue_u64 (by omega)]
    · rw [more.slice (by simp),Nat.zero_add,id]
    · rw [more.slice (by simp)]
      exact keyshare_kept framed _ rfl enough.keyshare
    · rw [ldr_value,agreed]
      dsimp only
      rw [slice_blit_before (by omega),slice_blit_same,text,leValue_u64 (by decide)]
    · rw [agreed]
      dsimp only
      rw [slice_blit_same]
      exact slice_ofBytes (ascii "h2")
  · rw [refused] at accepted
    cases accepted

/-- What a client for the configured host sends is accepted. -/
theorem formed_accepted {h : ClientHello} (formed : h.WellFormed) (offers : h.Offers) (named : h.Named) (state : Mem) :
    (tls_parse_client_hello h.octets state).1 = .ok () := by
  rcases parse_laid formed.framed offers.compression state with ⟨_,accepted⟩ | ⟨missing,_⟩
  · rw [accepted]
  · refine absurd ((effect_enough state offers.compression formed.framed).mpr ⟨offers,?_⟩) missing
    simp only [flags_sniSeen,flags_sniMatch]
    rintro ⟨_,there,n,list,rest,rfl,host⟩
    exact ⟨_,there,n,list,rest,rfl,host,named _ _ there n (List.mem_cons_self ..) host⟩

end Sarm.Hello

namespace Sarm.Handshake
open Sarm.Memory Sarm.Neon Sarm.KeySchedule Sarm.Transcript Sarm.Sha256 Sarm.Tls Sarm.Gcm Sarm.Outcomes Sarm.X25519
open Sarm.Hello (tls_parse_client_hello parse_walks accepted_keeps formed_accepted Kept ClientHello)
open Sarm.Hpack (ascii)
open Sarm.H2 (ReadEvent)
open Sarm.Staging (Stage)

section
variable {A : Image} {base : Nat} {der key : List UInt8} {w : World}

/-- A connection that is given to the driver: nothing is noted or gathered, and `x2` octets at `x1` have been read. -/
structure Ready (A : Image) (base : Nat) (der key : List UInt8) (x1 x2 : Nat) (w : World) : Prop where
  layout : Layout A base
  loaded : Loaded A der key w.m
  unbuffered : w.transport.buffering = false
  plain : w.transport_mode = .plain
  log : w.log = []
  apart : ∀ r ∈ writable, Clear x1 x2 (A.place base r).1 (A.place base r).2
  room : x2 ≤ 16384

/-- A handshake that has sent nothing yet. -/
structure Begun (A : Image) (der key : List UInt8) (w0 : World) (hashed : List UInt8) (w : World) : Prop where
  loaded : Loaded A der key w.m
  transcribed : Transcribed A.tls_transcript_ctx w.m hashed
  clientSeq : ldr 64 w.m (A.tls_state+400) = 0
  serverSeq : ldr 64 w.m (A.tls_state+408) = 0
  log : w.log = []
  transport : w.transport = w0.transport
  plain : w.transport_mode = .plain

variable {w0 : World} {given hashed : List UInt8} {x1 x2 : Nat} {regions : List Region} {m' : Mem}

theorem Begun.stopped {w' : World} (begun : Begun A der key w0 hashed w) (log : w'.log = w.log)
    (mode : w'.transport_mode = w.transport_mode) (transport : w'.transport = w.transport) : Stopped A given w0 w' := by
  refine ⟨mode.trans begun.plain,[],[],[],0,[],0,Nat.zero_le _,?_,?_,fun some_ => absurd (log.trans begun.log) some_⟩
  · rw [log,begun.log]
    exact .none
  · rw [transport,begun.transport,log,begun.log]
    simp

theorem Begun.hashes {more : List UInt8} (begun : Begun A der key w0 hashed w) (layout : Layout A base)
    (touches : Touches A base regions w.m m') (few : ∀ r ∈ regions, r ∈ writable) (state : .state ∉ regions)
    (transcribed : Transcribed A.tls_transcript_ctx m' more) : Begun A der key w0 more { w with m := m' } where
  loaded := begun.loaded.after layout (touches.mono few)
  transcribed := transcribed
  clientSeq := (touches.word layout .state state (by simp [Image.place]) (by simp [Image.place])).trans begun.clientSeq
  serverSeq := (touches.word layout .state state (by simp [Image.place]) (by simp [Image.place])).trans begun.serverSeq
  log := begun.log
  transport := begun.transport
  plain := begun.plain

theorem Begun.after (begun : Begun A der key w0 hashed w) (layout : Layout A base)
    (touches : Touches A base regions w.m m') (few : ∀ r ∈ regions, r ∈ writable) (state : .state ∉ regions)
    (transcript : .transcript ∉ regions) : Begun A der key w0 hashed { w with m := m' } :=
  begun.hashes layout touches few state (begun.transcribed.after layout touches transcript)

/-- What has been read before is as it was. -/
theorem Ready.keeps (ready : Ready A base der key x1 x2 w0) (touches : Touches A base writable w0.m m') :
    slice m' x1 x2 = slice w0.m x1 x2 := by
  refine ChangesOnly.slice touches fun place there => ?_
  obtain ⟨r,member,rfl⟩ := List.mem_map.mp there
  have apart := ready.apart r member
  unfold Clear at apart
  omega

theorem begin_ends {Fails : HandshakeError → World → Prop} (ready : Ready A base der key x1 x2 w) :
    Ends (begin A) w
      (fun _ w' => Begun A der key w [] w' ∧ w'.reads = w.reads ∧ w'.random = w.random ∧ slice w'.m x1 x2 = slice w.m x1 x2)
      Fails := by
  have start : ChangesOnly [(A.tls_transcript_ctx,112)] w.m (tls_transcript_init w.m A.tls_transcript_ctx) :=
    fun i outside => init_outside (outside (A.tls_transcript_ctx,112) (List.mem_singleton_self _))
  have counter {m : Mem} {a : Nat} (inside : 400 ≤ a ∧ a ≤ 408) :
      Touches A base [.state] m (str m (A.tls_state+a) (0 : BitVec 64)) := by
    refine touches_part .state (a := A.tls_state+a) (n := 8) (fun i outside => ?_) (Nat.le_add_right _ _)
      (by simp only [Image.place]; omega)
    exact str_outside _ (outside (A.tls_state+a,8) (List.mem_singleton_self _))
  have touches1 : Touches A base [.transcript] w.m (tls_transcript_init w.m A.tls_transcript_ctx) :=
    touches_part .transcript start le_rfl le_rfl
  have transcribed : Transcribed A.tls_transcript_ctx (tls_transcript_init w.m A.tls_transcript_ctx) [] :=
    ⟨_,.init w.m,rfl⟩
  rw [begin]
  refine Ends.step (a := PUnit.unit) (t := { w with m := tls_transcript_init w.m A.tls_transcript_ctx }) rfl ?_
  generalize tls_transcript_init w.m A.tls_transcript_ctx = m1 at touches1 transcribed ⊢
  have touches2 := @counter m1 400 (by decide)
  have written2 := ldr_str 8 rfl (by decide) m1 (A.tls_state+400) (0 : BitVec 64)
  refine Ends.step (a := PUnit.unit) (t := { w with m := str m1 (A.tls_state+400) (0 : BitVec 64) }) rfl ?_
  generalize str m1 (A.tls_state+400) (0 : BitVec 64) = m2 at touches2 written2 ⊢
  have touches3 := @counter m2 408 (by decide)
  have written3 := ldr_str 8 rfl (by decide) m2 (A.tls_state+408) (0 : BitVec 64)
  have kept3 := ldr_str_apart 8 rfl (by decide) (m := m2) (b := A.tls_state+400) (a := A.tls_state+408) (0 : BitVec 64)
    (by omega)
  refine Ends.step (a := PUnit.unit) (t := { w with m := str m2 (A.tls_state+408) (0 : BitVec 64) }) rfl ?_
  generalize str m2 (A.tls_state+408) (0 : BitVec 64) = m3 at touches3 written3 kept3 ⊢
  have all : Touches A base writable w.m m3 :=
    (touches1.mono (by decide)).trans ((touches2.mono (by decide)).trans (touches3.mono (by decide)))
  exact Ends.modify ⟨⟨ready.loaded.after ready.layout all,
    (transcribed.after ready.layout touches2 (by decide)).after ready.layout touches3 (by decide),
    kept3.trans written2,written3,ready.log,rfl,ready.plain⟩,rfl,rfl,ready.keeps all⟩

/-- A record with the text is there, and what has been read before is a part of it. -/
def Presents (given : List UInt8) (reads : List ReadEvent) (text : List UInt8) : Prop :=
  ∃ version s, Proper 22 version text ∧ text.length + 5 ≤ 16384 ∧ given.length ≤ text.length + 5 ∧
    given.map some ++ stream reads = (wholeRecord 22 version text).map some ++ s

/-- The first record, as a whole in its buffer. -/
theorem firstRecord_ends (ready : Ready A base der key x1 x2 w0) (begun : Begun A der key w0 [] w)
    (same : slice w.m x1 x2 = slice w0.m x1 x2) (read : slice w0.m x1 x2 = given) :
    Ends (firstRecord A x1 x2) w
      (fun parsed w' => Begun A der key w0 [] w' ∧ w'.random = w.random ∧
        Delivers A.tls_hs_record_buf 16384 x2 w.reads w'.reads w'.m parsed ∧ slice w'.m A.tls_hs_record_buf x2 = given ∧
        ∀ text, Presents given w.reads text → parsed.type = 22 ∧ slice w'.m parsed.fragment parsed.length = text)
      (fun _ w' => Stopped A given w0 w' ∧ ∀ text, ¬Presents given w.reads text) := by
  have layout := ready.layout
  have room := ready.room
  have rest {m1 : Mem} (touches1 : Touches A base [.buffers] w.m m1) (front : slice m1 A.tls_hs_record_buf x2 = given) :
      Ends (reading fun reads m => tls_read_record_prefilled reads m A.tls_hs_record_buf 16384 x2) { w with m := m1 }
        (fun parsed w' => Begun A der key w0 [] w' ∧ w'.random = w.random ∧
          Delivers A.tls_hs_record_buf 16384 x2 w.reads w'.reads w'.m parsed ∧
          slice w'.m A.tls_hs_record_buf x2 = given ∧
          ∀ text, Presents given w.reads text → parsed.type = 22 ∧ slice w'.m parsed.fragment parsed.length = text)
        (fun _ w' => Stopped A given w0 w' ∧ ∀ text, ¬Presents given w.reads text) := by
    have presented {text : List UInt8} (presents : Presents given w.reads text) : ∃ m2 reads2,
        tls_read_record_prefilled w.reads m1 A.tls_hs_record_buf 16384 x2 =
          (.ok ⟨22,A.tls_hs_record_buf + 5,text.length,text.length + 5⟩,m2,reads2) ∧
        slice m2 (A.tls_hs_record_buf + 5) text.length = text := by
      obtain ⟨version,s,proper,fits,few,there⟩ := presents
      rw [← front,slice_length] at few
      rw [← front] at there
      obtain ⟨m2,reads2,read,laid,_⟩ := read_record_prefilled_reads proper fits few there
      rw [Nat.add_comm,slice_add] at laid
      exact ⟨m2,reads2,read,(List.append_inj laid (slice_length _ _ _)).2⟩
    have begun1 := begun.after layout touches1 (by decide) (by decide) (by decide)
    have changes := @read_record_prefilled_changes A.tls_hs_record_buf 16384 w.reads m1 x2 (by decide)
    rw [Ends,reading]
    dsimp only
    cases reply : tls_read_record_prefilled w.reads m1 A.tls_hs_record_buf 16384 x2 with
    | mk result more =>
      obtain ⟨m2,reads⟩ := more
      rw [reply] at changes
      have touches2 : Touches A base [.buffers] m1 m2 :=
        touches_part .buffers changes (Nat.le_add_right _ _) (by simp only [Image.place,Image.tls_hs_record_buf]; omega)
      cases result with
      | error e =>
        refine ⟨begun1.stopped rfl rfl rfl,fun text presents => ?_⟩
        obtain ⟨_,_,read,_⟩ := presented presents
        rw [reply] at read
        cases read
      | ok parsed =>
        obtain ⟨delivers,kept⟩ := read_record_prefilled_delivers reply
        have begun2 := begun1.after layout touches2 (by decide) (by decide) (by decide)
        refine ⟨⟨begun2.loaded,begun2.transcribed,begun2.clientSeq,begun2.serverSeq,begun2.log,begun2.transport,
          begun2.plain⟩,rfl,delivers,kept.trans front,fun text presents => ?_⟩
        obtain ⟨_,_,read,laid⟩ := presented presents
        rw [reply] at read
        cases read
        exact ⟨rfl,laid⟩
  rw [firstRecord]
  by_cases none : x2 = 0
  · subst none
    rw [if_neg (by decide)]
    rw [slice_zero] at read
    exact rest (ChangesOnly.refl _ w.m) ((slice_zero _ _).trans read)
  -- What has been read is copied in front.
  have apart := ready.apart .buffers (by decide)
  simp only [Clear,Image.place] at apart
  have forward := @Hpack.memcpy_forward w.m A.tls_hs_record_buf x1 x2 (by rw [Image.tls_hs_record_buf]; omega)
  rw [if_pos none]
  refine Ends.step (a := PUnit.unit) (t := { w with m := Hpack.memcpy w.m A.tls_hs_record_buf x1 x2 }) rfl (rest ?_ ?_)
  · rw [forward]
    refine touches_part .buffers (a := A.tls_hs_record_buf) (n := x2) (fun i outside => ?_) (Nat.le_add_right _ _) ?_
    · exact blit_outside (outside (A.tls_hs_record_buf,x2) (List.mem_singleton_self _))
    · simp only [Image.place,Image.tls_hs_record_buf]
      omega
  · rw [forward,slice_blit_same,slice_shift,Nat.add_zero,same,read]

/-- A test that fails. -/
theorem failIf_ends {α : Type} {c : Prop} [Decidable c] {k : Unit → Driver α} {Done : α → World → Prop}
    {Fails : HandshakeError → World → Prop} (fails : c → Fails .generic w) (rest : ¬c → Ends (k ()) w Done Fails) :
    Ends (failIf c >>= k) w Done Fails := by
  by_cases bad : c
  · exact Ends.stop (by rw [failIf,if_pos bad]; rfl) (fails bad)
  · exact Ends.step (a := ()) (t := w) (by rw [failIf,if_neg bad]; rfl) (rest bad)

/-- A header that says what it is in front of. -/
theorem slice_be24 {m : Mem} {a n : Nat} {type : UInt8} (first : m a = type) (length : be24 m (a+1) = n) :
    slice m a 4 = header type n := by
  have high := (m (a+1)).toNat_lt
  have middle := (m (a+2)).toNat_lt
  have low := (m (a+3)).toNat_lt
  simp only [be24,show a + 1 + 1 = a + 2 from rfl,show a + 1 + 2 = a + 3 from rfl] at length
  have octet {i : Nat} {b : UInt8} (same : i % 256 = b.toNat) : b = UInt8.ofNat i := by
    rw [← UInt8.toNat_inj,UInt8.toNat_ofNat',same]
  rw [header,← first,← @octet (n / 2^16) (m (a+1)) (by omega),← @octet (n / 2^8) (m (a+2)) (by omega),
    ← @octet n (m (a+3)) (by omega)]
  rfl

/-- What is read of a message that is there. -/
theorem message_read {m : Mem} {a n : Nat} {type : UInt8} {body : List UInt8} (held : slice m a n = message type body)
    (small : n < 2^24) :
    n = body.length + 4 ∧ m a = type ∧ be24 m (a+1) = body.length ∧ slice m (a+4) body.length = body := by
  have width : n = body.length + 4 := by rw [← message_length type body,← held,slice_length]
  subst width
  rw [Nat.add_comm,slice_add] at held
  obtain ⟨front,behind⟩ := List.append_inj held (slice_length _ _ _)
  have octets : [m a,m (a+1),m (a+2),m (a+3)] = header type body.length := front
  simp only [header,List.cons.injEq,and_true] at octets
  obtain ⟨first,high,middle,low⟩ := octets
  refine ⟨rfl,first,?_,behind⟩
  simp only [be24,show a + 1 + 1 = a + 2 from rfl,show a + 1 + 2 = a + 3 from rfl]
  rw [high,middle,low,UInt8.toNat_ofNat',UInt8.toNat_ofNat',UInt8.toNat_ofNat']
  omega

/-- A message that a client for the configured host sends. -/
def Welcome (text : List UInt8) : Prop :=
  ∃ h : ClientHello, h.WellFormed ∧ h.Offers ∧ h.Named ∧ text = message 1 h.octets

/-- The fields of the state that a message is parsed into. -/
theorem parseClientHello_ends (layout : Layout A base) (begun : Begun A der key w0 hashed w) (x1 n : Nat) :
    Ends (parseClientHello A x1 n) w
      (fun _ w' => ∃ m' h, w' = { w with m := m' } ∧ h.Framed ∧ ClientHello.Offers h ∧ slice w.m x1 n = h.octets ∧
        Kept h m' A.tls_state ∧ Begun A der key w0 hashed w')
      (fun _ w' => Stopped A given w0 w' ∧ ¬∃ h : ClientHello, h.WellFormed ∧ h.Offers ∧ h.Named ∧
        slice w.m x1 n = h.octets) := by
  obtain ⟨_,changes,_⟩ := parse_walks (slice w.m x1 n) (shift w.m A.tls_state)
  have accepts := @accepted_keeps (slice w.m x1 n) (shift w.m A.tls_state)
  have formed : ∀ h : ClientHello, h.WellFormed → h.Offers → h.Named → slice w.m x1 n = h.octets →
      (tls_parse_client_hello (slice w.m x1 n) (shift w.m A.tls_state)).1 = .ok () := by
    intro h formed offers named same
    rw [same]
    exact formed_accepted formed offers named _
  rw [Ends,parseClientHello]
  generalize tls_parse_client_hello (slice w.m x1 n) (shift w.m A.tls_state) = result at changes accepts formed ⊢
  obtain ⟨reply,state⟩ := result
  dsimp only at changes accepts formed ⊢
  rcases reply with stop | _
  · refine ⟨begun.stopped rfl rfl rfl,?_⟩
    rintro ⟨h,well,offers,named,same⟩
    cases formed h well offers named same
  obtain ⟨h,framed,offers,text,kept⟩ := accepts rfl
  have laid {a k : Nat} (inside : a + k ≤ 544) : slice (blit w.m A.tls_state state 544) (A.tls_state+a) k =
      slice state (0+a) k := by
    refine slice_congr fun i small => ?_
    rw [blit_inside (by omega) (by omega)]
    congr 1
    omega
  have touches : Touches A base [.state] w.m (blit w.m A.tls_state state 544) :=
    touches_part .state (fun i outside => blit_outside (outside (A.tls_state,544) (List.mem_singleton_self _))) le_rfl le_rfl
  have counter {a : Nat} (inside : a = 400 ∨ a = 408) :
      ldr 64 (blit w.m A.tls_state state 544) (A.tls_state+a) = ldr 64 w.m (A.tls_state+a) := by
    have same : slice (blit w.m A.tls_state state 544) (A.tls_state+a) 8 = slice w.m (A.tls_state+a) 8 := by
      rw [laid (by omega),changes.slice (by simp [Hello.writable]; omega),slice_shift,Nat.zero_add]
    exact ldr_congr 8 rfl (by decide) (slice_eq_iff.mp same)
  exact ⟨_,h,rfl,framed,offers,text,kept.moved framed.sessionId (laid (by decide)) (laid (by decide)),
    begun.loaded.after layout (touches.mono (by decide)),begun.transcribed.after layout touches (by decide),
    (counter (.inl rfl)).trans begun.clientSeq,(counter (.inr rfl)).trans begun.serverSeq,begun.log,begun.transport,
    begun.plain⟩

/-- A record that is one ClientHello. -/
theorem receiveHello_ends (ready : Ready A base der key x1 x2 w0) (begun : Begun A der key w0 [] w) {parsed : Parsed}
    (delivers : Delivers A.tls_hs_record_buf 16384 x2 w0.reads w.reads w.m parsed)
    (front : slice w.m A.tls_hs_record_buf x2 = given) :
    Ends (receiveHello A (base+2048) parsed) w
      (fun _ w' => ∃ h : ClientHello, h.Framed ∧ h.Offers ∧ Kept h w'.m A.tls_state ∧
        (∀ shared, Running A der key given w0 (message 1 h.octets) shared [] w') ∧ w'.random = w.random ∧
        w'.tls_hs_state = .chReceived)
      (fun _ w' => Stopped A given w0 w' ∧ ¬(parsed.type = 22 ∧ Welcome (slice w.m parsed.fragment parsed.length))) := by
  have layout := ready.layout
  have room := delivers.fits
  have before := delivers.given
  have came := delivers.came
  obtain ⟨fragment,total,version,proper,octets⟩ := tls_record_parse_whole delivers.parses
  have stopped : Stopped A given w0 w := begun.stopped rfl rfl rfl
  have reads (body : List UInt8) (same : slice w.m parsed.fragment parsed.length = message 1 body) :=
    message_read same (by omega)
  rw [receiveHello]
  refine failIf_ends (fun other => ⟨stopped,fun welcome => other welcome.1⟩) fun type => ?_
  refine failIf_ends (fun short => ⟨stopped,?_⟩) fun some_ => ?_
  · rintro ⟨_,h,_,_,_,same⟩
    have count := (reads h.octets same).1
    omega
  refine Ends.step (a := w) (t := w) rfl ?_
  refine failIf_ends (fun other => ⟨stopped,?_⟩) fun first => failIf_ends (fun other => ⟨stopped,?_⟩) fun length => ?_
  · rintro ⟨_,h,_,_,_,same⟩
    exact other (reads h.octets same).2.1
  · rintro ⟨_,h,_,_,_,same⟩
    obtain ⟨count,_,declared,_⟩ := reads h.octets same
    exact other (by rw [declared,count])
  rw [not_not] at type first length
  have header := slice_be24 first (show be24 w.m (parsed.fragment+1) = parsed.length - 4 by omega)
  obtain ⟨added,touches1⟩ := @transcript_add _ _ _ _ begun.transcribed layout 1 (parsed.fragment+4) (parsed.length-4)
    (by rw [fragment,Image.tls_hs_record_buf]; omega) (by rw [fragment,Image.tls_hs_record_buf]; omega)
  refine Ends.step (a := PUnit.unit)
    (t := { w with
      m := tls_transcript_add w.m (base+2048-8) A.tls_transcript_ctx 1 (parsed.fragment+4) (parsed.length-4) }) rfl ?_
  generalize tls_transcript_add w.m (base+2048-8) A.tls_transcript_ctx 1 (parsed.fragment+4) (parsed.length-4) = m1
    at added touches1 ⊢
  have text : slice m1 (parsed.fragment+4) (parsed.length-4) = slice w.m (parsed.fragment+4) (parsed.length-4) :=
    touches1.keeps layout .buffers (by decide)
      (by simp only [Image.place]; rw [fragment,Image.tls_hs_record_buf]; omega)
      (by simp only [Image.place]; rw [fragment,Image.tls_hs_record_buf]; omega)
  have begun1 := begun.hashes layout touches1 (by decide) (by decide) added
  refine (@parseClientHello_ends A base der key _ w0 given _ layout begun1 (parsed.fragment+4) (parsed.length-4)).bind' ?_ ?_
  · rintro _ w' ⟨stopped,unwelcome⟩
    refine ⟨stopped,?_⟩
    rintro ⟨_,h,formed,offers,named,same⟩
    obtain ⟨count,_,_,behind⟩ := reads h.octets same
    refine unwelcome ⟨h,formed,offers,named,?_⟩
    dsimp only
    rw [text,count,Nat.add_sub_cancel,behind]
  rintro _ _ ⟨m2,h,rfl,framed,offers,same,kept,begun2⟩
  dsimp only at same
  rw [text] at same
  rw [same] at begun2
  have count : h.octets.length = parsed.length - 4 := by rw [← same,slice_length]
  have hello : slice w.m parsed.fragment parsed.length = message 1 h.octets := by
    rw [show parsed.length = 4 + (parsed.length - 4) by omega,slice_add,header,same,message,count]
  have received : Received given w0.reads w.reads (message 1 h.octets) := by
    refine ⟨version,proper.known,?_⟩
    rw [type,hello] at octets
    rw [came,← front,← List.append_assoc,← List.map_append,← slice_add,show x2 + (parsed.total - x2) = parsed.total by omega,
      octets]
  have quiet : w.log = [] := begun2.log
  have still : w.transport = w0.transport := begun2.transport
  refine Ends.modify ⟨h,framed,offers,kept,fun shared => ?_,rfl,rfl⟩
  refine ⟨begun2.loaded,?_,begun2.clientSeq,begun2.serverSeq,kept.alpnLength,kept.alpn,received,?_,?_,?_,begun2.plain,
    Nat.zero_le _,?_⟩
  · rw [List.flatten_nil,List.append_nil,message,count]
    exact begun2.transcribed
  · dsimp only
    rw [quiet]
    exact .none
  · dsimp only
    rw [quiet,still,List.flatMap_nil,List.append_nil]
  · dsimp only
    rw [still]
    exact ready.unbuffered
  · intro n willing
    dsimp only
    rw [still]
    exact willing

variable {hello : List UInt8}

/-- The answer, with a new share; what the shares come to is kept. -/
theorem sendServerHello_ends (layout : Layout A base) {h : ClientHello} (short : h.sessionId.length ≤ 32)
    (kept : Kept h w.m A.tls_state) (running : ∀ shared, Running A der key given w0 hello shared [] w) :
    Ends (sendServerHello A (base+2048)) w
      (fun _ w' => ∃ random serverRandom scalar, draw w.random 32 = (random,some serverRandom) ∧
        draw random 32 = (w'.random,some scalar) ∧
        let shared := rfcX25519 scalar (slice w.m (A.tls_state+80) 32)
        let first := serverHello serverRandom h.sessionId (rfcX25519 scalar basepoint9)
        Running A der key given w0 hello shared [first] w' ∧ slice w'.m (A.tls_state+144) 32 = shared ∧
          w'.reads = w.reads ∧ w'.tls_hs_state = .shSent)
      (fun _ w' => Stopped A given w0 w' ∧ (Willing 5 w0.transport.sink → ¬Supplies w.random)) := by
  obtain ⟨_,builds⟩ := build_server_hello_builds w.random (layout.builds (running []).loaded.point) kept.idLength short
  rw [sendServerHello]
  cases result : tls_build_server_hello A.toMessageImage w.random w.m (base+2000+48) A.tls_hs_msg_buf with
  | mk random2 more =>
  obtain ⟨m1,reply⟩ := more
  rw [result] at builds
  cases reply with
  | error e => exact Ends.stop (drawing_error result) ⟨(running []).stopped rfl rfl rfl,fun _ => builds.2.1⟩
  | ok count =>
    obtain ⟨random1,serverRandom,scalar,first,second,width,rfl,laid,shared,changes⟩ := builds
    rw [kept.id] at width laid
    obtain ⟨body,form⟩ : ∃ body, serverHello serverRandom h.sessionId (rfcX25519 scalar basepoint9) = message 2 body :=
      ⟨_,rfl⟩
    rw [form] at width laid
    rw [← width] at laid changes result
    refine Ends.step (drawing_ok result) ?_
    have touches1 : Touches A base [.stack,.state,.buffers] w.m m1 := by
      refine touches_of changes ?_
      simp [Image.place]
      omega
    have numbers : slice m1 (A.tls_state+400) 26 = slice w.m (A.tls_state+400) 26 := by
      refine changes.slice ?_
      have stack := layout.clear .stack .state (by decide) (a := base+2000) (k := 48) (b := A.tls_state+400) (n := 26)
        (by simp [Image.place]) (by simp [Image.place]) (by simp [Image.place]) (by simp [Image.place])
      have buffer := layout.clear .buffers .state (by decide) (a := A.tls_hs_msg_buf) (k := (message 2 body).length)
        (b := A.tls_state+400) (n := 26) le_rfl (by simp only [Image.place]; omega) (by simp [Image.place])
        (by simp [Image.place])
      unfold Clear at stack buffer
      simp
      omega
    have transcribed1 := (running []).transcribed.after layout touches1 (by decide)
    obtain ⟨added,touches2,laid2⟩ := transcript_message transcribed1 layout laid (by omega)
    refine Ends.step (t := { w with
      random := random2
      m := tls_transcript_add m1 (base+2048-8) A.tls_transcript_ctx 2 (A.tls_hs_msg_buf+4)
        ((message 2 body).length - 4) }) rfl ?_
    generalize tls_transcript_add m1 (base+2048-8) A.tls_transcript_ctx 2 (A.tls_hs_msg_buf+4) _ = m2
      at added touches2 laid2 ⊢
    obtain ⟨m3,written,lays⟩ := @record_write_lays m2 A.tls_hs_msg_buf (message 2 body).length A.tls_hs_record_buf
      (by omega) (by rw [maxPlaintext]; omega) (.inr (by rw [Image.tls_hs_record_buf]; omega))
    rw [laid2] at lays
    have laid3 := lays.laid
    have changes3 := lays.changes
    have size : (recordHeader 22 (message 2 body).length ++ message 2 body).length = (message 2 body).length + 5 := by
      rw [List.length_append,Nat.add_comm]
      rfl
    rw [size] at laid3 changes3
    have touches3 : Touches A base [.buffers] m2 m3 := touches_part .buffers changes3 (Nat.le_add_right _ _)
      (by simp only [Image.place,Image.tls_hs_record_buf]; omega)
    refine Ends.step (a := (message 2 body).length + 5) (t := { w with random := random2, m := m3 })
      (by rw [attempting,written]) ?_
    have running0 := running (rfcX25519 scalar (slice w.m (A.tls_state+80) 32))
    refine (@transport_write_ends { w with random := random2, m := m3 } A.tls_hs_record_buf ((message 2 body).length + 5)
      running0.unbuffered (by omega)).bind' ?_ ?_
    · rintro _ _ ⟨stuck,transport,k,part,rfl⟩
      dsimp only at part
      refine ⟨⟨running0.plain,hello,_,[],0,message 2 body,k,running0.few,running0.told,?_,fun _ => ⟨_,running0.received⟩⟩,
        fun willing => absurd willing (running0.stuck (by decide) stuck)⟩
      rw [part,laid3,running0.wire]
      rfl
    rintro _ _ ⟨transport,wire,off,willing,rfl⟩
    dsimp only at wire
    rw [laid3] at wire ⊢
    have state2 {a n : Nat} (inside : a + n ≤ 544) : slice m3 (A.tls_state+a) n = slice m1 (A.tls_state+a) n := by
      rw [touches3.keeps layout .state (by decide) (a := A.tls_state+a) (by simp [Image.place])
        (by simp [Image.place]; omega),
        touches2.keeps layout .state (by decide) (a := A.tls_state+a) (by simp [Image.place]) (by simp [Image.place]; omega)]
    refine Ends.modify ⟨random1,serverRandom,scalar,first,second,?_,(state2 (by decide)).trans shared,rfl,rfl⟩
    rw [form]
    refine running0.moves layout ?_ ((state2 (by decide)).trans numbers) ?_ running0.told.clear rfl rfl ?_ off rfl
      (by simp) fun n more => willing n (running0.willing (n+1) more)
    · exact (touches1.mono (by decide)).trans ((touches2.mono (by decide)).trans (touches3.mono (by decide)))
    · rw [List.flatten_singleton]
      rw [List.flatten_nil,List.append_nil] at added
      exact added.after layout touches3 (by decide)
    · rw [wire,running0.wire]
      simp [Event.octets]

variable {shared first : List UInt8} {messages : List (List UInt8)}

/-- The hash of the messages so far. -/
theorem snapshot_run (layout : Layout A base) (running : Running A der key given w0 hello shared messages w) :
    ∃ m', snapshot A (base+2048) w = .ok () { w with m := m', log := w.log ++ [.snapshot w.m] } ∧
      Running A der key given w0 hello shared messages { w with m := m', log := w.log ++ [.snapshot w.m] } ∧
      slice m' (base+2128) 32 = digest (hello ++ messages.flatten) ∧ Touches A base [.stack] w.m m' ∧
      slice m' (base+2160) 32 = slice w.m (base+2160) 32 := by
  obtain ⟨hash,changes⟩ := transcript_hash running.transcribed layout
  have touches : Touches A base [.stack] w.m _ := touches_of changes (by simp [Image.place])
  refine ⟨_,rfl,?_,hash,touches,changes.slice (by simp)⟩
  refine running.moves layout (touches.mono (by decide)) ?_ (running.transcribed.after layout touches (by decide))
    (running.told.snapshot running.transcribed) rfl rfl ?_ running.unbuffered rfl
    running.few running.willing
  · exact touches.keeps layout .state (by decide) (Nat.le_add_right _ _) (by simp [Image.place])
  · rw [List.flatMap_append,running.wire]
    simp [Event.octets]

/-- The keys come from the shares and from the two messages. -/
theorem handshakeSecrets_ends {Fails : HandshakeError → World → Prop} (layout : Layout A base)
    (running : Running A der key given w0 hello shared [first] w)
    (held : slice w.m (A.tls_state+144) 32 = shared) :
    Ends (handshakeSecrets A (base+2048)) w
      (fun _ w' => Running A der key given w0 hello shared [first] w' ∧ Keyed A shared (digest (hello ++ first)) w'.m ∧
        w'.random = w.random ∧ w'.reads = w.reads ∧ w'.tls_hs_state = w.tls_hs_state)
      Fails := by
  obtain ⟨m1,taken,running1,hash,touches1,_⟩ := snapshot_run layout running
  rw [handshakeSecrets]
  refine Ends.step taken ?_
  have secret : slice m1 (A.tls_state+144) 32 = shared :=
    (touches1.keeps layout .state (by decide) (Nat.le_add_right _ _) (by simp [Image.place])).trans held
  obtain ⟨keys,client,server,changes⟩ := handshake_derives layout.keySchedule layout.hash running1.loaded.khs
    running1.loaded.empty
  dsimp only at keys client server changes
  rw [secret,hash,List.flatten_singleton] at keys client server
  refine Ends.step (a := PUnit.unit) (t := { w with
    m := tls_derive_handshake_secrets A.toImage m1 (base+112+1936) (base+2128)
    log := w.log ++ [.snapshot w.m] }) rfl ?_
  generalize tls_derive_handshake_secrets A.toImage m1 (base+112+1936) (base+2128) = m2 at keys client server changes ⊢
  have touches2 : Touches A base [.stack,.state,.client,.server] m1 m2 := touches_of changes (by simp [Image.place])
  have stack := layout.clear .stack .state (by decide) (a := base+112) (k := 1936) (b := A.tls_state+400) (n := 26)
    (by simp [Image.place]) (by simp [Image.place]) (by simp [Image.place]) (by simp [Image.place])
  have clientState := layout.clear .client .state (by decide) le_rfl le_rfl (b := A.tls_state+400) (n := 26)
    (by simp [Image.place]) (by simp [Image.place])
  have serverState := layout.clear .server .state (by decide) le_rfl le_rfl (b := A.tls_state+400) (n := 26)
    (by simp [Image.place]) (by simp [Image.place])
  refine Ends.modify ⟨?_,⟨keys,client,server⟩,rfl,rfl,rfl⟩
  refine running1.moves layout (touches2.mono (by decide)) (changes.slice ?_)
    (running1.transcribed.after layout touches2 (by decide)) running1.told.installed rfl rfl ?_ running1.unbuffered rfl
    running1.few running1.willing
  · simp only [Clear,Image.place] at stack clientState serverState
    simp
    omega
  · rw [List.flatMap_append]
    exact running1.wire.trans (by simp [Event.octets])

end
end Sarm.Handshake
