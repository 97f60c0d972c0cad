import Sarm.HandshakeFlight

/-!
The end of a handshake: the Finished of the client, behind any number of records that stand for nothing, and the
keys of the application.
-/
namespace Sarm.Handshake
open Sarm.Memory Sarm.Neon Sarm.KeySchedule Sarm.Transcript Sarm.Sha256 Sarm.Tls Sarm.Gcm Sarm.Outcomes
open Sarm.Hpack (ascii)
open Sarm.H2 (ReadEvent)

/-! ### The next record -/

/-- Records of the type change_cipher_spec, whatever is in them. -/
inductive Markers : List UInt8 → Prop
  | none : Markers []
  | more {version : UInt8} {text rest : List UInt8} (proper : Proper 20 version text) (fits : text.length + 5 ≤ 16384)
      (more : Markers rest) : Markers (wholeRecord 20 version text ++ rest)

/-- The next record is behind such. -/
structure Answered (r : List (Option UInt8)) (type version : UInt8) (text : List UInt8) (s : List (Option UInt8)) :
    Prop where
  proper : Proper type version text
  fits : text.length + 5 ≤ 16384
  came : ∃ markers, Markers markers ∧ r = (markers ++ wholeRecord type version text).map some ++ s

section
variable {A : Image} {base : Nat} {w : World} {m : Mem} {reads : List ReadEvent}

theorem readClientNext_error {e : RecordError}
    (reply : tls_read_record w.reads w.m A.tls_hs_record_buf 16384 = (.error e,m,reads)) :
    readClientNext A w = .error (.record e) { w with m := m, reads := reads } := by
  rw [readClientNext]
  split
  · next same =>
    rw [reply] at same
    cases same
    rfl
  · next same =>
    rw [reply] at same
    cases same

theorem readClientNext_ok {parsed : Parsed}
    (reply : tls_read_record w.reads w.m A.tls_hs_record_buf 16384 = (.ok parsed,m,reads)) :
    readClientNext A w = if parsed.type = 20 then readClientNext A { w with m := m, reads := reads }
      else .ok parsed { w with m := m, reads := reads } := by
  rw [readClientNext]
  split
  · next same =>
    rw [reply] at same
    cases same
  · next same =>
    rw [reply] at same
    cases same
    rfl

/-- Markers are passed over, as many as there are. -/
theorem readClientNext_ends (w : World) :
    Ends (readClientNext A) w
      (fun parsed w' => ∃ m' reads' version, w' = { w with m := m', reads := reads' } ∧
        Touches A base [.buffers] w.m m' ∧ parsed.total = parsed.length + 5 ∧
        slice m' A.tls_hs_record_buf parsed.total = wholeRecord parsed.type version
          (slice m' parsed.fragment parsed.length) ∧
        Answered (stream w.reads) parsed.type version (slice m' parsed.fragment parsed.length) (stream reads'))
      (fun _ w' => ∃ m' reads', w' = { w with m := m', reads := reads' }) := by
  induction size : (stream w.reads).length using Nat.strong_induction_on generalizing w with
  | _ n ih =>
    have changes := @tls_read_record_changes A.tls_hs_record_buf 16384 w.reads w.m (by decide)
    unfold Ends
    cases reply : tls_read_record w.reads w.m A.tls_hs_record_buf 16384 with
    | mk result more =>
      obtain ⟨m1,reads1⟩ := more
      rw [reply] at changes
      have touches1 : Touches A base [.buffers] w.m m1 := touches_part .buffers changes (Nat.le_add_right _ _)
        (by simp only [Image.place,Image.tls_hs_record_buf]; omega)
      cases result with
      | error e =>
        rw [readClientNext_error reply]
        exact ⟨m1,reads1,rfl⟩
      | ok parsed =>
        have delivers := tls_read_record_delivers reply
        have came := delivers.came
        have fits := delivers.fits
        obtain ⟨_,total,version,proper,whole⟩ := tls_record_parse_whole delivers.parses
        rw [Nat.add_zero,Nat.sub_zero,whole] at came
        rw [readClientNext_ok reply]
        by_cases marker : parsed.type = 20
        · rw [if_pos marker]
          rw [marker] at proper came
          have shorter := tls_read_record_shorter reply
          refine (ih (stream reads1).length (size ▸ shorter) { w with m := m1, reads := reads1 } rfl).mono ?_ ?_
          · rintro parsed' _ ⟨m2,reads2,version2,rfl,touches2,total2,whole2,proper2,fits2,markers,all,came2⟩
            refine ⟨m2,reads2,version2,rfl,touches1.trans touches2,total2,whole2,proper2,fits2,_,
              .more proper (by rw [slice_length]; omega) all,?_⟩
            rw [came,came2]
            simp
          · rintro _ _ ⟨m2,reads2,rfl⟩
            exact ⟨m2,reads2,rfl⟩
        · rw [if_neg marker]
          exact ⟨m1,reads1,version,rfl,touches1,total,whole,proper,by rw [slice_length]; omega,[],.none,came⟩

/-- A record behind markers is read. -/
theorem readClientNext_reads {type version : UInt8} {text : List UInt8} {s : List (Option UInt8)} (other : type ≠ 20)
    (proper : Proper type version text) (fits : text.length + 5 ≤ 16384) {markers : List UInt8} (all : Markers markers) :
    ∀ w : World, stream w.reads = (markers ++ wholeRecord type version text).map some ++ s → ∃ w',
      readClientNext A w = .ok ⟨type,A.tls_hs_record_buf + 5,text.length,text.length + 5⟩ w' ∧
        slice w'.m A.tls_hs_record_buf (text.length + 5) = wholeRecord type version text := by
  induction all with
  | none =>
    intro w there
    obtain ⟨m1,reads1,read,whole,_⟩ := @read_record_prefilled_reads A.tls_hs_record_buf 16384 type version text s w.reads w.m
      0 proper fits (Nat.zero_le _) there
    rw [← tls_read_record_eq] at read
    refine ⟨{ w with m := m1, reads := reads1 },?_,whole⟩
    rw [readClientNext_ok read,if_neg other]
  | @more version' text' rest proper' fits' more ih =>
    intro w there
    rw [List.append_assoc,List.map_append,List.append_assoc] at there
    obtain ⟨m1,reads1,read,_,left⟩ := @read_record_prefilled_reads A.tls_hs_record_buf 16384 20 version' text' _ w.reads w.m
      0 proper' fits' (Nat.zero_le _) there
    rw [← tls_read_record_eq] at read
    rw [readClientNext_ok read,if_pos rfl]
    exact ih { w with m := m1, reads := reads1 } left

/-- The record that is read is the one that is there. -/
theorem readClientNext_there (w : World) :
    Ends (readClientNext A) w
      (fun parsed w' => ∀ type version text s, type ≠ 20 → Answered (stream w.reads) type version text s →
        parsed.type = type ∧ slice w'.m A.tls_hs_record_buf parsed.total = wholeRecord type version text)
      (fun _ _ => ∀ type version text s, type ≠ 20 → ¬Answered (stream w.reads) type version text s) := by
  unfold Ends
  cases reply : readClientNext A w with
  | ok parsed w' =>
    intro type version text s other answered
    obtain ⟨markers,all,came⟩ := answered.came
    obtain ⟨_,read,whole⟩ := readClientNext_reads other answered.proper answered.fits all w came
    rw [reply] at read
    cases read
    exact ⟨rfl,whole⟩
  | error e w' =>
    intro type version text s other answered
    obtain ⟨markers,all,came⟩ := answered.came
    obtain ⟨_,read,_⟩ := readClientNext_reads other answered.proper answered.fits all w came
    rw [reply] at read
    cases read

/-! ### The Finished of the client -/

theorem foldl_or (f : Nat → UInt8) : ∀ (l : List Nat) (w9 : UInt8),
    l.foldl (fun w9 i => w9 ||| f i) w9 = 0 ↔ w9 = 0 ∧ ∀ i ∈ l, f i = 0 := by
  intro l
  induction l with
  | nil => simp
  | cons i l ih =>
    intro w9
    rw [List.foldl_cons,ih,UInt8.or_eq_zero_iff,List.forall_mem_cons,and_assoc]

theorem memcmp32_eq_zero {a b : Nat} : memcmp32 m a b = 0 ↔ slice m a 32 = slice m b 32 := by
  rw [memcmp32,foldl_or,slice_eq_iff]
  simp

variable {der key given hello shared first : List UInt8} {rest : List (List UInt8)} {w0 : World}

/-- The keys of the client's records, in the handshake. -/
def clientEpoch (shared h1 : List UInt8) : Epoch :=
  ⟨aes128 (trafficKey (clientHandshakeTraffic shared h1)),trafficIv (clientHandshakeTraffic shared h1)⟩

/-- A record that is opened is one of the client's, the first one under its key. -/
theorem decrypt_answer {m : Mem} (layout : Layout A base) {h1 : List UInt8} (keyed : Keyed A shared h1 m) {total : Nat}
    (fits : total ≤ 16384) (width : be16 m (A.tls_hs_record_buf+3) + 5 = total) (seq : BitVec 64) :
    ∃ reply m', tls_record_decrypt m (base+2048-80) A.tls_hs_record_buf total A.tls_client_gcm_ctx (A.tls_state+288) seq
        A.tls_hs_msg_buf = (reply,m') ∧ Touches A base [.stack,.buffers] m m' ∧
      match (clientEpoch shared h1).open seq (slice m A.tls_hs_record_buf total) with
      | some (text,type) => reply = .ok (text.length,type) ∧ slice m' A.tls_hs_msg_buf text.length = text
      | none => ∃ e, reply = .error e := by
  have frame : base + 2048 - 80 = base + 1968 := Nat.add_sub_assoc (by decide) base
  have stack :=
    layout.clear .stack .buffers (by decide) (a := base+1968+56) (k := 12) (b := A.tls_hs_record_buf) (n := total)
    (by simp only [Image.place]; omega) (by simp only [Image.place]; omega)
    (by simp only [Image.place,Image.tls_hs_record_buf]; omega) (by simp only [Image.place,Image.tls_hs_record_buf]; omega)
  have context := layout.clear .stack .client (by decide) (a := base+1968+56) (k := 12)
    (by simp only [Image.place]; omega) (by simp only [Image.place]; omega) le_rfl le_rfl
  simp only [Clear,Image.place] at stack context
  obtain ⟨reply,m',run,changes,opened⟩ := @decrypt_epoch m _ (base+1968) A.tls_hs_record_buf total A.tls_client_gcm_ctx
    (A.tls_state+288) A.tls_hs_msg_buf seq keyed.client (by rw [Image.tls_hs_record_buf]; omega)
    (.inr (.inr (by omega))) (.inr (.inr (by omega))) width
  rw [keyed.keys.clientIv] at opened
  refine ⟨reply,m',by rw [frame]; exact run,touches_of changes ?_,opened⟩
  simp [Image.place]
  omega

/-- The authenticator is compared with the one of all of the messages so far. -/
theorem checkFinished_ends {l h1 : List UInt8} (layout : Layout A base)
    (transcribed : Transcribed A.tls_transcript_ctx w.m l) (loaded : Loaded A der key w.m) (keyed : Keyed A shared h1 w.m) :
    let received := slice w.m (A.tls_hs_msg_buf+4) 32
    let expected := verifyData (clientHandshakeTraffic shared h1) (digest l)
    Ends (checkFinished A (base+2048)) w
      (fun _ w' => ∃ m1 m', w' = { w with m := m', log := w.log ++ [.snapshot m1] } ∧ Touches A base [.stack] w.m m' ∧
        Transcribed A.tls_transcript_ctx m1 l ∧ received = expected)
      (fun _ w' => ∃ m1 m', w' = { w with m := m', log := w.log ++ [.snapshot m1] } ∧
        Transcribed A.tls_transcript_ctx m1 l ∧ received ≠ expected) := by
  intro received expected
  obtain ⟨key1,changes1⟩ := @finished_key_expands A.toMessageImage w.m (base+288) (A.tls_state+512) (base+2160)
    loaded.label
    (layout.clear .stack .label (by decide) (by simp [Image.place]) (by simp [Image.place]) le_rfl le_rfl)
    (layout.clear .stack .state (by decide) (by simp [Image.place]) (by simp [Image.place]) (by simp [Image.place])
      (by simp [Image.place])) (.inr (by omega))
  rw [keyed.keys.clientTraffic] at key1
  rw [checkFinished]
  refine Ends.step (a := PUnit.unit) (t := { w with
    m := tls_finished_key A.toMessageImage w.m (base+288+1760) (A.tls_state+512) (base+2160) }) rfl ?_
  generalize tls_finished_key A.toMessageImage w.m (base+288+1760) (A.tls_state+512) (base+2160) = m1 at key1 changes1 ⊢
  have touches1 : Touches A base [.stack] w.m m1 := touches_of changes1 (by simp [Image.place])
  have transcribed1 := transcribed.after layout touches1 (by decide)
  obtain ⟨hash2,changes2⟩ := transcript_hash transcribed1 layout
  refine Ends.step (a := PUnit.unit) (t := { w with
    m := tls_transcript_hash m1 (base+2048-128) A.tls_transcript_ctx (base+2048+80),
    log := w.log ++ [.snapshot m1] }) rfl ?_
  generalize tls_transcript_hash m1 (base+2048-128) A.tls_transcript_ctx (base+2048+80) = m2 at hash2 changes2 ⊢
  have touches2 : Touches A base [.stack] m1 m2 := touches_of changes2 (by simp [Image.place])
  have key2 : slice m2 (base+2160) 32 = finishedKey (clientHandshakeTraffic shared h1) :=
    (changes2.slice (by simp)).trans key1
  obtain ⟨laid,changes3⟩ := @finished_verify_data_hmac m2 (base+1664) (base+2160) (base+2128) (base+2192)
    (.inr (by omega)) (.inr (by omega))
  rw [key2,hash2] at laid
  refine Ends.step (a := PUnit.unit) (t := { w with
    m := tls_finished_verify_data m2 (base+1664+384) (base+2160) (base+2128) (base+2192),
    log := w.log ++ [.snapshot m1] }) rfl ?_
  generalize tls_finished_verify_data m2 (base+1664+384) (base+2160) (base+2128) (base+2192) = m3 at laid changes3 ⊢
  have touches3 : Touches A base [.stack] m2 m3 := touches_of changes3 (by simp [Image.place])
  have stack : Touches A base [.stack] w.m m3 := touches1.trans (touches2.trans touches3)
  have kept : slice m3 (A.tls_hs_msg_buf+4) 32 = received :=
    stack.keeps layout .buffers (by decide) (Nat.le_add_right _ _) (by simp [Image.place])
  have equal : memcmp32 m3 (A.tls_hs_msg_buf+4) (base+2192) = 0 ↔ received = expected := by
    rw [memcmp32_eq_zero,kept,show slice m3 (base+2192) 32 = expected from laid]
  refine Ends.step (a := { w with m := m3, log := w.log ++ [.snapshot m1] }) (t := { w with
    m := m3, log := w.log ++ [.snapshot m1] }) rfl ?_
  by_cases same : received = expected
  · rw [failIf,if_neg (not_not.mpr (equal.mpr same))]
    exact Ends.pure ⟨m1,m3,rfl,stack,transcribed1,same⟩
  · rw [failIf,if_pos fun zero => same (equal.mp zero)]
    exact Ends.throw ⟨m1,m3,rfl,transcribed1,same⟩

/-- The next record is the Finished of the client: the first one under its key, of all of the messages. -/
def Answers (r : List (Option UInt8)) (shared h1 h2 : List UInt8) (s : List (Option UInt8)) : Prop :=
  ∃ version text, Answered r applicationData version text s ∧
    (clientEpoch shared h1).open 0 (wholeRecord applicationData version text) =
      some (message 20 (verifyData (clientHandshakeTraffic shared h1) h2),22)

/-- The Finished of the client is its own, and nothing else is taken for it. -/
theorem receiveFinished_ends (layout : Layout A base) (flown : Flown A der key given w0 hello shared first rest w) :
    let h1 := digest (hello ++ first)
    let h2 := digest (hello ++ (first :: rest).flatten)
    Ends (receiveFinished A (base+2048)) w
      (fun _ w' => ∃ m1 m' reads', w' = { w with m := m', reads := reads', log := w.log ++ [.snapshot m1] } ∧
        Answers (stream w.reads) shared h1 h2 (stream reads') ∧
        Transcribed A.tls_transcript_ctx m1 (hello ++ (first :: rest).flatten) ∧
        Transcribed A.tls_transcript_ctx m' (hello ++ (first :: rest).flatten) ∧ Loaded A der key m' ∧ Keyed A shared h1 m')
      (fun _ w' => Stopped A given w0 w' ∧ ∀ s, ¬Answers (stream w.reads) shared h1 h2 s) := by
  intro h1 h2
  rw [receiveFinished]
  refine ((@readClientNext_ends A base w).and (readClientNext_there w)).bind' ?_ ?_
  · rintro _ _ ⟨⟨m1,reads1,rfl⟩,nowhere⟩
    refine ⟨flown.running.stopped rfl rfl rfl,?_⟩
    rintro s ⟨version,text,answered,_⟩
    exact nowhere _ version text s (by decide) answered
  rintro parsed _ ⟨⟨m1,reads1,version,rfl,touches1,total,whole,answered⟩,there⟩
  dsimp only at there
  have fits : parsed.total ≤ 16384 := by
    have := answered.fits
    rw [slice_length] at this
    omega
  have stopped {m : Mem} : Stopped A given w0 { w with m := m, reads := reads1 } := flown.running.stopped rfl rfl rfl
  -- Another record than this one is refused.
  have refused {m : Mem} (bad : ¬(parsed.type = applicationData ∧
      (clientEpoch shared h1).open 0 (slice m1 A.tls_hs_record_buf parsed.total) =
        some (message 20 (verifyData (clientHandshakeTraffic shared h1) h2),22))) :
      Stopped A given w0 { w with m := m, reads := reads1 } ∧ ∀ s, ¬Answers (stream w.reads) shared h1 h2 s := by
    refine ⟨stopped,?_⟩
    rintro s ⟨version,text,answered,opens⟩
    obtain ⟨type,same⟩ := there _ version text s (by decide) answered
    exact bad ⟨type,by rw [same]; exact opens⟩
  refine failIf_ends (fun other => refused fun good => other good.1) fun type => ?_
  rw [not_not] at type
  have keyed1 := flown.keyed.after layout touches1 (by decide) (by decide) (by decide)
  have seq1 : ldr 64 m1 (A.tls_state+400) = 0 :=
    (touches1.word layout .state (by decide) (by simp [Image.place]) (by simp [Image.place])).trans flown.running.clientSeq
  have keyed2 := keyed1.counted layout (a := 400) (by decide) (ldr 64 m1 (A.tls_state+400) + 1)
  have numbered : Touches A base [.state] m1 (str m1 (A.tls_state+400) (ldr 64 m1 (A.tls_state+400) + 1)) := by
    refine touches_part .state (a := A.tls_state+400) (n := 8) (fun i outside => ?_) (Nat.le_add_right _ _)
      (by simp [Image.place])
    exact str_outside _ (outside (A.tls_state+400,8) (List.mem_singleton_self _))
  refine Ends.step (a := ldr 64 m1 (A.tls_state+400)) (t := { w with
    m := str m1 (A.tls_state+400) (ldr 64 m1 (A.tls_state+400) + 1), reads := reads1 }) rfl ?_
  rw [seq1] at keyed2 numbered ⊢
  generalize str m1 (A.tls_state+400) (0 + 1 : BitVec 64) = m2 at keyed2 numbered ⊢
  have low : A.tls_hs_msg_buf ≤ A.tls_hs_record_buf := Nat.le_add_right _ _
  have high : A.tls_hs_record_buf + parsed.total ≤ A.tls_hs_msg_buf + 18496 := by rw [Image.tls_hs_record_buf]; omega
  have record2 : slice m2 A.tls_hs_record_buf parsed.total = slice m1 A.tls_hs_record_buf parsed.total :=
    numbered.keeps layout .buffers (by decide) low high
  have width : be16 m2 (A.tls_hs_record_buf+3) + 5 = parsed.total := by
    rw [be16_slice record2 (by omega)]
    have front : slice m1 A.tls_hs_record_buf 5 =
        (wholeRecord parsed.type version (slice m1 parsed.fragment parsed.length)).take 5 := by
      rw [← whole,show parsed.total = 5 + parsed.length by omega,slice_add,List.take_left' (slice_length _ _ _)]
    rw [(be16_wholeRecord front answered.proper.small).2.2,slice_length,total]
  obtain ⟨reply,m3,run,touches3,opened⟩ := decrypt_answer layout keyed2 fits width 0
  rw [record2] at opened
  refine attempting_ends (w := { w with m := m2, reads := reads1 }) run ?_ ?_
  · rintro e rfl
    refine refused fun good => ?_
    rw [good.2] at opened
    cases opened.1
  rintro ⟨x0,x1⟩ rfl
  dsimp only
  have plain3 : ∃ text, (clientEpoch shared h1).open 0 (slice m1 A.tls_hs_record_buf parsed.total) = some (text,x1) ∧
      text.length = x0 ∧ slice m3 A.tls_hs_msg_buf x0 = text := by
    cases plain : (clientEpoch shared h1).open 0 (slice m1 A.tls_hs_record_buf parsed.total) with
    | none =>
      rw [plain] at opened
      obtain ⟨e,none⟩ := opened
      cases none
    | some pair =>
      obtain ⟨text,type⟩ := pair
      rw [plain] at opened
      obtain ⟨same,laid⟩ := opened
      cases same
      exact ⟨text,rfl,rfl,laid⟩
  obtain ⟨text,plain,size,laid⟩ := plain3
  rw [plain] at refused
  have width : (verifyData (clientHandshakeTraffic shared h1) h2).length = 32 := Hmac.digest_length _
  -- Of the one that is expected each of these holds.
  have answer {good : Prop} (same : good ∧ some (text,x1) =
      some (message 20 (verifyData (clientHandshakeTraffic shared h1) h2),22)) : x1 = 22 ∧ x0 = 36 ∧
      m3 A.tls_hs_msg_buf = 20 ∧ be24 m3 (A.tls_hs_msg_buf+1) = 32 ∧
      slice m3 (A.tls_hs_msg_buf+4) 32 = verifyData (clientHandshakeTraffic shared h1) h2 := by
    obtain ⟨rfl,rfl⟩ := Prod.mk.inj (Option.some.inj same.2)
    have long : x0 = 36 := by rw [← size,message_length,width]
    obtain ⟨_,first,length,behind⟩ := message_read laid (by omega)
    rw [width] at length behind
    exact ⟨rfl,long,first,length,behind⟩
  refine failIf_ends (fun other => refused fun good => other (answer good).1) fun inner =>
    failIf_ends (fun other => refused fun good => other (answer good).2.1) fun length => ?_
  refine Ends.step (a := { w with m := m3, reads := reads1 }) (t := { w with m := m3, reads := reads1 }) rfl ?_
  refine failIf_ends (fun other => refused fun good => other (answer good).2.2.1) fun front =>
    failIf_ends (fun other => refused fun good => other (answer good).2.2.2.1) fun declared => ?_
  rw [not_not] at inner length front declared
  subst inner
  subst length
  have keyed3 := keyed2.after layout touches3 (by decide) (by decide) (by decide)
  have before : Touches A base writable w.m m3 :=
    (touches1.mono (by decide)).trans ((numbered.mono (by decide)).trans (touches3.mono (by decide)))
  have loaded3 := flown.running.loaded.after layout before
  have transcribed3 := ((flown.running.transcribed.after layout touches1 (by decide)).after layout numbered
    (by decide)).after layout touches3 (by decide)
  refine (checkFinished_ends (w := { w with m := m3, reads := reads1 }) layout transcribed3 loaded3 keyed3).mono ?_ ?_
  · rintro _ _ ⟨m4,m5,rfl,stack,transcribed4,received⟩
    refine ⟨m4,m5,reads1,rfl,⟨version,_,type ▸ answered,?_⟩,transcribed4,transcribed3.after layout stack (by decide),
      loaded3.after layout (stack.mono (by decide)),keyed3.after layout stack (by decide) (by decide) (by decide)⟩
    rw [← type,← whole,plain,← laid,show 36 = 4 + 32 from rfl,slice_add,message,width,received]
    exact congrArg (fun front => some (front ++ _,22)) (slice_be24 front declared)
  · rintro _ _ ⟨m4,m5,rfl,transcribed4,different⟩
    have told := flown.running.told.snapshot transcribed4
    refine ⟨⟨flown.running.plain,hello,shared,_,_,[],0,flown.running.few,told,?_,fun _ => ⟨_,flown.running.received⟩⟩,
      (refused (m := m5) fun good => different (answer good).2.2.2.2).2⟩
    dsimp only
    rw [flown.running.wire]
    simp [Event.octets]

/-- The keys of the application, of all of the messages of the handshake. -/
theorem applicationSecrets_ends {l h1 : List UInt8} {Fails : HandshakeError → World → Prop} (layout : Layout A base)
    (transcribed : Transcribed A.tls_transcript_ctx w.m l) (loaded : Loaded A der key w.m) (keyed : Keyed A shared h1 w.m) :
    Ends (applicationSecrets A (base+2048)) w
      (fun _ w' => ∃ m', ApplicationKeys A.toImage m' shared (digest l) ∧ w' =
        { w with
          m := m', tls_hs_state := .connected, transport_mode := .tls, tls_read_stage_len := 0, tls_read_stage_pos := 0,
          log := w.log ++ [.snapshot w.m] ++ [.installed] })
      Fails := by
  obtain ⟨hash1,changes1⟩ := transcript_hash transcribed layout
  rw [applicationSecrets]
  refine Ends.step (a := PUnit.unit) (t := { w with
    m := tls_transcript_hash w.m (base+2048-128) A.tls_transcript_ctx (base+2048+80),
    log := w.log ++ [.snapshot w.m] }) rfl ?_
  generalize tls_transcript_hash w.m (base+2048-128) A.tls_transcript_ctx (base+2048+80) = m1 at hash1 changes1 ⊢
  have touches1 : Touches A base [.stack] w.m m1 := touches_of changes1 (by simp [Image.place])
  have loaded1 := loaded.after layout (touches1.mono (by decide))
  have keyed1 := keyed.after layout touches1 (by decide) (by decide) (by decide)
  obtain ⟨keys,_⟩ := application_derives layout.keySchedule layout.hash loaded1.as keyed1.keys.masterSecret
  rw [hash1] at keys
  refine Ends.step (a := PUnit.unit) (t := { w with
    m := tls_derive_application_secrets A.toImage m1 (base+112+1936) (base+2128), log := w.log ++ [.snapshot w.m] }) rfl ?_
  refine Ends.step (a := PUnit.unit) rfl ?_
  refine Ends.step (a := PUnit.unit) rfl ?_
  exact Ends.modify ⟨_,keys,rfl⟩

end
end Sarm.Handshake
