import Sarm.Prefilled

/-!
Where the plaintext of a record goes. The limit that a record is refused at is the one of the
record, and the places that plaintext is written to are shorter.
-/
namespace Sarm.Tls
open Sarm.Memory Sarm.Gcm Sarm.Aes
open Sarm.H2 (ReadEvent)

/-- A place where records are read and opened: the frame, the buffer that a record is read into and
    how much of it is used, the context and the IV, and the destination. -/
structure Site where
  sp : Nat
  buf : Nat
  cap : Nat
  ctx : Nat
  iv : Nat
  out : Nat
  size : Nat

/-- `.Lhs_read_client_next`: `tls_hs_record_buf` into `tls_hs_msg_buf`. -/
def handshakeSite (sp buf ctx iv out : Nat) : Site := ⟨sp,buf,16384,ctx,iv,out,2048⟩

/-- `.Ltr_tls_loop`: `tls_read_raw_buf` into `tls_read_stage_buf`. -/
def transportSite (sp buf ctx iv out : Nat) : Site := ⟨sp,buf,16448,ctx,iv,out,16384⟩

/-- A record is read, and opened if it is one of application data: the memory in front of
    `tls_record_decrypt`, and what that returns. -/
def Site.opening (s : Site) (reads : List ReadEvent) (m : Mem) (seq : BitVec 64) :
    Option (Mem × Except RecordError (Nat × UInt8) × Mem) :=
  match tls_read_record reads m s.buf s.cap with
  | (.error _,_,_) => none
  | (.ok parsed,m,_) =>
    if parsed.type = applicationData then some
      (m,tls_record_decrypt m s.sp s.buf parsed.total s.ctx s.iv seq s.out) else none

/-- The objects do not overlap. -/
structure Site.Laid (s : Site) : Prop where
  frameRecord : Apart (s.sp+56) 12 s.buf s.cap
  frameContext : Apart (s.sp+56) 12 s.ctx 304
  frameOut : Apart (s.sp+56) 12 s.out (s.size+1)
  recordOut : s.out + s.size ≤ s.buf ∨ s.buf + s.cap ≤ s.out
  recordContext : Apart s.buf s.cap s.ctx 304
  recordIv : Apart s.buf s.cap s.iv 12

/-- Whatever record of `w` octets behind its header is read, nothing is written but the nonce in the
    frame and the destination. -/
def Site.Confined (s : Site) (key : List UInt8) (seq : BitVec 64) (w : Nat) : Prop :=
  ∀ {reads : List ReadEvent} {m m₁ m₂ : Mem} {result : Except RecordError (Nat × UInt8)}, Context key m s.ctx →
    s.opening reads m seq = some (m₁,result,m₂) → be16 m₁ (s.buf+3) = w →
      ChangesOnly [(s.sp+56,12),(s.out,s.size)] m₁ m₂

/-! ### What has been read -/

section
variable {reads : List ReadEvent} {m m' : Mem} {buf cap : Nat}

/-- A record that is accepted fits its buffer, and nothing else has been written. -/
theorem tls_read_record_accepted {reads' : List ReadEvent} {parsed : Parsed}
    (read : tls_read_record reads m buf cap = (.ok parsed,m',reads')) :
    parsed.total = be16 m' (buf+3) + 5 ∧ parsed.total ≤ cap ∧ ChangesOnly [(buf,cap)] m m' := by
  rw [tls_read_record] at read
  have header := raw_read_exact_changes reads m buf 5
  generalize raw_read_exact reads m buf 5 = first at read header
  obtain ⟨reads₁,m₁,ok⟩ := first
  cases ok with
  | false => cases read
  | true =>
    dsimp only [readFragment] at read header
    by_cases long : cap < be16 m₁ (buf+3) + 5
    · rw [if_pos long] at read
      cases read
    rw [if_neg long] at read
    have fragment := raw_read_exact_changes reads₁ m₁ (buf+5) (be16 m₁ (buf+3))
    generalize raw_read_exact reads₁ m₁ (buf+5) (be16 m₁ (buf+3)) = second at read fragment
    obtain ⟨reads₂,m₂,ok⟩ := second
    cases ok with
    | false => cases read
    | true =>
      dsimp only at read fragment
      obtain ⟨parse,same,_⟩ := Prod.mk.inj read |>.imp_right Prod.mk.inj
      subst same
      have kept : slice m₂ buf 5 = slice m₁ buf 5 := fragment.slice (by simp)
      have length := be16_slice kept (Nat.le_refl 5)
      have total := tls_record_parse_total parse
      refine ⟨total,by omega,?_⟩
      exact (header.mono (by simp; omega)).trans (fragment.mono (by simp; omega))

/-- A whole record that has arrived is in the buffer. -/
theorem tls_read_record_arrived {record : List UInt8} {rest : List (Option UInt8)}
    (arrived : stream reads = record.map some ++ rest)
    (length : record.length = be16 (ofBytes record) 3 + 5) (room : record.length ≤ cap) :
    ∃ reads', tls_read_record reads m buf cap =
      (tls_record_parse (blit m buf (ofBytes record) record.length) buf record.length,
    blit m buf (ofBytes record) record.length,reads') := by
  have taken := takeOctets_part record (n := 5) (by omega) rest
  rw [← arrived] at taken
  obtain ⟨left,memory,whole⟩ := raw_read_exact_takes reads m buf 5
  rw [taken] at left memory whole
  have front : (record.take 5).length = 5 := List.length_take_of_le (by omega)
  rw [tls_read_record]
  generalize raw_read_exact reads m buf 5 = first at left memory whole
  obtain ⟨reads₁,m₁,ok⟩ := first
  dsimp only at left memory whole
  subst memory whole
  have field : be16 (blit m buf (ofBytes (record.take 5)) (record.take 5).length) (buf+3) = be16 (ofBytes record) 3 := by
    rw [front,be16,be16,blit_inside (by omega) (by omega),blit_inside (by omega) (by omega),Nat.add_sub_cancel_left,
      show buf + 3 + 1 - buf = 4 by omega]
    simp [ofBytes]
  have behind : (record.drop 5).length = be16 (ofBytes record) 3 := by rw [List.length_drop]; omega
  have taken' := takeOctets_part (record.drop 5) (n := be16 (ofBytes record) 3) (by omega) rest
  rw [← left,List.take_of_length_le (by omega)] at taken'
  obtain ⟨_,memory,whole⟩ :=
    raw_read_exact_takes reads₁ (blit m buf (ofBytes (record.take 5)) (record.take 5).length) (buf+5)
    (be16 (ofBytes record) 3)
  rw [taken'] at memory whole
  have joined := blit_append m buf (record.take 5) (record.drop 5)
  rw [front,List.take_append_drop] at joined
  dsimp only [readFragment] at memory whole ⊢
  rw [field,if_neg (by omega)]
  rw [front] at memory whole ⊢
  generalize raw_read_exact reads₁ (blit m buf (ofBytes (record.take 5)) 5) (buf+5) (be16 (ofBytes record) 3) =
    second at memory whole
  obtain ⟨reads₂,m₂,ok⟩ := second
  dsimp only at memory whole ⊢
  subst whole
  dsimp only
  rw [memory,joined,length]
  exact ⟨reads₂,rfl⟩

end

/-! ### What is written -/

section
variable {s : Site} {key : List UInt8} {seq : BitVec 64} {w : Nat}

/-- A record whose plaintext the destination has room for, or that is refused. -/
theorem Site.Laid.confined (laid : s.Laid) (fits : w ≤ s.size + 16 ∨ maxAead < w ∨ s.cap < w + 5) :
    s.Confined key seq w := by
  intro reads m m₁ m₂ result context opening field
  rw [Site.opening] at opening
  cases read : tls_read_record reads m s.buf s.cap with
  | mk parse rest =>
    obtain ⟨m',reads'⟩ := rest
    rw [read] at opening
    cases parse with
    | error e => cases opening
    | ok parsed =>
      obtain ⟨total,room,changes⟩ := tls_read_record_accepted read
      dsimp only at opening
      split at opening
      swap
      · cases opening
      simp only [Option.some.injEq,Prod.mk.injEq] at opening
      obtain ⟨rfl,decrypted⟩ := opening
      rw [field] at total
      by_cases unfit : w < 17 ∨ maxAead < w
      · obtain ⟨e,same⟩ := @decrypt_unfit m' s.buf s.sp s.ctx s.iv parsed.total s.out seq (by omega)
        rw [same,Prod.mk.injEq] at decrypted
        obtain ⟨_,rfl⟩ := decrypted
        exact ChangesOnly.refl _ _
      · obtain ⟨n,rfl⟩ := Nat.exists_eq_add_of_le (show 16 ≤ w by omega)
        obtain ⟨frameRecord,frameContext,_,recordOut,recordContext,_⟩ := laid
        rw [Apart] at frameRecord recordContext
        have context' : Context key m' s.ctx := contextAt_kept context fun i inside => changes _ (by simp; omega)
        have written := @decrypt_behind m' s.buf key s.sp n s.ctx s.iv parsed.total s.out seq context'
          (by rw [Behind,Apart]; omega) (by rw [Apart]; omega) frameContext (by omega) (by omega) (by omega) (by omega)
        split at written
        · obtain ⟨m₃,same,_,kept⟩ := written
          rw [same,Prod.mk.injEq] at decrypted
          obtain ⟨_,rfl⟩ := decrypted
          intro i outside
          have frame := outside (s.sp+56,12) (by simp)
          have destination := outside (s.out,s.size) (by simp)
          exact kept i (by omega) (by omega)
        · obtain ⟨m₃,same,kept⟩ := written
          rw [same,Prod.mk.injEq] at decrypted
          obtain ⟨_,rfl⟩ := decrypted
          intro i outside
          have frame := outside (s.sp+56,12) (by simp)
          exact kept i (by omega)

/-- A plaintext of as many octets as there are, all of them the type. -/
theorem Site.Laid.unconfined (laid : s.Laid) (sixteen : key.length = 16) (long : s.size + 16 < w) (high : w ≤ maxAead)
    (room : w + 5 ≤ s.cap) : ¬s.Confined key seq w := by
  intro confined
  obtain ⟨n,rfl⟩ := Nat.exists_eq_add_of_le (show 16 ≤ w by omega)
  obtain ⟨frameRecord,frameContext,frameOut,recordOut,recordContext,recordIv⟩ := laid
  rw [Apart] at frameRecord frameOut recordContext recordIv
  rw [maxAead] at high
  let m := aes_gcm_ctx_init (ofBytes key) 0 s.ctx
  have context : Context key m s.ctx := ⟨ofBytes key,0,sixteen ▸ slice_ofBytes key,rfl⟩
  -- The octet behind the destination, which may be the first one of the record, and a type other than that.
  obtain ⟨c,other⟩ : ∃ c : UInt8, c ≠ if s.out + s.size = s.buf then applicationData else m (s.out + s.size) := by
    generalize (if s.out + s.size = s.buf then applicationData else m (s.out + s.size)) = before
    by_cases same : before = 22
    · exact ⟨23,by rw [same]; decide⟩
    · exact ⟨22,Ne.symm same⟩
  obtain ⟨inner,rfl,there⟩ : ∃ inner : List UInt8, inner.length = n ∧ inner[s.size]? = some c :=
    ⟨List.replicate n c,List.length_replicate,by rw [List.getElem?_replicate,if_pos (by omega)]⟩
  cases sent : protect (aes128 key) (slice m s.iv 12) seq inner with
  | nil => exact absurd (congrArg List.length sent) (by rw [protect_length,List.length_nil]; omega)
  | cons first rest =>
    have length : (first :: rest).length = inner.length + 21 := by rw [← sent,protect_length]
    have held : slice (ofBytes (first :: rest)) 0 (inner.length + 21) = protect (aes128 key)
        (slice m s.iv 12) seq inner := by
      rw [← length,slice_ofBytes,sent]
    have field := protect_length_field held (by omega)
    rw [Nat.zero_add] at field
    have octet := (header_read (n := inner.length + 16) (protect_parts held).1 (by omega)).1
    obtain ⟨reads',read⟩ := @tls_read_record_arrived [.data first rest] m s.buf s.cap (first :: rest) [] rfl
      (by omega) (by omega)
    have stored : slice (blit m s.buf (ofBytes (first :: rest)) (inner.length + 21)) s.buf (inner.length + 21) =
        protect (aes128 key) (slice m s.iv 12) seq inner := by
      rw [slice_blit_same,held]
    have unread : slice (blit m s.buf (ofBytes (first :: rest)) (inner.length + 21)) s.iv 12 = slice m s.iv 12 :=
      slice_congr fun i inside => blit_outside (by omega)
    have context' : Context key (blit m s.buf (ofBytes (first :: rest)) (inner.length + 21)) s.ctx :=
      contextAt_kept context fun i inside => blit_outside (by omega)
    have before : blit m s.buf (ofBytes (first :: rest)) (inner.length + 21) (s.out + s.size) ≠ c := by
      by_cases adjacent : s.out + s.size = s.buf
      · rw [if_pos adjacent] at other
        rw [adjacent,blit_inside (Nat.le_refl _) (by omega),Nat.sub_self,octet]
        exact other.symm
      · rw [if_neg adjacent] at other
        rw [blit_outside (by omega)]
        exact other.symm
    rw [length] at read
    generalize blit m s.buf (ofBytes (first :: rest)) (inner.length + 21) = m₁ at read stored unread context' before
    have parse := parse_protect stored (by rw [maxCiphertext]; omega) (Nat.le_refl _)
    have field := protect_length_field stored (by omega)
    rw [← unread] at stored
    have written := @decrypt_behind m₁ s.buf key s.sp inner.length s.ctx s.iv (inner.length + 21) s.out seq context'
      (by rw [Behind,Apart]; omega) (by rw [Apart]; omega) frameContext field (by omega) (by rw [maxAead]; omega)
        (Nat.le_refl _)
    rw [openedRecord_protect stored] at written
    obtain ⟨m₂,result,text,_⟩ := written
    have opening : s.opening [.data first rest] m seq = some (m₁,innerType m₂ s.out inner.length,m₂) := by
      rw [Site.opening,read,parse]
      dsimp only
      rw [if_pos rfl,result]
    have kept := confined context opening (by omega) (s.out + s.size) (by simp; omega)
    have last := @ofBytes_slice m₂ s.out inner.length s.size (by omega)
    rw [text,ofBytes,List.getD_eq_getElem?_getD,there,Option.getD_some] at last
    exact before (kept.symm.trans last.symm)

/-- The records whose plaintext stays in its destination: all but those that are accepted and longer. -/
theorem Site.Laid.confined_iff (laid : s.Laid) (sixteen : key.length = 16) :
    s.Confined key seq w ↔ w ≤ s.size + 16 ∨ maxAead < w ∨ s.cap < w + 5 := by
  refine ⟨fun confined => ?_,laid.confined⟩
  by_contra long
  exact laid.unconfined sixteen (by omega) (by omega) (by omega) confined

end

/-- The plaintext of a record stays in its destination: in the handshake exactly for the records of up
    to 2064 octets behind the header, and those above 16379, which are not read; in the transport for
    all but those of 16401, one octet more than there is room for. -/
theorem tls_record_decrypt_confined_iff {key : List UInt8} (sixteen : key.length = 16) (seq : BitVec 64)
    {sp buf ctx iv out : Nat} (w : Nat) :
    ((handshakeSite sp buf ctx iv out).Laid →
      ((handshakeSite sp buf ctx iv out).Confined key seq w ↔ w ≤ 2064 ∨ 16379 < w)) ∧
    ((transportSite sp buf ctx iv out).Laid →
      ((transportSite sp buf ctx iv out).Confined key seq w ↔ w ≠ 16401)) := by
  refine ⟨fun laid => laid.confined_iff sixteen |>.trans ?_,fun laid => laid.confined_iff sixteen |>.trans ?_⟩
  · rw [handshakeSite,maxAead]
    dsimp only
    omega
  · rw [transportSite,maxAead]
    dsimp only
    omega

/-- The buffers as they are laid out: that of the messages in front of that of the records, and the
    stage behind the buffer of raw records. -/
theorem handshakeSite_laid : (handshakeSite 60000 12048 50000 51000 10000).Laid := by
  refine ⟨.inr (.inr (.inr ?_)),.inr (.inr (.inr ?_)),.inr (.inr (.inr ?_)),.inl ?_,.inr (.inr (.inl ?_)),
    .inr (.inr (.inl ?_))⟩ <;> decide

theorem transportSite_laid : (transportSite 60000 10000 50000 51000 26448).Laid := by
  refine ⟨.inr (.inr (.inr ?_)),.inr (.inr (.inr ?_)),.inr (.inr (.inr ?_)),.inr ?_,.inr (.inr (.inl ?_)),
    .inr (.inr (.inl ?_))⟩ <;> decide

theorem tls_record_decrypt_confined_short :
    (handshakeSite 60000 12048 50000 51000 10000).Confined (List.replicate 16 0) 0 53 ∧
      (transportSite 60000 10000 50000 51000 26448).Confined (List.replicate 16 0) 0 16400 :=
  ⟨((tls_record_decrypt_confined_iff List.length_replicate 0 53).1 handshakeSite_laid).mpr (by decide),
    ((tls_record_decrypt_confined_iff List.length_replicate 0 16400).2 transportSite_laid).mpr (by decide)⟩

/-- A Finished of a thousand octets more than the message buffer has, and a full record without padding. -/
theorem tls_record_decrypt_unconfined :
    ¬(handshakeSite 60000 12048 50000 51000 10000).Confined (List.replicate 16 0) 0 3064 ∧
      ¬(transportSite 60000 10000 50000 51000 26448).Confined (List.replicate 16 0) 0 16401 :=
  ⟨handshakeSite_laid.unconfined List.length_replicate (by decide) (by decide) (by decide),
    transportSite_laid.unconfined List.length_replicate (by decide) (by decide) (by decide)⟩

end Sarm.Tls
