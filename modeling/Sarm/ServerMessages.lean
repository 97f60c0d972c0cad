import Sarm.CertificateVerify
import Sarm.Curve25519
import Sarm.KeySchedule

/-!
The messages of the server: what RFC 8446 section 4 makes of their fields, and the writers, each of which
lays its message where it is told to and changes nothing else but its own frame.
-/
namespace Sarm.Handshake
open Sarm.Memory Sarm.Neon Sarm.Sha256 Sarm.Hmac Sarm.Hkdf Sarm.Hello Sarm.KeySchedule Sarm.Transcript Sarm.X25519
open Sarm.Hpack (ascii)

/-! ### RFC 8446 -/

/-- A message, behind its header. -/
def message (type : UInt8) (body : List UInt8) : List UInt8 := header type body.length ++ body

/-- The three lowest octets of a length, the highest first. -/
def u24 (n : Nat) : List UInt8 := [UInt8.ofNat (n / 2^16),UInt8.ofNat (n / 2^8),UInt8.ofNat n]

def vec24 (l : List UInt8) : List UInt8 := u24 l.length ++ l

/-- The version and the share that are chosen. -/
def serverHello (random sessionId share : List UInt8) : List UInt8 :=
  message 2 (u16 0x0303 ++ (random ++ (vec8 sessionId ++ (u16 0x1301 ++ ([0] ++
    vec16 (u16 43 ++ vec16 (u16 0x0304) ++ (u16 51 ++ vec16 (u16 x25519Group ++ vec16 share))))))))

/-- One extension, with the protocol that is chosen. -/
def encryptedExtensions (alpn : List UInt8) : List UInt8 :=
  message 8 (vec16 (u16 16 ++ vec16 (vec16 (vec8 alpn))))

/-- No context, and one entry without extensions. -/
def certificate (der : List UInt8) : List UInt8 := message 11 ([0] ++ vec24 (vec24 der ++ u16 0))

def finishedKey (secret : List UInt8) : List UInt8 := expandLabel secret (ascii "finished") [] 32

/-- The authenticator of the messages before it, by their hash. -/
def verifyData (secret transcriptHash : List UInt8) : List UInt8 := hmac (finishedKey secret) transcriptHash

def finished (secret transcriptHash : List UInt8) : List UInt8 := message 20 (verifyData secret transcriptHash)

/-! ### The code -/

/-- The addresses of what the writers name. -/
structure MessageImage extends KeySchedule.Image, SigningImage where
  tls_cert_der : Nat
  tls_cert_der_end : Nat
  x25519_basepoint9 : Nat
  fk_label_finished : Nat

section
variable (A : MessageImage)

def tls_server_hello_write (m : Mem) (x0 : Nat) : Mem × Nat :=
  let x12 := A.tls_state
  let x11 := (ldr 64 m (x12+440)).toNat
  let x10 := x11 + 86
  let m := layAt m x0 (header 2 x10)
  let m := layAt m (x0+4) [3,3]
  let m := copyBlocks 16 2 m (x0+6) (x12+48)
  let m := store m (x0+38) (UInt8.ofNat x11)
  let m := copyBlocks 1 x11 m (x0+39) (x12+448)
  let x9 := x0 + 39 + x11
  -- The cipher suite, the compression method, and the length of the extensions.
  let m := layAt m x9 [0x13,1,0,0,46]
  let m := layAt m (x9+5) [0,43,0,2,3,4]
  let m := layAt m (x9+11) [0,51,0,36,0,29,0,32]
  let m := copyBlocks 16 2 m (x9+19) (x12+112)
  (m,x10 + 4)

/-- The scalar is at 16 in the frame. -/
def tls_build_server_hello (random : List RandomEvent) (m : Mem) (sp x0 : Nat) :
    List RandomEvent × Mem × Except Nat Nat :=
  let sp := sp - 48
  match crypto_random_bytes random m (A.tls_state+48) 32 with
  | (random,m,false) => (random,blit m (sp+16) (fun _ => 0) 32,.error internalError)
  | (random,m,true) => match crypto_random_bytes random m (sp+16) 32 with
    | (random,m,false) => (random,blit m (sp+16) (fun _ => 0) 32,.error internalError)
    | (random,m,true) =>
      let m := x25519 m (A.tls_state+112) (sp+16) A.x25519_basepoint9
      let m := x25519 m (A.tls_state+144) (sp+16) (A.tls_state+80)
      let m := blit m (sp+16) (fun _ => 0) 32
      let (m,x0) := tls_server_hello_write A m x0
      (random,m,.ok x0)

def tls_encrypted_extensions_write (m : Mem) (x0 : Nat) : Mem × Nat :=
  let x12 := A.tls_state
  let x11 := (ldr 64 m (x12+416)).toNat
  let x10 := x11 + 9
  let m := layAt m x0 (header 8 x10)
  let m := layAt m (x0+4) (u16 (x10 - 2))
  let m := layAt m (x0+6) [0,16]
  let m := layAt m (x0+8) (u16 (x11 + 3))
  let m := layAt m (x0+10) (u16 (x11 + 1))
  let m := store m (x0+12) (UInt8.ofNat x11)
  let m := copyBlocks 1 x11 m (x0+13) (x12+424)
  (m,x10 + 4)

def tls_certificate_write (m : Mem) (x0 : Nat) : Mem × Nat :=
  let x10 := A.tls_cert_der_end - A.tls_cert_der
  let x12 := x10 + 5
  let x11 := x12 + 4
  let m := layAt m x0 (header 11 x11)
  let m := store m (x0+4) 0
  let m := layAt m (x0+5) (u24 x12)
  let m := layAt m (x0+8) (u24 x10)
  let m := copyBlocks 1 x10 m (x0+11) A.tls_cert_der
  let m := layAt m (x0+11+x10) [0,0]
  (m,x11 + 4)

def tls_finished_key (m : Mem) (sp x0 x1 : Nat) : Mem :=
  (hkdf_expand_label m (sp-16) x0 A.fk_label_finished 8 0 0 x1 32).2

def tls_finished_verify_data (m : Mem) (sp x0 x1 x2 : Nat) : Mem := hmac_sha256 m (sp-16) x0 32 x1 32 x2

/-- The key is at 32 in the frame. -/
def tls_finished_write (m : Mem) (sp x0 x1 : Nat) : Mem × Nat :=
  let sp := sp - 64
  let m := tls_finished_key A m sp (A.tls_state+480) (sp+32)
  let m := tls_finished_verify_data m sp (sp+32) x1 (x0+4)
  (layAt m x0 [20,0,0,32],36)

end

/-! ### What is written -/

/-- A doubleword that is elsewhere. -/
theorem ldr_changes {regions : List (Nat × Nat)} {m m' : Mem} {a : Nat} (changes : ChangesOnly regions m m')
    (apart : ∀ r ∈ regions, a + 8 ≤ r.1 ∨ r.1 + r.2 ≤ a) : ldr 64 m' a = ldr 64 m a :=
  ldr_congr 8 rfl (by decide) (slice_eq_iff.mp (changes.slice apart))

theorem message_length (type : UInt8) (body : List UInt8) : (message type body).length = body.length + 4 := by
  simp [message,header]

theorem serverHello_octets {random sessionId share : List UInt8} (randomWidth : random.length = 32)
    (shareWidth : share.length = 32) : serverHello random sessionId share =
      header 2 (sessionId.length+86) ++ [3,3] ++ random ++ [UInt8.ofNat sessionId.length] ++ sessionId ++
        [0x13,1,0,0,46] ++ [0,43,0,2,3,4] ++ [0,51,0,36,0,29,0,32] ++ share := by
  have width : (u16 0x0303 ++ (random ++ (vec8 sessionId ++ (u16 0x1301 ++ ([0] ++
      vec16 (u16 43 ++ vec16 (u16 0x0304) ++ (u16 51 ++ vec16 (u16 x25519Group ++ vec16 share)))))))).length =
      sessionId.length + 86 := by
    simp [vec8,vec16,u16,randomWidth,shareWidth]
    omega
  rw [serverHello,message,width]
  simp [vec8,vec16,u16,x25519Group,shareWidth]

theorem encryptedExtensions_octets (alpn : List UInt8) : encryptedExtensions alpn =
    header 8 (alpn.length+9) ++ u16 (alpn.length+7) ++ [0,16] ++ u16 (alpn.length+3) ++ u16 (alpn.length+1) ++
      [UInt8.ofNat alpn.length] ++ alpn := by
  simp [-UInt8.ofNat_add,encryptedExtensions,message,vec8,vec16,u16]

theorem certificate_octets (der : List UInt8) : certificate der =
    header 11 (der.length+9) ++ [0] ++ u24 (der.length+5) ++ u24 der.length ++ der ++ [0,0] := by
  simp [-UInt8.ofNat_add,certificate,message,vec24,u24,u16]

section
variable {A : MessageImage} {m : Mem} {base x0 n : Nat}

theorem server_hello_write_lays (width : (ldr 64 m (A.tls_state+440)).toNat = n) (short : n ≤ 32)
    (clear : Clear A.tls_state 544 x0 122) :
    let text := serverHello (slice m (A.tls_state+48) 32) (slice m (A.tls_state+448) n) (slice m (A.tls_state+112) 32)
    text.length = n + 90 ∧ (tls_server_hello_write A m x0).2 = n + 90 ∧
      Lays m x0 text (tls_server_hello_write A m x0).1 := by
  intro text
  have size : text.length = n + 90 := by
    simp [text,serverHello,message_length,vec8,vec16,u16]
    omega
  refine ⟨size,?_,?_⟩
  · rw [tls_server_hello_write,width]
  rw [tls_server_hello_write,width]
  have away {a k l : Nat} (inside : a + k ≤ 544) (low : l ≤ 122) : Clear x0 l (A.tls_state+a) k :=
    clear.symm.part le_rfl (by omega) (by omega) (by omega)
  have first := (Lays.octets m x0 (header 2 (n+86))).behind (Lays.octets _ (x0+4) [3,3]) rfl
  have random := @Lays.copied _ _ _ (x0+6) (A.tls_state+48) 32 16 2 _ first rfl
    (away (by decide) (by simp [header])) rfl
  have count := random.behind (Lays.octet _ (x0+38) (UInt8.ofNat n)) (by simp [header])
  have id := @Lays.copied _ _ _ (x0+39) (A.tls_state+448) n 1 n _ count (by omega)
    (away (by omega) (by simp [header]; omega)) (by simp [header])
  have suite := id.behind (Lays.octets _ (x0+39+n) [0x13,1,0,0,46]) (by simp [header]; omega)
  have versions := suite.behind (Lays.octets _ (x0+39+n+5) [0,43,0,2,3,4]) (by simp [header]; omega)
  have group := versions.behind (Lays.octets _ (x0+39+n+11) [0,51,0,36,0,29,0,32]) (by simp [header]; omega)
  have share := @Lays.copied _ _ _ (x0+39+n+19) (A.tls_state+112) 32 16 2 _ group rfl
    (away (by decide) (by simp [header]; omega)) (by simp [header]; omega)
  have octets : text = _ := serverHello_octets (slice_length ..) (slice_length ..)
  rw [slice_length] at octets
  rw [octets]
  exact share

theorem encrypted_extensions_write_lays (width : (ldr 64 m (A.tls_state+416)).toNat = n) (short : n ≤ 16)
    (clear : Clear A.tls_state 544 x0 29) :
    let text := encryptedExtensions (slice m (A.tls_state+424) n)
    text.length = n + 13 ∧ (tls_encrypted_extensions_write A m x0).2 = n + 13 ∧
      Lays m x0 text (tls_encrypted_extensions_write A m x0).1 := by
  intro text
  have octets : text = _ := encryptedExtensions_octets _
  rw [slice_length] at octets
  rw [octets]
  refine ⟨?_,?_,?_⟩
  · simp [header,u16]
  · rw [tls_encrypted_extensions_write,width]
  rw [tls_encrypted_extensions_write,width]
  have first := (Lays.octets m x0 (header 8 (n+9))).behind (Lays.octets _ (x0+4) (u16 (n+7))) rfl
  have type := first.behind (Lays.octets _ (x0+6) [0,16]) rfl
  have data := type.behind (Lays.octets _ (x0+8) (u16 (n+3))) rfl
  have list := data.behind (Lays.octets _ (x0+10) (u16 (n+1))) rfl
  have count := list.behind (Lays.octet _ (x0+12) (UInt8.ofNat n)) rfl
  exact @Lays.copied _ _ _ (x0+13) (A.tls_state+424) n 1 n _ count (by omega)
    (clear.symm.part le_rfl (by simp [header,u16]; omega) (by omega) (by omega)) rfl

theorem certificate_write_lays (width : A.tls_cert_der_end - A.tls_cert_der = n)
    (clear : Clear A.tls_cert_der n x0 (n+13)) :
    let text := certificate (slice m A.tls_cert_der n)
    text.length = n + 13 ∧ (tls_certificate_write A m x0).2 = n + 13 ∧ Lays m x0 text (tls_certificate_write A m x0).1 := by
  intro text
  have octets : text = _ := certificate_octets _
  rw [slice_length] at octets
  rw [octets]
  refine ⟨?_,?_,?_⟩
  · simp [header,u24]
  · rw [tls_certificate_write,width]
  rw [tls_certificate_write,width]
  have context := (Lays.octets m x0 (header 11 (n+9))).behind (Lays.octet _ (x0+4) 0) rfl
  have list := context.behind (Lays.octets _ (x0+5) (u24 (n+5))) rfl
  have entry := list.behind (Lays.octets _ (x0+8) (u24 n)) rfl
  have der := @Lays.copied _ _ _ (x0+11) A.tls_cert_der n 1 n _ entry (by omega)
    (clear.symm.part le_rfl (by simp [header,u24]; omega) le_rfl le_rfl) rfl
  exact der.behind (Lays.octets _ (x0+11+n) [0,0]) (by simp [header,u24]; omega)

/-! ### The key share -/

/-- `x25519_basepoint9`. -/
def basepoint9 : List UInt8 := 9 :: List.replicate 31 0

/-- What the message is made of, clear of the frame of the function that makes it. -/
structure Builds (A : MessageImage) (m : Mem) (base x0 : Nat) : Prop where
  held : slice m A.x25519_basepoint9 32 = basepoint9
  stackState : Clear base 48 A.tls_state 544
  stackPoint : Clear base 48 A.x25519_basepoint9 32
  stackOut : Clear base 48 x0 122
  statePoint : Clear A.tls_state 544 A.x25519_basepoint9 32
  stateOut : Clear A.tls_state 544 x0 122

/-- Both shares out of one scalar, which is wiped. -/
theorem shares_made (builds : Builds A m base x0) :
    let scalar := slice m (base+16) 32
    let m' := blit (x25519 (x25519 m (A.tls_state+112) (base+16) A.x25519_basepoint9) (A.tls_state+144) (base+16)
      (A.tls_state+80)) (base+16) (fun _ => 0) 32
    slice m' (A.tls_state+112) 32 = rfcX25519 scalar basepoint9 ∧
      slice m' (A.tls_state+144) 32 = rfcX25519 scalar (slice m (A.tls_state+80) 32) ∧
      slice m' (base+16) 32 = List.replicate 32 0 ∧ ChangesOnly [(base,48),(A.tls_state+112,64)] m m' := by
  intro scalar m'
  have stackState := builds.stackState
  unfold Clear at stackState
  have own := x25519_octets m (A.tls_state+112) (base+16) A.x25519_basepoint9
  have changes1 := x25519_changes m (A.tls_state+112) (base+16) A.x25519_basepoint9
  rw [builds.held] at own
  simp only [m']
  generalize x25519 m (A.tls_state+112) (base+16) A.x25519_basepoint9 = m1 at own changes1
  have shared := x25519_octets m1 (A.tls_state+144) (base+16) (A.tls_state+80)
  have changes2 := x25519_changes m1 (A.tls_state+144) (base+16) (A.tls_state+80)
  rw [changes1.slice (by simp; omega),changes1.slice (by simp)] at shared
  generalize x25519 m1 (A.tls_state+144) (base+16) (A.tls_state+80) = m2 at shared changes2
  have wiped : ChangesOnly [(base+16,32)] m2 (blit m2 (base+16) (fun _ => 0) 32) := fun i outside =>
    blit_outside (outside (base+16,32) (List.mem_singleton_self _))
  refine ⟨?_,?_,?_,?_⟩
  · rw [wiped.slice (by simp; omega),changes2.slice (by simp),own]
  · rw [wiped.slice (by simp; omega),shared]
  · rw [slice_blit_same,slice_zeros]
  · refine (changes1.mono ?_).trans ((changes2.mono ?_).trans (wiped.mono ?_))
    · simp
    · simp
    · simp

/-- There are two draws in the source. -/
def Supplies (random : List RandomEvent) : Prop := ∃ random1 random2 serverRandom scalar,
  draw random 32 = (random1,some serverRandom) ∧ draw random1 32 = (random2,some scalar)

/-- A message with the share of a scalar that has been drawn, and what the scalar and the share of the client come
    to; or an error, and nothing written but the random. -/
theorem build_server_hello_builds (random : List RandomEvent) (builds : Builds A m base x0)
    (width : (ldr 64 m (A.tls_state+440)).toNat = n) (short : n ≤ 32) :
    let result := tls_build_server_hello A random m (base+48) x0
    slice result.2.1 (base+16) 32 = List.replicate 32 0 ∧
    match result.2.2 with
    | .ok count => ∃ random1 serverRandom scalar, draw random 32 = (random1,some serverRandom) ∧
        draw random1 32 = (result.1,some scalar) ∧
        let text := serverHello serverRandom (slice m (A.tls_state+448) n) (rfcX25519 scalar basepoint9)
        text.length = n + 90 ∧ count = n + 90 ∧ slice result.2.1 x0 count = text ∧
          slice result.2.1 (A.tls_state+144) 32 = rfcX25519 scalar (slice m (A.tls_state+80) 32) ∧
          ChangesOnly [(base,48),(A.tls_state+48,32),(A.tls_state+112,64),(x0,count)] m result.2.1
    | .error e => e = internalError ∧ ¬Supplies random ∧ ChangesOnly [(base,48),(A.tls_state+48,32)] m result.2.1 := by
  have frame : base + 48 - 48 = base := Nat.add_sub_cancel ..
  have stackState := builds.stackState
  unfold Clear at stackState
  have wiped (m : Mem) : slice (blit m (base+16) (fun _ => 0) 32) (base+16) 32 = List.replicate 32 0 ∧
      ChangesOnly [(base,48)] m (blit m (base+16) (fun _ => 0) 32) := by
    refine ⟨by rw [slice_blit_same,slice_zeros],?_⟩
    intro i outside
    have := outside (base,48) (List.mem_singleton_self _)
    exact blit_outside (by omega)
  dsimp only
  rw [tls_build_server_hello,frame]
  obtain ⟨left1,delivered1⟩ := crypto_random_bytes_draws random m (A.tls_state+48) 32
  have changes1 := crypto_random_bytes_changes random m (A.tls_state+48) 32
  dsimp only
  generalize crypto_random_bytes random m (A.tls_state+48) 32 = first at left1 delivered1 changes1 ⊢
  obtain ⟨random1,m1,ok1⟩ := first
  generalize drawn1 : draw random 32 = one at left1 delivered1
  obtain ⟨_,octets1⟩ := one
  dsimp only at left1 delivered1 changes1
  subst left1
  cases octets1 with
  | none =>
    dsimp only at delivered1
    subst delivered1
    obtain ⟨zeros,changes⟩ := wiped m1
    refine ⟨zeros,rfl,?_,(changes1.mono (by simp)).trans (changes.mono (by simp))⟩
    rintro ⟨_,_,_,_,one,_⟩
    rw [one] at drawn1
    cases drawn1
  | some serverRandom =>
    obtain ⟨rfl,text1⟩ := delivered1
    obtain ⟨left2,delivered2⟩ := crypto_random_bytes_draws random1 m1 (base+16) 32
    have changes2 := crypto_random_bytes_changes random1 m1 (base+16) 32
    dsimp only
    generalize crypto_random_bytes random1 m1 (base+16) 32 = second at left2 delivered2 changes2 ⊢
    obtain ⟨random2,m2,ok2⟩ := second
    generalize drawn2 : draw random1 32 = one at left2 delivered2
    obtain ⟨_,octets2⟩ := one
    dsimp only at left2 delivered2 changes2
    subst left2
    cases octets2 with
    | none =>
      dsimp only at delivered2
      subst delivered2
      obtain ⟨zeros,changes⟩ := wiped m2
      refine ⟨zeros,rfl,?_,(changes1.mono (by simp)).trans ((changes2.mono (by simp)).trans (changes.mono (by simp)))⟩
      rintro ⟨_,_,_,_,one,two⟩
      rw [one] at drawn1
      cases drawn1
      rw [two] at drawn2
      cases drawn2
    | some scalar =>
      obtain ⟨rfl,text2⟩ := delivered2
      have stackOut := builds.stackOut
      have stackPoint := builds.stackPoint
      have statePoint := builds.statePoint
      have stateOut := builds.stateOut
      unfold Clear at stackOut stackPoint statePoint stateOut
      have drawn : ChangesOnly [(base,48),(A.tls_state+48,32)] m m2 := by
        refine (changes1.mono ?_).trans (changes2.mono ?_)
        · simp
        · simp
      have held2 : slice m2 A.x25519_basepoint9 32 = basepoint9 := (drawn.slice (by simp; omega)).trans builds.held
      obtain ⟨own,shared,zeros,changes3⟩ := shares_made (m := m2) { builds with held := held2 }
      dsimp only
      generalize blit (x25519 (x25519 m2 _ _ _) _ _ _) (base+16) (fun _ => 0) 32 = m3 at own shared zeros changes3
      have made : ChangesOnly [(base,48),(A.tls_state+48,32),(A.tls_state+112,64)] m m3 := by
        refine (drawn.mono ?_).trans (changes3.mono ?_)
        · simp
        · simp
      have width3 : (ldr 64 m3 (A.tls_state+440)).toNat = n := by rw [ldr_changes made (by simp; omega),width]
      obtain ⟨size,count,lays⟩ := server_hello_write_lays width3 short builds.stateOut
      generalize tls_server_hello_write A m3 x0 = written at count lays
      obtain ⟨m4,count'⟩ := written
      dsimp only at size count lays ⊢
      have random3 : slice m3 (A.tls_state+48) 32 = serverRandom := by
        rw [changes3.slice (by simp; omega),changes2.slice (by simp; omega),text1]
      have id3 : slice m3 (A.tls_state+448) n = slice m (A.tls_state+448) n := made.slice (by simp; omega)
      have share3 : slice m2 (A.tls_state+80) 32 = slice m (A.tls_state+80) 32 := drawn.slice (by simp; omega)
      rw [random3,id3,own,text2] at lays size
      rw [text2,share3] at shared
      have wrote := lays.changes
      rw [size] at wrote
      refine ⟨(wrote.slice (by simp; omega)).trans zeros,random1,serverRandom,scalar,rfl,drawn2,size,count,?_,?_,?_⟩
      · have laid := lays.laid
        rwa [size,← count] at laid
      · exact (wrote.slice (by simp; omega)).trans shared
      · rw [count]
        refine (made.mono ?_).trans (wrote.mono ?_)
        · simp
        · simp

/-! ### Finished -/

theorem finished_key_expands {secret out : Nat} (held : slice m A.fk_label_finished 8 = ascii "finished")
    (clearLabel : Clear base 1744 A.fk_label_finished 8) (clearSecret : Clear base 1744 secret 32)
    (clearOut : Clear base 1744 out 32) :
    slice (tls_finished_key A m (base+1760) secret out) out 32 = finishedKey (slice m secret 32) ∧
      ChangesOnly [(base,1744),(out,32)] m (tls_finished_key A m (base+1760) secret out) := by
  have frame : base + 1760 - 16 = base + 1744 := Nat.add_sub_assoc (by decide) base
  rw [tls_finished_key,frame]
  obtain ⟨-,expanded,changes⟩ := hkdf_expand_label_expandLabel m base secret A.fk_label_finished 8 0 0 out 32 (by decide)
    (by decide) (by decide) clearSecret clearLabel (.inl rfl) (.inr clearOut) (.inl (by decide))
  rw [held] at expanded
  exact ⟨expanded,changes⟩

theorem finished_verify_data_hmac {x0 x1 x2 : Nat} (clearKey : Clear base 384 x0 32) (clearHash : Clear base 384 x1 32) :
    slice (tls_finished_verify_data m (base+384) x0 x1 x2) x2 32 = hmac (slice m x0 32) (slice m x1 32) ∧
      ChangesOnly [(base,384),(x2,32)] m (tls_finished_verify_data m (base+384) x0 x1 x2) := by
  have frame : base + 384 - 16 = base + 368 := Nat.add_sub_assoc (by decide) base
  unfold Clear at clearKey clearHash
  rw [tls_finished_verify_data,frame]
  obtain ⟨written,changes⟩ := hmac_sha256_hmac m base x0 32 x1 32 x2 (by omega) (by omega)
  exact ⟨written,changes.mono (by simp)⟩

theorem finished_write_writes {x1 : Nat} (held : slice m A.fk_label_finished 8 = ascii "finished")
    (clearLabel : Clear base 1824 A.fk_label_finished 8) (clearState : Clear base 1824 A.tls_state 544)
    (clearHash : Clear base 1824 x1 32) (clearOut : Clear base 1824 x0 36) :
    let text := finished (slice m (A.tls_state+480) 32) (slice m x1 32)
    text.length = 36 ∧ (tls_finished_write A m (base+1824) x0 x1).2 = 36 ∧
      slice (tls_finished_write A m (base+1824) x0 x1).1 x0 36 = text ∧
      ChangesOnly [(base,1824),(x0,36)] m (tls_finished_write A m (base+1824) x0 x1).1 := by
  intro text
  have frame : base + 1824 - 64 = base + 1760 := Nat.add_sub_assoc (by decide) base
  have size : (verifyData (slice m (A.tls_state+480) 32) (slice m x1 32)).length = 32 := digest_length _
  have whole : text = header 20 32 ++ verifyData (slice m (A.tls_state+480) 32) (slice m x1 32) := by
    simp only [text,finished,message,size]
  refine ⟨by rw [whole,List.length_append,size]; rfl,rfl,?_⟩
  unfold Clear at clearHash clearState clearOut clearLabel
  rw [tls_finished_write,frame]
  have key := @finished_key_expands A m base (A.tls_state+480) (base+1792) held (by unfold Clear; omega)
    (by unfold Clear; omega) (by unfold Clear; omega)
  have slot : base + 1760 + 32 = base + 1792 := rfl
  rw [slot]
  dsimp only
  obtain ⟨expanded,changes1⟩ := key
  generalize tls_finished_key A m (base+1760) (A.tls_state+480) (base+1792) = m1 at expanded changes1 ⊢
  have call : base + 1760 = base + 1376 + 384 := rfl
  rw [call]
  obtain ⟨authenticated,changes2⟩ := @finished_verify_data_hmac m1 (base+1376) (base+1792) x1 (x0+4)
    (by unfold Clear; omega) (by unfold Clear; omega)
  generalize tls_finished_verify_data m1 (base+1376+384) (base+1792) x1 (x0+4) = m2 at authenticated changes2 ⊢
  rw [expanded,changes1.slice (by simp; omega)] at authenticated
  have front := Lays.octets m2 x0 [20,0,0,32]
  have behind : slice (layAt m2 x0 [20,0,0,32]) (x0+4) 32 = _ := front.keeps (.inr (by simp))
  refine ⟨?_,?_⟩
  · rw [slice_add _ x0 4 32,behind,authenticated,whole]
    exact congrArg (· ++ _) front.laid
  · refine (changes1.mono ?_).trans ((changes2.mono ?_).trans (front.changes.mono ?_))
    · simp
    · simp
    · simp

end
end Sarm.Handshake
