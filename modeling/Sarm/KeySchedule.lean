import Sarm.Hkdf
import Sarm.TlsRecord

/-!
The key schedule: the secrets and keys of RFC 8446 section 7.1, and the two functions of the
code that derive them into `tls_state`, the first from the hash of ClientHello and
ServerHello, the second from the hash up to the server's Finished.

Fields of `tls_state`: SHARED_SECRET 144, HANDSHAKE_SECRET 208, MASTER_SECRET 240,
CLIENT_HS_KEY 272 and IV 288, SERVER_HS_KEY 304 and IV 320, CLIENT_APP_KEY 336 and IV 352,
SERVER_APP_KEY 368 and IV 384, CLIENT_SEQ 400, SERVER_SEQ 408, SERVER_HS_TRAFFIC_SECRET 480,
CLIENT_HS_TRAFFIC_SECRET 512; 544 octets.
-/
namespace Sarm.KeySchedule
open Sarm.Memory Sarm.Neon Sarm.Sha256 Sarm.Hkdf
open Sarm.Gcm (Context aes_gcm_ctx_init ctx_init_outside)
open Sarm.Hpack (ascii)
open Sarm.Tls (contextAt_kept)

/-! ### RFC 8446 -/

/-- `Derive-Secret`, the messages given by their hash. -/
def deriveSecret (secret label transcriptHash : List UInt8) : List UInt8 := expandLabel secret label transcriptHash 32

def earlySecret : List UInt8 := extract zeros zeros

def handshakeSecret (shared : List UInt8) : List UInt8 :=
  extract (deriveSecret earlySecret (ascii "derived") (digest [])) shared

def masterSecret (shared : List UInt8) : List UInt8 :=
  extract (deriveSecret (handshakeSecret shared) (ascii "derived") (digest [])) zeros

def clientHandshakeTraffic (shared h1 : List UInt8) : List UInt8 :=
  deriveSecret (handshakeSecret shared) (ascii "c hs traffic") h1

def serverHandshakeTraffic (shared h1 : List UInt8) : List UInt8 :=
  deriveSecret (handshakeSecret shared) (ascii "s hs traffic") h1

def clientApplicationTraffic (shared h2 : List UInt8) : List UInt8 :=
  deriveSecret (masterSecret shared) (ascii "c ap traffic") h2

def serverApplicationTraffic (shared h2 : List UInt8) : List UInt8 :=
  deriveSecret (masterSecret shared) (ascii "s ap traffic") h2

def trafficKey (secret : List UInt8) : List UInt8 := expandLabel secret (ascii "key") [] 16

def trafficIv (secret : List UInt8) : List UInt8 := expandLabel secret (ascii "iv") [] 12

/-! ### The code -/

/-- The addresses the linker gives to what the functions name. -/
structure Image where
  tls_state : Nat
  tls_client_gcm_ctx : Nat
  tls_server_gcm_ctx : Nat
  /-- The labels of `key_schedule.S`, and the hash behind them at 48. -/
  khs : Nat
  /-- The labels of `application_secrets.S`. -/
  as : Nat

def khs_empty_hash : List UInt8 :=
  [0xe3,0xb0,0xc4,0x42,0x98,0xfc,0x1c,0x14,0x9a,0xfb,0xf4,0xc8,0x99,0x6f,0xb9,0x24,
   0x27,0xae,0x41,0xe4,0x64,0x9b,0x93,0x4c,0xa4,0x95,0x99,0x1b,0x78,0x52,0xb8,0x55]

def khsLabels : List UInt8 := ascii "derived" ++ ascii "c hs traffic" ++ ascii "s hs traffic" ++ ascii "key" ++ ascii "iv"

def asLabels : List UInt8 := ascii "c ap traffic" ++ ascii "s ap traffic" ++ ascii "key" ++ ascii "iv"

/-- A traffic secret, and its key and IV. -/
def deriveTraffic (m : Mem) (sp secret label labelLen hash traffic keyLabel ivLabel key iv : Nat) : Mem :=
  let m := (hkdf_expand_label m sp secret label labelLen hash 32 traffic 32).2
  let m := (hkdf_expand_label m sp traffic keyLabel 3 0 0 key 16).2
  (hkdf_expand_label m sp traffic ivLabel 2 0 0 iv 12).2

/-- In the frame: 32 zeros at 32, the early secret at 64, what is derived from it at 96, what is
    derived from the handshake secret at 160. `x0` is the transcript hash. -/
def tls_derive_handshake_secrets (A : Image) (m : Mem) (sp x0 : Nat) : Mem :=
  let sp := sp - 192
  let x19 := A.tls_state
  let m := blit m (sp+32) (fun _ => 0) 32
  let m := hkdf_extract m sp 0 0 (sp+32) 32 (sp+64)
  let m := (hkdf_expand_label m sp (sp+64) A.khs 7 (A.khs+48) 32 (sp+96) 32).2
  let m := hkdf_extract m sp (sp+96) 32 (x19+144) 32 (x19+208)
  let m := deriveTraffic m sp (x19+208) (A.khs+7) 12 x0 (x19+512) (A.khs+31) (A.khs+34) (x19+272) (x19+288)
  let m := deriveTraffic m sp (x19+208) (A.khs+19) 12 x0 (x19+480) (A.khs+31) (A.khs+34) (x19+304) (x19+320)
  let m := aes_gcm_ctx_init m (x19+272) A.tls_client_gcm_ctx
  let m := aes_gcm_ctx_init m (x19+304) A.tls_server_gcm_ctx
  let m := (hkdf_expand_label m sp (x19+208) A.khs 7 (A.khs+48) 32 (sp+160) 32).2
  hkdf_extract m sp (sp+160) 32 (sp+32) 32 (x19+240)

/-- The traffic secrets are at 32 and 64 in the frame. -/
def tls_derive_application_secrets (A : Image) (m : Mem) (sp x0 : Nat) : Mem :=
  let sp := sp - 96
  let x19 := A.tls_state
  let m := deriveTraffic m sp (x19+240) A.as 12 x0 (sp+32) (A.as+24) (A.as+27) (x19+336) (x19+352)
  let m := deriveTraffic m sp (x19+240) (A.as+12) 12 x0 (sp+64) (A.as+24) (A.as+27) (x19+368) (x19+384)
  let m := aes_gcm_ctx_init m (x19+336) A.tls_client_gcm_ctx
  let m := aes_gcm_ctx_init m (x19+368) A.tls_server_gcm_ctx
  let m := str m (x19+400) (0 : BitVec 64)
  str m (x19+408) (0 : BitVec 64)

/-! ### One direction -/

def stateOctets (v : Quad × Quad) : List UInt8 :=
  be32 v.1.x0 ++ be32 v.1.x1 ++ be32 v.1.x2 ++ be32 v.1.x3 ++ be32 v.2.x0 ++ be32 v.2.x1 ++ be32 v.2.x2 ++ be32 v.2.x3

theorem emptyBlock_octets : stateOctets (blockLoop (ofBytes (padding 0)) 1 0 sha256_h256) = khs_empty_hash := by
  decide +kernel

/-- The constant of the code is the hash of no message. -/
theorem khs_empty_hash_digest : digest [] = khs_empty_hash := by
  have length : (padding 0).length = 64 := by decide
  have one : (chain initial 1 (padding 0)).octets = stateOctets (chain initial 1 (padding 0)).quads := rfl
  have held : slice (ofBytes (padding 0)) 0 (64*1) = padding 0 := by
    have whole := slice_ofBytes (padding 0)
    rwa [length] at whole
  have looped := blockLoop_chain (ofBytes (padding 0)) 1 0 initial
  rw [held,← sha256_h256_initial] at looped
  simp only [digest,List.length_nil,List.nil_append,length]
  rw [one,← looped,emptyBlock_octets]

/-- Where the three calls for one direction read and write, clear of the stack and of each other. -/
structure Direction (base secret label labelLen hash traffic keyLabel ivLabel key iv : Nat) : Prop where
  short : labelLen ≤ 249
  stackSecret : Clear base 1744 secret 32
  stackLabel : Clear base 1744 label labelLen
  stackHash : Clear base 1744 hash 32
  stackTraffic : Clear base 1744 traffic 32
  stackKeyLabel : Clear base 1744 keyLabel 3
  stackIvLabel : Clear base 1744 ivLabel 2
  stackKey : Clear base 1744 key 16
  stackIv : Clear base 1744 iv 12
  trafficKeyLabel : Clear traffic 32 keyLabel 3
  trafficIvLabel : Clear traffic 32 ivLabel 2
  keyIvLabel : Clear key 16 ivLabel 2
  keyTraffic : Clear key 16 traffic 32
  ivTraffic : Clear iv 12 traffic 32
  ivKey : Clear iv 12 key 16

theorem deriveTraffic_derives {base secret label labelLen hash traffic keyLabel ivLabel key iv : Nat}
    (place : Direction base secret label labelLen hash traffic keyLabel ivLabel key iv) (m : Mem) :
    let m' := deriveTraffic m (base+1744) secret label labelLen hash traffic keyLabel ivLabel key iv
    let derived := deriveSecret (slice m secret 32) (slice m label labelLen) (slice m hash 32)
    slice m' traffic 32 = derived ∧ slice m' key 16 = expandLabel derived (slice m keyLabel 3) [] 16 ∧
      slice m' iv 12 = expandLabel derived (slice m ivLabel 2) [] 12 ∧
      ChangesOnly [(base,1744),(traffic,32),(key,16),(iv,12)] m m' := by
  intro m' derived
  obtain ⟨-,first,changes1⟩ :=
    hkdf_expand_label_expandLabel m base secret label labelLen hash 32 traffic 32 place.short (by decide)
    (by decide) place.stackSecret place.stackLabel (.inr place.stackHash) (.inr place.stackTraffic) (.inl le_rfl)
  simp only [m',deriveTraffic]
  generalize (hkdf_expand_label m (base+1744) secret label labelLen hash 32 traffic 32).2 = m1 at first changes1 ⊢
  obtain ⟨-,second,changes2⟩ :=
    hkdf_expand_label_expandLabel m1 base traffic keyLabel 3 0 0 key 16 (by decide) (by decide) (by decide)
    place.stackTraffic place.stackKeyLabel (.inl rfl) (.inr place.stackKey) (.inl (by decide))
  generalize (hkdf_expand_label m1 (base+1744) traffic keyLabel 3 0 0 key 16).2 = m2 at second changes2 ⊢
  obtain ⟨-,third,changes3⟩ :=
    hkdf_expand_label_expandLabel m2 base traffic ivLabel 2 0 0 iv 12 (by decide) (by decide) (by decide)
    place.stackTraffic place.stackIvLabel (.inl rfl) (.inr place.stackIv) (.inl (by decide))
  generalize (hkdf_expand_label m2 (base+1744) traffic ivLabel 2 0 0 iv 12).2 = m3 at third changes3 ⊢
  have traffic2 : slice m2 traffic 32 = derived := by
    rw [changes2.slice_pair place.stackTraffic place.keyTraffic,first]; rfl
  refine ⟨?_,?_,?_,?_⟩
  · rw [changes3.slice_pair place.stackTraffic place.ivTraffic,traffic2]
  · rw [changes3.slice_pair place.stackKey place.ivKey,second,first,
      changes1.slice_pair place.stackKeyLabel place.trafficKeyLabel]
    rfl
  · rw [third,traffic2,changes2.slice_pair place.stackIvLabel place.keyIvLabel,
      changes1.slice_pair place.stackIvLabel place.trafficIvLabel]
    rfl
  · refine (changes1.mono ?_).trans ((changes2.mono ?_).trans (changes3.mono ?_))
    · simp
    · simp
    · simp

/-! ### The handshake secrets -/

/-- Nothing the two functions write overlaps: the stack, 1936 octets from `base` on, `tls_state`, the
    two contexts, and the labels. -/
structure Layout (A : Image) (base : Nat) : Prop where
  stackState : Clear base 1936 A.tls_state 544
  stackClient : Clear base 1936 A.tls_client_gcm_ctx 304
  stackServer : Clear base 1936 A.tls_server_gcm_ctx 304
  stackKhs : Clear base 1936 A.khs 80
  stackAs : Clear base 1936 A.as 29
  stateClient : Clear A.tls_state 544 A.tls_client_gcm_ctx 304
  stateServer : Clear A.tls_state 544 A.tls_server_gcm_ctx 304
  stateKhs : Clear A.tls_state 544 A.khs 80
  stateAs : Clear A.tls_state 544 A.as 29
  clientServer : Clear A.tls_client_gcm_ctx 304 A.tls_server_gcm_ctx 304
  clientKhs : Clear A.tls_client_gcm_ctx 304 A.khs 80
  serverKhs : Clear A.tls_server_gcm_ctx 304 A.khs 80

/-- A transcript hash at `x0`. -/
structure HashClear (A : Image) (base x0 : Nat) : Prop where
  stack : Clear base 1936 x0 32
  state : Clear A.tls_state 544 x0 32

section
variable {A : Image} {base x0 : Nat}

/-- A direction whose secrets and keys are fields of the state. -/
theorem Layout.direction (layout : Layout A base) (clear : HashClear A base x0) {label secret traffic key iv : Nat}
    (labels : label + 12 ≤ 80)
    (secrets : secret + 32 ≤ 544) (traffics : traffic + 32 ≤ 544) (keys : key + 16 ≤ 544) (ivs : iv + 12 ≤ 544)
    (keyTraffic : Clear key 16 traffic 32) (ivTraffic : Clear iv 12 traffic 32) (ivKey : Clear iv 12 key 16) :
    Direction base (A.tls_state+secret) (A.khs+label) 12 x0 (A.tls_state+traffic) (A.khs+31) (A.khs+34)
    (A.tls_state+key) (A.tls_state+iv) where
  short := by decide
  stackSecret := layout.stackState.part le_rfl (by omega) (by omega) (by omega)
  stackLabel := layout.stackKhs.part le_rfl (by omega) (by omega) (by omega)
  stackHash := clear.stack.part le_rfl (by omega) le_rfl le_rfl
  stackTraffic := layout.stackState.part le_rfl (by omega) (by omega) (by omega)
  stackKeyLabel := layout.stackKhs.part le_rfl (by omega) (by omega) (by omega)
  stackIvLabel := layout.stackKhs.part le_rfl (by omega) (by omega) (by omega)
  stackKey := layout.stackState.part le_rfl (by omega) (by omega) (by omega)
  stackIv := layout.stackState.part le_rfl (by omega) (by omega) (by omega)
  trafficKeyLabel := layout.stateKhs.part (by omega) (by omega) (by omega) (by omega)
  trafficIvLabel := layout.stateKhs.part (by omega) (by omega) (by omega) (by omega)
  keyIvLabel := layout.stateKhs.part (by omega) (by omega) (by omega) (by omega)
  keyTraffic := by unfold Clear at *; omega
  ivTraffic := by unfold Clear at *; omega
  ivKey := by unfold Clear at *; omega

theorem label_slice {m : Mem} {start n : Nat} {text : List UInt8} (held : slice m start n = text) {a k : Nat}
    (inside : a + k ≤ n) :
    slice m (start+a) k = (text.drop a).take k := by rw [← held,slice_drop_take inside]

/-- Up to the handshake secret. -/
theorem handshakeSecret_derives (layout : Layout A base) {m : Mem} (labels : slice m A.khs 36 = khsLabels)
    (empty : slice m (A.khs+48) 32 = khs_empty_hash) :
    let m0 := blit m (base+1776) (fun _ => 0) 32
    let m1 := hkdf_extract m0 (base+1744) 0 0 (base+1776) 32 (base+1808)
    let m2 := (hkdf_expand_label m1 (base+1744) (base+1808) A.khs 7 (A.khs+48) 32 (base+1840) 32).2
    let m3 := hkdf_extract m2 (base+1744) (base+1840) 32 (A.tls_state+144) 32 (A.tls_state+208)
    slice m3 (A.tls_state+208) 32 = handshakeSecret (slice m (A.tls_state+144) 32) ∧ slice m3 (base+1776) 32 = zeros ∧
      ChangesOnly [(base,1936),(A.tls_state+208,32)] m m3 := by
  intro m0 m1 m2 m3
  have stackState := layout.stackState
  have stackKhs := layout.stackKhs
  unfold Clear at stackState stackKhs
  have changes0 : ChangesOnly [(base+1776,32)] m m0 := fun i outside => blit_outside (outside (base+1776,32) (by simp))
  have zeros0 : slice m0 (base+1776) 32 = zeros := by rw [slice_blit_same,slice_zeros]; rfl
  obtain ⟨early,changes1⟩ := hkdf_extract_extract m0 (base+1328) 0 0 (base+1776) 32 (base+1808) (.inl rfl) (by omega)
  rw [if_pos rfl,zeros0] at early
  have zeros1 : slice m1 (base+1776) 32 = zeros := (changes1.slice (by simp)).trans zeros0
  obtain ⟨-,derived,changes2⟩ :=
    hkdf_expand_label_expandLabel m1 base (base+1808) A.khs 7 (A.khs+48) 32 (base+1840) 32 (by decide)
    (by decide) (by decide) (by omega) (by omega) (by omega) (by omega) (.inl le_rfl)
  have changes : ChangesOnly [(base,1936)] m m2 := by
    refine (changes0.mono ?_).trans ((changes1.mono ?_).trans (changes2.mono ?_))
    · simp
    · simp
    · simp
  have before : ChangesOnly [(base,1936)] m m1 := by
    refine (changes0.mono ?_).trans (changes1.mono ?_)
    · simp
    · simp
  have label : slice m1 A.khs 7 = ascii "derived" := by
    rw [before.slice (by simp; omega)]
    exact label_slice (a := 0) labels (by decide)
  have hash : slice m1 (A.khs+48) 32 = digest [] := by
    rw [before.slice (by simp; omega),empty,khs_empty_hash_digest]
  have derived2 : slice m2 (base+1840) 32 = deriveSecret earlySecret (ascii "derived") (digest []) := by
    rw [derived,early,label,hash]
    rfl
  obtain ⟨extracted,changes3⟩ := hkdf_extract_extract m2 (base+1328) (base+1840) 32 (A.tls_state+144) 32 (A.tls_state+208)
    (by omega) (by omega)
  refine ⟨?_,?_,(changes.mono (by simp)).trans (changes3.mono (by simp))⟩
  · rw [if_neg (by decide),derived2,changes.slice (by simp; omega)] at extracted
    exact extracted
  · rw [changes3.slice (by simp; omega),changes2.slice (by simp),zeros1]

/-- What the first function leaves in the state. -/
structure HandshakeKeys (A : Image) (m : Mem) (shared h1 : List UInt8) : Prop where
  handshakeSecret : slice m (A.tls_state+208) 32 = handshakeSecret shared
  masterSecret : slice m (A.tls_state+240) 32 = masterSecret shared
  clientTraffic : slice m (A.tls_state+512) 32 = clientHandshakeTraffic shared h1
  serverTraffic : slice m (A.tls_state+480) 32 = serverHandshakeTraffic shared h1
  clientKey : slice m (A.tls_state+272) 16 = trafficKey (clientHandshakeTraffic shared h1)
  clientIv : slice m (A.tls_state+288) 12 = trafficIv (clientHandshakeTraffic shared h1)
  serverKey : slice m (A.tls_state+304) 16 = trafficKey (serverHandshakeTraffic shared h1)
  serverIv : slice m (A.tls_state+320) 12 = trafficIv (serverHandshakeTraffic shared h1)

theorem ctx_init_changes (m : Mem) (key ctx : Nat) : ChangesOnly [(ctx,304)] m (aes_gcm_ctx_init m key ctx) :=
  fun _ outside => ctx_init_outside m key ctx (outside (ctx,304) (by simp))

theorem ctx_init_context (m : Mem) (key ctx : Nat) : Context (slice m key 16) (aes_gcm_ctx_init m key ctx) ctx :=
  ⟨m,key,rfl,rfl⟩

theorem context_changes {regions : List (Nat × Nat)} {key : List UInt8} {m m' : Mem} {ctx : Nat}
    (context : Context key m ctx)
    (changes : ChangesOnly regions m m') (apart : ∀ r ∈ regions, ctx + 304 ≤ r.1 ∨ r.1 + r.2 ≤ ctx) :
    Context key m' ctx :=
  contextAt_kept context (slice_eq_iff.mp (changes.slice apart))

/-- Both directions, one after the other. -/
theorem handshakeTraffic_derives (layout : Layout A base) (clear : HashClear A base x0) {m : Mem}
    (labels : slice m A.khs 36 = khsLabels)
    {shared : List UInt8} (secret : slice m (A.tls_state+208) 32 = handshakeSecret shared) :
    let m1 := deriveTraffic m (base+1744) (A.tls_state+208) (A.khs+7) 12 x0 (A.tls_state+512) (A.khs+31) (A.khs+34)
      (A.tls_state+272)
      (A.tls_state+288)
    let m2 := deriveTraffic m1 (base+1744) (A.tls_state+208) (A.khs+19) 12 x0 (A.tls_state+480) (A.khs+31)
      (A.khs+34) (A.tls_state+304)
      (A.tls_state+320)
    let h1 := slice m x0 32
    slice m2 (A.tls_state+512) 32 = clientHandshakeTraffic shared h1 ∧
      slice m2 (A.tls_state+480) 32 = serverHandshakeTraffic shared h1 ∧
      slice m2 (A.tls_state+272) 16 = trafficKey (clientHandshakeTraffic shared h1) ∧
      slice m2 (A.tls_state+288) 12 = trafficIv (clientHandshakeTraffic shared h1) ∧
      slice m2 (A.tls_state+304) 16 = trafficKey (serverHandshakeTraffic shared h1) ∧
      slice m2 (A.tls_state+320) 12 = trafficIv (serverHandshakeTraffic shared h1) ∧
      ChangesOnly [(base,1744),(A.tls_state+272,60),(A.tls_state+480,64)] m m2 := by
  intro m1 m2 h1
  have stackState := layout.stackState
  have stateHash := clear.state
  have stackHash := clear.stack
  unfold Clear at stackState stateHash stackHash
  have place1 := @Layout.direction _ _ _ layout clear 7 208 512 272 288 (by decide) (by decide)
    (by decide) (by decide) (by decide) (.inr (by decide)) (.inr (by decide)) (.inl (by decide))
  have place2 := @Layout.direction _ _ _ layout clear 19 208 480 304 320 (by decide) (by decide)
    (by decide) (by decide) (by decide) (.inr (by decide)) (.inr (by decide)) (.inl (by decide))
  obtain ⟨traffic1,key1,iv1,changes1⟩ := deriveTraffic_derives place1 m
  obtain ⟨traffic2,key2,iv2,changes2⟩ := deriveTraffic_derives place2 m1
  have khs1 : slice m1 A.khs 36 = khsLabels := by
    have stackKhs := layout.stackKhs
    have stateKhs := layout.stateKhs
    unfold Clear at stackKhs stateKhs
    rw [changes1.slice (by simp; omega),labels]
  have secret1 : slice m1 (A.tls_state+208) 32 = handshakeSecret shared := by rw [changes1.slice (by simp; omega),secret]
  have hash1 : slice m1 x0 32 = h1 := changes1.slice (by simp; omega)
  have label {m : Mem} (held : slice m A.khs 36 = khsLabels) :
      slice m (A.khs+7) 12 = ascii "c hs traffic" ∧ slice m (A.khs+19) 12 = ascii "s hs traffic" ∧
        slice m (A.khs+31) 3 = ascii "key" ∧ slice m (A.khs+34) 2 = ascii "iv" :=
    ⟨label_slice held (by decide),label_slice held (by decide),label_slice held (by decide),label_slice held (by decide)⟩
  rw [secret,(label labels).1] at traffic1 key1 iv1
  rw [(label labels).2.2.1] at key1
  rw [(label labels).2.2.2] at iv1
  rw [secret1,(label khs1).2.1,hash1] at traffic2 key2 iv2
  rw [(label khs1).2.2.1] at key2
  rw [(label khs1).2.2.2] at iv2
  refine ⟨?_,traffic2,?_,?_,key2,iv2,?_⟩
  · rw [changes2.slice (by simp; omega)]
    exact traffic1
  · rw [changes2.slice (by simp; omega)]
    exact key1
  · rw [changes2.slice (by simp; omega)]
    exact iv1
  · refine (changes1.mono ?_).trans (changes2.mono ?_)
    · simp
    · simp

/-- Both contexts. -/
theorem contexts_init (layout : Layout A base) (m : Mem) {client server : Nat} (inside : server + 16 ≤ 544) :
    let m' := aes_gcm_ctx_init (aes_gcm_ctx_init m (A.tls_state+client) A.tls_client_gcm_ctx)
      (A.tls_state+server) A.tls_server_gcm_ctx
    Context (slice m (A.tls_state+client) 16) m' A.tls_client_gcm_ctx ∧
      Context (slice m (A.tls_state+server) 16) m' A.tls_server_gcm_ctx ∧
      ChangesOnly [(A.tls_client_gcm_ctx,304),(A.tls_server_gcm_ctx,304)] m m' := by
  intro m'
  have clientServer := layout.clientServer
  have stateClient := layout.stateClient
  unfold Clear at clientServer stateClient
  have changes1 := ctx_init_changes m (A.tls_state+client) A.tls_client_gcm_ctx
  have changes2 :=
    ctx_init_changes (aes_gcm_ctx_init m (A.tls_state+client) A.tls_client_gcm_ctx)
    (A.tls_state+server) A.tls_server_gcm_ctx
  refine ⟨?_,?_,?_⟩
  · exact context_changes (ctx_init_context m (A.tls_state+client) A.tls_client_gcm_ctx) changes2 (by simp; omega)
  · have kept := changes1.slice (a := A.tls_state+server) (n := 16) (by simp; omega)
    rw [← kept]
    exact ctx_init_context _ _ _
  · refine (changes1.mono ?_).trans (changes2.mono ?_)
    · simp
    · simp

/-- From the handshake secret to the master secret. -/
theorem masterSecret_derives (layout : Layout A base) {m : Mem} {shared : List UInt8}
    (secret : slice m (A.tls_state+208) 32 = handshakeSecret shared) (label : slice m A.khs 7 = ascii "derived")
    (empty : slice m (A.khs+48) 32 = digest []) (zeroed : slice m (base+1776) 32 = zeros) :
    let m1 := (hkdf_expand_label m (base+1744) (A.tls_state+208) A.khs 7 (A.khs+48) 32 (base+1904) 32).2
    let m2 := hkdf_extract m1 (base+1744) (base+1904) 32 (base+1776) 32 (A.tls_state+240)
    slice m2 (A.tls_state+240) 32 = masterSecret shared ∧ ChangesOnly [(base,1936),(A.tls_state+240,32)] m m2 := by
  intro m1 m2
  have stackState := layout.stackState
  have stackKhs := layout.stackKhs
  unfold Clear at stackState stackKhs
  obtain ⟨-,derived,changes1⟩ :=
    hkdf_expand_label_expandLabel m base (A.tls_state+208) A.khs 7 (A.khs+48) 32 (base+1904) 32 (by decide)
    (by decide) (by decide) (by omega) (by omega) (by omega) (by omega) (.inl le_rfl)
  rw [secret,label,empty] at derived
  have zeros1 : slice m1 (base+1776) 32 = zeros := (changes1.slice (by simp)).trans zeroed
  obtain ⟨master,changes2⟩ :=
    hkdf_extract_extract m1 (base+1328) (base+1904) 32 (base+1776) 32 (A.tls_state+240) (by omega) (by omega)
  rw [if_neg (by decide),derived,zeros1] at master
  refine ⟨master,(changes1.mono ?_).trans (changes2.mono ?_)⟩
  · simp
  · simp

theorem handshake_derives (layout : Layout A base) (clear : HashClear A base x0) {m : Mem}
    (labels : slice m A.khs 36 = khsLabels)
    (empty : slice m (A.khs+48) 32 = khs_empty_hash) :
    let m' := tls_derive_handshake_secrets A m (base+1936) x0
    let shared := slice m (A.tls_state+144) 32
    let h1 := slice m x0 32
    HandshakeKeys A m' shared h1 ∧
      Context (trafficKey (clientHandshakeTraffic shared h1)) m' A.tls_client_gcm_ctx ∧
      Context (trafficKey (serverHandshakeTraffic shared h1)) m' A.tls_server_gcm_ctx ∧
      ChangesOnly [(base,1936),(A.tls_state+208,124),(A.tls_state+480,64),(A.tls_client_gcm_ctx,304),
        (A.tls_server_gcm_ctx,304)] m m' := by
  intro m' shared h1
  have frame : base + 1936 - 192 = base + 1744 := Nat.add_sub_assoc (by decide) base
  simp only [m',tls_derive_handshake_secrets,frame,Nat.add_assoc base,Nat.reduceAdd]
  obtain ⟨secret3,zeros3,changes3⟩ := handshakeSecret_derives layout labels empty
  generalize hkdf_extract
    (hkdf_expand_label (hkdf_extract (blit m (base+1776) (fun _ => 0) 32) (base+1744) 0 0 (base+1776) 32
    (base+1808)) (base+1744) (base+1808) A.khs 7 (A.khs+48) 32 (base+1840) 32).2 (base+1744) (base+1840) 32 (A.tls_state+144) 32
    (A.tls_state+208) = m3 at secret3 zeros3 changes3 ⊢
  have stackState := layout.stackState
  have stateHash := clear.state
  have stackHash := clear.stack
  have stackKhs := layout.stackKhs
  have stateKhs := layout.stateKhs
  unfold Clear at stackState stateHash stackHash stackKhs stateKhs
  have labels3 : slice m3 A.khs 36 = khsLabels := by rw [changes3.slice (by simp; omega),labels]
  have empty3 : slice m3 (A.khs+48) 32 = khs_empty_hash := by rw [changes3.slice (by simp; omega),empty]
  have hash3 : slice m3 x0 32 = h1 := changes3.slice (by simp; omega)
  obtain ⟨client5,server5,clientKey5,clientIv5,serverKey5,serverIv5,changes5⟩ :=
    handshakeTraffic_derives layout clear labels3 secret3
  rw [hash3] at client5 server5 clientKey5 clientIv5 serverKey5 serverIv5
  generalize deriveTraffic
    (deriveTraffic m3 (base+1744) (A.tls_state+208) (A.khs+7) 12 x0 (A.tls_state+512) (A.khs+31) (A.khs+34)
    (A.tls_state+272)
      (A.tls_state+288)) (base+1744) (A.tls_state+208) (A.khs+19) 12 x0 (A.tls_state+480) (A.khs+31) (A.khs+34)
    (A.tls_state+304) (A.tls_state+320) = m5 at client5 server5 clientKey5 clientIv5 serverKey5 serverIv5 changes5 ⊢
  have labels5 : slice m5 A.khs 36 = khsLabels := by rw [changes5.slice (by simp; omega),labels3]
  have empty5 : slice m5 (A.khs+48) 32 = khs_empty_hash := by rw [changes5.slice (by simp; omega),empty3]
  have secret5 : slice m5 (A.tls_state+208) 32 = handshakeSecret shared := by rw [changes5.slice (by simp; omega),secret3]
  have zeros5 : slice m5 (base+1776) 32 = zeros := by rw [changes5.slice (by simp; omega),zeros3]
  clear stateHash stackHash
  obtain ⟨clientContext,serverContext,changes7⟩ := @contexts_init _ _ layout m5 272 304 (by decide)
  rw [clientKey5] at clientContext
  rw [serverKey5] at serverContext
  generalize aes_gcm_ctx_init (aes_gcm_ctx_init m5 (A.tls_state+272) A.tls_client_gcm_ctx)
    (A.tls_state+304) A.tls_server_gcm_ctx = m7
    at clientContext serverContext changes7 ⊢
  have kept7 {a n : Nat} (inside : a + n ≤ 544) : slice m7 (A.tls_state+a) n = slice m5 (A.tls_state+a) n := by
    have stateClient := layout.stateClient
    have stateServer := layout.stateServer
    unfold Clear at stateClient stateServer
    exact changes7.slice (by simp; omega)
  have label7 : slice m7 A.khs 80 = slice m5 A.khs 80 := by
    have clientKhs := layout.clientKhs
    have serverKhs := layout.serverKhs
    unfold Clear at clientKhs serverKhs
    exact changes7.slice (by simp; omega)
  have derivedLabel : slice m7 A.khs 7 = ascii "derived" := by
    have start := label_slice label7 (a := 0) (k := 7) (by decide)
    rw [slice_drop_take (by decide)] at start
    exact start.trans (label_slice labels5 (a := 0) (by decide))
  have empty7 : slice m7 (A.khs+48) 32 = digest [] := by
    rw [label_slice label7 (a := 48) (by decide),slice_drop_take (by decide),empty5,khs_empty_hash_digest]
  have zeros7 : slice m7 (base+1776) 32 = zeros := by
    have stackClient := layout.stackClient
    have stackServer := layout.stackServer
    unfold Clear at stackClient stackServer
    rw [changes7.slice (by simp; omega),zeros5]
  have secret7 : slice m7 (A.tls_state+208) 32 = handshakeSecret shared := by rw [kept7 (by decide),secret5]
  obtain ⟨master,changes79⟩ := masterSecret_derives layout secret7 derivedLabel empty7 zeros7
  generalize hkdf_extract (hkdf_expand_label m7 (base+1744) (A.tls_state+208) A.khs 7 (A.khs+48) 32 (base+1904) 32).2
    (base+1744) (base+1904) 32 (base+1776) 32 (A.tls_state+240) = m9 at master changes79 ⊢
  have field {a n : Nat} (inside : a + n ≤ 240 ∨ 272 ≤ a ∧ a + n ≤ 544) : slice m9 (A.tls_state+a) n = slice m5
      (A.tls_state+a) n := by
    rw [changes79.slice (by simp; omega),kept7 (by omega)]
  refine ⟨⟨?_,master,?_,?_,?_,?_,?_,?_⟩,?_,?_,?_⟩
  · rw [field (by decide),secret5]
  · rw [field (by decide),client5]
  · rw [field (by decide),server5]
  · rw [field (by decide),clientKey5]
  · rw [field (by decide),clientIv5]
  · rw [field (by decide),serverKey5]
  · rw [field (by decide),serverIv5]
  · have stackClient := layout.stackClient
    have stateClient := layout.stateClient
    unfold Clear at stackClient stateClient
    exact context_changes clientContext changes79 (by simp; omega)
  · have stackServer := layout.stackServer
    have stateServer := layout.stateServer
    unfold Clear at stackServer stateServer
    exact context_changes serverContext changes79 (by simp; omega)
  · refine (changes3.mono ?_).trans ((changes5.mono ?_).trans ((changes7.mono ?_).trans (changes79.mono ?_)))
    · simp
    · simp
    · simp
    · simp

/-! ### The application keys -/

/-- What the second function leaves in the state. -/
structure ApplicationKeys (A : Image) (m : Mem) (shared h2 : List UInt8) : Prop where
  clientKey : slice m (A.tls_state+336) 16 = trafficKey (clientApplicationTraffic shared h2)
  clientIv : slice m (A.tls_state+352) 12 = trafficIv (clientApplicationTraffic shared h2)
  serverKey : slice m (A.tls_state+368) 16 = trafficKey (serverApplicationTraffic shared h2)
  serverIv : slice m (A.tls_state+384) 12 = trafficIv (serverApplicationTraffic shared h2)
  clientSeq : ldr 64 m (A.tls_state+400) = 0
  serverSeq : ldr 64 m (A.tls_state+408) = 0
  clientContext : Context (trafficKey (clientApplicationTraffic shared h2)) m A.tls_client_gcm_ctx
  serverContext : Context (trafficKey (serverApplicationTraffic shared h2)) m A.tls_server_gcm_ctx

/-- A direction whose traffic secret is in the frame. -/
theorem Layout.applicationDirection (layout : Layout A base) (clear : HashClear A base x0) {label slot key iv : Nat}
    (labels : label + 12 ≤ 29)
    (low : 1872 ≤ slot) (high : slot + 32 ≤ 1936) (keys : key + 16 ≤ iv) (ivs : iv + 12 ≤ 544) :
    Direction (base+96) (A.tls_state+240) (A.as+label) 12 x0 (base+slot) (A.as+24) (A.as+27) (A.tls_state+key)
    (A.tls_state+iv) where
  short := by decide
  stackSecret := layout.stackState.part (by omega) (by omega) (by omega) (by omega)
  stackLabel := layout.stackAs.part (by omega) (by omega) (by omega) (by omega)
  stackHash := clear.stack.part (by omega) (by omega) le_rfl le_rfl
  stackTraffic := .inr (by omega)
  stackKeyLabel := layout.stackAs.part (by omega) (by omega) (by omega) (by omega)
  stackIvLabel := layout.stackAs.part (by omega) (by omega) (by omega) (by omega)
  stackKey := layout.stackState.part (by omega) (by omega) (by omega) (by omega)
  stackIv := layout.stackState.part (by omega) (by omega) (by omega) (by omega)
  trafficKeyLabel := layout.stackAs.part (by omega) (by omega) (by omega) (by omega)
  trafficIvLabel := layout.stackAs.part (by omega) (by omega) (by omega) (by omega)
  keyIvLabel := layout.stateAs.part (by omega) (by omega) (by omega) (by omega)
  keyTraffic := layout.stackState.symm.part (by omega) (by omega) (by omega) (by omega)
  ivTraffic := layout.stackState.symm.part (by omega) (by omega) (by omega) (by omega)
  ivKey := .inl (by omega)

/-- Both directions, one after the other, with their traffic secrets in the frame. -/
theorem applicationTraffic_derives (layout : Layout A base) (clear : HashClear A base x0) {m : Mem}
    (labels : slice m A.as 29 = asLabels)
    {shared : List UInt8} (master : slice m (A.tls_state+240) 32 = masterSecret shared) :
    let m1 := deriveTraffic m (base+96+1744) (A.tls_state+240) A.as 12 x0 (base+1872) (A.as+24) (A.as+27)
      (A.tls_state+336) (A.tls_state+352)
    let m2 := deriveTraffic m1 (base+96+1744) (A.tls_state+240) (A.as+12) 12 x0 (base+1904) (A.as+24) (A.as+27)
      (A.tls_state+368) (A.tls_state+384)
    let h2 := slice m x0 32
    slice m2 (A.tls_state+336) 16 = trafficKey (clientApplicationTraffic shared h2) ∧
      slice m2 (A.tls_state+352) 12 = trafficIv (clientApplicationTraffic shared h2) ∧
      slice m2 (A.tls_state+368) 16 = trafficKey (serverApplicationTraffic shared h2) ∧
      slice m2 (A.tls_state+384) 12 = trafficIv (serverApplicationTraffic shared h2) ∧
      ChangesOnly [(base,1936),(A.tls_state+336,60)] m m2 := by
  intro m1 m2 h2
  have stackState := layout.stackState
  have stackHash := clear.stack
  have stateHash := clear.state
  have stackAs := layout.stackAs
  have stateAs := layout.stateAs
  unfold Clear at stackState stackHash stateHash stackAs stateAs
  have place1 := @Layout.applicationDirection _ _ _ layout clear 0 1872 336 352 (by decide) (by decide) (by decide)
    (by decide) (by decide)
  have place2 := @Layout.applicationDirection _ _ _ layout clear 12 1904 368 384 (by decide) (by decide) (by decide)
    (by decide) (by decide)
  obtain ⟨-,key1,iv1,changes1⟩ := deriveTraffic_derives place1 m
  obtain ⟨-,key2,iv2,changes2⟩ := deriveTraffic_derives place2 m1
  simp only [Nat.add_zero] at key1 iv1
  change ChangesOnly _ m m1 at changes1
  have labels1 : slice m1 A.as 29 = asLabels := by rw [changes1.slice (by simp; omega),labels]
  have master1 : slice m1 (A.tls_state+240) 32 = masterSecret shared := by rw [changes1.slice (by simp; omega),master]
  have hash1 : slice m1 x0 32 = h2 := changes1.slice (by simp; omega)
  have label {m : Mem} (held : slice m A.as 29 = asLabels) :
      slice m A.as 12 = ascii "c ap traffic" ∧ slice m (A.as+12) 12 = ascii "s ap traffic" ∧
        slice m (A.as+24) 3 = ascii "key" ∧ slice m (A.as+27) 2 = ascii "iv" :=
    ⟨label_slice held (a := 0) (by decide),label_slice held (by decide),label_slice held (by decide),
      label_slice held (by decide)⟩
  rw [master,(label labels).1] at key1 iv1
  rw [(label labels).2.2.1] at key1
  rw [(label labels).2.2.2] at iv1
  rw [master1,(label labels1).2.1,hash1] at key2 iv2
  rw [(label labels1).2.2.1] at key2
  rw [(label labels1).2.2.2] at iv2
  refine ⟨?_,?_,key2,iv2,?_⟩
  · rw [changes2.slice (by simp; omega)]
    exact key1
  · rw [changes2.slice (by simp; omega)]
    exact iv1
  · refine (changes1.mono ?_).trans (changes2.mono ?_)
    · simp
    · simp

theorem application_derives (layout : Layout A base) (clear : HashClear A base x0) {m : Mem}
    (labels : slice m A.as 29 = asLabels)
    {shared : List UInt8} (master : slice m (A.tls_state+240) 32 = masterSecret shared) :
    let m' := tls_derive_application_secrets A m (base+1936) x0
    ApplicationKeys A m' shared (slice m x0 32) ∧
      ChangesOnly [(base,1936),(A.tls_state+336,80),(A.tls_client_gcm_ctx,304),(A.tls_server_gcm_ctx,304)] m m' := by
  intro m'
  have frame : base + 1936 - 96 = base + 96 + 1744 := Nat.add_sub_assoc (by decide) base
  have slot1 : base + 96 + 1744 + 32 = base + 1872 := by omega
  have slot2 : base + 96 + 1744 + 64 = base + 1904 := by omega
  simp only [m',tls_derive_application_secrets,frame,slot1,slot2]
  obtain ⟨key1,iv1,key2,iv2,changes2⟩ := applicationTraffic_derives layout clear labels master
  generalize deriveTraffic
    (deriveTraffic m (base+96+1744) (A.tls_state+240) A.as 12 x0 (base+1872) (A.as+24) (A.as+27) (A.tls_state+336)
    (A.tls_state+352)) (base+96+1744) (A.tls_state+240) (A.as+12) 12 x0 (base+1904) (A.as+24) (A.as+27)
    (A.tls_state+368) (A.tls_state+384) = m2 at key1 iv1 key2 iv2 changes2 ⊢
  obtain ⟨clientContext,serverContext,changes3⟩ := @contexts_init _ _ layout m2 336 368 (by decide)
  rw [key1] at clientContext
  rw [key2] at serverContext
  generalize aes_gcm_ctx_init (aes_gcm_ctx_init m2 (A.tls_state+336) A.tls_client_gcm_ctx)
    (A.tls_state+368) A.tls_server_gcm_ctx = m3
    at clientContext serverContext changes3 ⊢
  have stackState := layout.stackState
  have stateClient := layout.stateClient
  have stateServer := layout.stateServer
  unfold Clear at stackState stateClient stateServer
  have zeroed : ChangesOnly [(A.tls_state+400,16)] m3
      (str (str m3 (A.tls_state+400) (0 : BitVec 64)) (A.tls_state+408) (0 : BitVec 64)) := by
    intro i outside
    have := outside (A.tls_state+400,16) (by simp)
    rw [str_outside _ (by omega),str_outside _ (by omega)]
  have field {a n : Nat} (inside : a + n ≤ 400) :
      slice (str (str m3 (A.tls_state+400) (0 : BitVec 64)) (A.tls_state+408) (0 : BitVec 64)) (A.tls_state+a) n =
        slice m2 (A.tls_state+a) n := by
    rw [zeroed.slice (by simp; omega),changes3.slice (by simp; omega)]
  refine ⟨⟨?_,?_,?_,?_,?_,?_,?_,?_⟩,?_⟩
  · rw [field (by decide),key1]
  · rw [field (by decide),iv1]
  · rw [field (by decide),key2]
  · rw [field (by decide),iv2]
  · rw [ldr_str_apart 8 rfl (by decide) _ (by omega),ldr_str 8 rfl (by decide)]
  · exact ldr_str 8 rfl (by decide) _ _ _
  · exact context_changes clientContext zeroed (by simp; omega)
  · exact context_changes serverContext zeroed (by simp; omega)
  · refine (changes2.mono ?_).trans ((changes3.mono ?_).trans (zeroed.mono ?_))
    · simp
    · simp
    · simp

end

/-- One function and then the other, which finds the memory `m2`: what the first wrote in the state is
    still there, whatever else has changed. -/
theorem key_schedule (A : Image) (base : Nat) (layout : Layout A base) (m m2 : Mem) (x0 x0' : Nat)
    (clear : HashClear A base x0)
    (clear' : HashClear A base x0') (labels : slice m A.khs 36 = khsLabels)
    (empty : slice m (A.khs+48) 32 = khs_empty_hash)
    (secrets : slice m2 (A.tls_state+208) 124 = slice (tls_derive_handshake_secrets A m (base+1936) x0)
    (A.tls_state+208) 124)
    (traffic : slice m2 (A.tls_state+480) 64 = slice (tls_derive_handshake_secrets A m (base+1936) x0)
    (A.tls_state+480) 64)
    (labels' : slice m2 A.as 29 = asLabels) :
    let m1 := tls_derive_handshake_secrets A m (base+1936) x0
    let m3 := tls_derive_application_secrets A m2 (base+1936) x0'
    let shared := slice m (A.tls_state+144) 32
    let h1 := slice m x0 32
    let h2 := slice m2 x0' 32
    Context (trafficKey (clientHandshakeTraffic shared h1)) m1 A.tls_client_gcm_ctx ∧
      Context (trafficKey (serverHandshakeTraffic shared h1)) m1 A.tls_server_gcm_ctx ∧
      HandshakeKeys A m3 shared h1 ∧ ApplicationKeys A m3 shared h2 := by
  intro m1 m3 shared h1 h2
  obtain ⟨keys,clientContext,serverContext,-⟩ := handshake_derives layout clear labels empty
  have low {a n : Nat} (inside : a + n ≤ 124) : slice m2 (A.tls_state+208+a) n = slice m1 (A.tls_state+208+a) n := by
    rw [label_slice secrets inside,slice_drop_take inside]
  have high {a n : Nat} (inside : a + n ≤ 64) : slice m2 (A.tls_state+480+a) n = slice m1 (A.tls_state+480+a) n := by
    rw [label_slice traffic inside,slice_drop_take inside]
  have master : slice m2 (A.tls_state+240) 32 = masterSecret shared := (low (a := 32) (by decide)).trans keys.masterSecret
  obtain ⟨application,changes⟩ := application_derives layout clear' labels' master
  have field {a n : Nat} (inside : a + n ≤ 336 ∨ 416 ≤ a) (within : a + n ≤ 544) : slice m3 (A.tls_state+a) n =
      slice m2 (A.tls_state+a) n := by
    have stackState := layout.stackState
    have stateClient := layout.stateClient
    have stateServer := layout.stateServer
    unfold Clear at stackState stateClient stateServer
    exact changes.slice (by simp; omega)
  refine ⟨clientContext,serverContext,⟨?_,?_,?_,?_,?_,?_,?_,?_⟩,application⟩
  · exact (field (by decide) (by decide)).trans ((low (a := 0) (by decide)).trans keys.handshakeSecret)
  · exact (field (by decide) (by decide)).trans master
  · exact (field (by decide) (by decide)).trans ((high (a := 32) (by decide)).trans keys.clientTraffic)
  · exact (field (by decide) (by decide)).trans ((high (a := 0) (by decide)).trans keys.serverTraffic)
  · exact (field (by decide) (by decide)).trans ((low (a := 64) (by decide)).trans keys.clientKey)
  · exact (field (by decide) (by decide)).trans ((low (a := 80) (by decide)).trans keys.clientIv)
  · exact (field (by decide) (by decide)).trans ((low (a := 96) (by decide)).trans keys.serverKey)
  · exact (field (by decide) (by decide)).trans ((low (a := 112) (by decide)).trans keys.serverIv)

/-- A memory with the labels where the linker may put them. -/
def labelled : Mem := fun i =>
  if i < 8272 then (khsLabels ++ List.replicate 12 0 ++ khs_empty_hash).getD (i - 8192) 0 else asLabels.getD (i - 8272) 0

theorem key_schedule_labelled :
    let A : Image := ⟨4096,5120,6144,8192,8272⟩
    let m1 := tls_derive_handshake_secrets A labelled 1936 2048
    HandshakeKeys A (tls_derive_application_secrets A m1 1936 2048) (slice labelled 4240 32)
      (slice labelled 2048 32) := by
  intro A m1
  have layout : Layout A 0 :=
    ⟨.inr (by decide),.inr (by decide),.inr (by decide),.inr (by decide),.inr (by decide),.inr (by decide),
    .inr (by decide),.inr (by decide),.inr (by decide),.inr (by decide),.inr (by decide),.inr (by decide)⟩
  have clear : HashClear A 0 2048 := ⟨.inr (by decide),.inl (by decide)⟩
  have labels : slice labelled 8192 36 = khsLabels := by decide +kernel
  have empty : slice labelled (8192+48) 32 = khs_empty_hash := by decide +kernel
  have changes := (handshake_derives layout clear labels empty).2.2.2
  have labels' : slice m1 8272 29 = asLabels := (changes.slice (by simp [A])).trans (by decide +kernel)
  exact (key_schedule A 0 layout labelled m1 2048 2048 clear clear labels empty rfl rfl labels').2.2.1

end Sarm.KeySchedule
