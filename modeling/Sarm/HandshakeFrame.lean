import Sarm.Handshake

/-!
Where the driver of a handshake and the functions that it calls read and write: regions that no two have
anything in common of, and what a call leaves as it was.
-/
namespace Sarm.Handshake
open Sarm.Memory Sarm.Neon Sarm.KeySchedule Sarm.Transcript Sarm.Sha256
open Sarm.Hpack (ascii)

/-! ### Regions -/

inductive Region where
  | stack
  | state
  | client
  | server
  | buffers
  | transcript
  | khs
  | as
  | label
  | content
  | key
  | der
  | point
  deriving DecidableEq, Repr

/-- Start and length. The stack is the frame of the driver, its upper 192 octets, and what its calls take below it. -/
def Image.place (A : Image) (base : Nat) : Region → Nat × Nat
  | .stack => (base,2240)
  | .state => (A.tls_state,544)
  | .client => (A.tls_client_gcm_ctx,304)
  | .server => (A.tls_server_gcm_ctx,304)
  | .buffers => (A.tls_hs_msg_buf,18496)
  | .transcript => (A.tls_transcript_ctx,112)
  | .khs => (A.khs,80)
  | .as => (A.as,29)
  | .label => (A.fk_label_finished,8)
  | .content => (A.cv_content_prefix,98)
  | .key => (A.tls_priv_key,32)
  | .der => (A.tls_cert_der,A.tls_cert_der_end - A.tls_cert_der)
  | .point => (A.x25519_basepoint9,32)

/-- What is written. -/
def writable : List Region := [.stack,.state,.client,.server,.buffers,.transcript]

/-- No two regions overlap, and the message of the certificate fits into its buffer. -/
structure Layout (A : Image) (base : Nat) : Prop where
  apart : ∀ r s, r ≠ s → Clear (A.place base r).1 (A.place base r).2 (A.place base s).1 (A.place base s).2
  room : A.tls_cert_der_end - A.tls_cert_der + 13 ≤ 2048

/-- Nothing outside of these regions has changed. -/
def Touches (A : Image) (base : Nat) (regions : List Region) (m m' : Mem) : Prop :=
  ChangesOnly (regions.map (A.place base)) m m'

section
variable {A : Image} {base : Nat} {m m' m'' : Mem} {regions more : List Region}

/-- Parts of two regions. -/
theorem Layout.clear (layout : Layout A base) (r s : Region) (other : r ≠ s) {a k b n : Nat}
    (low : (A.place base r).1 ≤ a) (high : a + k ≤ (A.place base r).1 + (A.place base r).2)
    (low' : (A.place base s).1 ≤ b) (high' : b + n ≤ (A.place base s).1 + (A.place base s).2) : Clear a k b n :=
  (layout.apart r s other).part low high low' high'

theorem Touches.trans (first : Touches A base regions m m') (second : Touches A base regions m' m'') :
    Touches A base regions m m'' := ChangesOnly.trans first second

theorem Touches.mono (touches : Touches A base regions m m') (inside : ∀ r ∈ regions, r ∈ more) :
    Touches A base more m m' := by
  refine ChangesOnly.mono touches fun place there => ?_
  obtain ⟨r,member,rfl⟩ := List.mem_map.mp there
  exact ⟨A.place base r,List.mem_map_of_mem (inside r member),le_rfl,le_rfl⟩

/-- Runs inside the regions. -/
theorem touches_of {l : List (Nat × Nat)} (changes : ChangesOnly l m m')
    (inside : ∀ run ∈ l, ∃ r ∈ regions, (A.place base r).1 ≤ run.1 ∧
      run.1 + run.2 ≤ (A.place base r).1 + (A.place base r).2) : Touches A base regions m m' := by
  refine ChangesOnly.mono changes fun run there => ?_
  obtain ⟨r,member,low,high⟩ := inside run there
  exact ⟨A.place base r,List.mem_map_of_mem member,low,high⟩

/-- A part of one of them. -/
theorem touches_part (r : Region) {a n : Nat} (changes : ChangesOnly [(a,n)] m m') (low : (A.place base r).1 ≤ a)
    (high : a + n ≤ (A.place base r).1 + (A.place base r).2) : Touches A base [r] m m' :=
  touches_of changes (List.forall_mem_singleton.mpr ⟨r,List.mem_singleton_self _,low,high⟩)

/-- A part of another region is as it was. -/
theorem Touches.keeps (touches : Touches A base regions m m') (layout : Layout A base) (s : Region)
    (away : s ∉ regions) {a n : Nat} (low : (A.place base s).1 ≤ a)
    (high : a + n ≤ (A.place base s).1 + (A.place base s).2) : slice m' a n = slice m a n := by
  refine ChangesOnly.slice touches fun place there => ?_
  obtain ⟨r,member,rfl⟩ := List.mem_map.mp there
  have other : s ≠ r := fun same => away (same ▸ member)
  have apart := layout.clear s r other low high le_rfl le_rfl
  unfold Clear at apart
  omega

/-- A whole region. -/
theorem Touches.region (touches : Touches A base regions m m') (layout : Layout A base) (s : Region)
    (away : s ∉ regions) : slice m' (A.place base s).1 (A.place base s).2 = slice m (A.place base s).1 (A.place base s).2 :=
  touches.keeps layout s away le_rfl le_rfl

theorem Touches.word (touches : Touches A base regions m m') (layout : Layout A base) (s : Region)
    (away : s ∉ regions) {a : Nat} (low : (A.place base s).1 ≤ a)
    (high : a + 8 ≤ (A.place base s).1 + (A.place base s).2) : ldr 64 m' a = ldr 64 m a :=
  ldr_congr 8 rfl (by decide) (slice_eq_iff.mp (touches.keeps layout s away low high))

/-! ### What is not written -/

/-- The octets that the linker has put where the driver finds them. -/
structure Loaded (A : Image) (der key : List UInt8) (m : Mem) : Prop where
  khs : slice m A.khs 36 = khsLabels
  empty : slice m (A.khs+48) 32 = khs_empty_hash
  as : slice m A.as 29 = asLabels
  label : slice m A.fk_label_finished 8 = ascii "finished"
  content : slice m A.cv_content_prefix 98 = contentPrefix
  key : slice m A.tls_priv_key 32 = key
  der : slice m A.tls_cert_der (A.tls_cert_der_end - A.tls_cert_der) = der
  point : slice m A.x25519_basepoint9 32 = basepoint9

theorem Loaded.after {der key : List UInt8} (loaded : Loaded A der key m) (layout : Layout A base)
    (touches : Touches A base writable m m') : Loaded A der key m' where
  khs := (touches.keeps layout .khs (by decide) le_rfl (Nat.add_le_add_left (show 36 ≤ 80 by decide) _)).trans loaded.khs
  empty := (touches.keeps layout .khs (by decide) (Nat.le_add_right _ _) (Nat.add_assoc A.khs 48 32).le).trans loaded.empty
  as := (touches.region layout .as (by decide)).trans loaded.as
  label := (touches.region layout .label (by decide)).trans loaded.label
  content := (touches.region layout .content (by decide)).trans loaded.content
  key := (touches.region layout .key (by decide)).trans loaded.key
  der := (touches.region layout .der (by decide)).trans loaded.der
  point := (touches.region layout .point (by decide)).trans loaded.point

/-! ### The transcript -/

/-- The context is that of a run of updates and snapshots that these octets went into. -/
def Transcribed (ctx : Nat) (m : Mem) (l : List UInt8) : Prop :=
  ∃ m0, Streaming ctx m0 l ∧ slice m ctx 112 = slice m0 ctx 112

theorem Transcribed.kept {ctx : Nat} {l : List UInt8} (transcribed : Transcribed ctx m l)
    (same : slice m' ctx 112 = slice m ctx 112) : Transcribed ctx m' l := by
  obtain ⟨m0,run,kept⟩ := transcribed
  exact ⟨m0,run,same.trans kept⟩

theorem Transcribed.absorbed {ctx : Nat} {l : List UInt8} (transcribed : Transcribed ctx m l) : Absorbed m ctx l := by
  obtain ⟨m0,run,kept⟩ := transcribed
  exact absorbed_moved run.absorbed kept

theorem Transcribed.after {l : List UInt8} (transcribed : Transcribed A.tls_transcript_ctx m l)
    (layout : Layout A base) (touches : Touches A base regions m m') (away : .transcript ∉ regions) :
    Transcribed A.tls_transcript_ctx m' l := transcribed.kept (touches.region layout .transcript away)

/-- A message is added: its header, and the octets behind it. -/
theorem transcript_add {l : List UInt8} (transcribed : Transcribed A.tls_transcript_ctx m l) (layout : Layout A base)
    (type : UInt8) {msg len : Nat} (low : A.tls_hs_msg_buf ≤ msg) (high : msg + len ≤ A.tls_hs_msg_buf + 18496) :
    let m' := tls_transcript_add m (base+2048-8) A.tls_transcript_ctx type msg len
    Transcribed A.tls_transcript_ctx m' (l ++ (header type len ++ slice m msg len)) ∧
      Touches A base [.stack,.transcript] m m' := by
  intro m'
  obtain ⟨m0,run,kept⟩ := transcribed
  have frame : base + 2048 - 8 = base + 2040 := Nat.add_sub_assoc (by decide) base
  have scratch : Clear (base+2040) 4 A.tls_transcript_ctx 112 :=
    layout.clear .stack .transcript (by decide) (Nat.le_add_right _ _) (by simp only [Image.place]; omega) le_rfl le_rfl
  have apart : Clear (base+2040) 4 msg len :=
    layout.clear .stack .buffers (by decide) (Nat.le_add_right _ _) (by simp only [Image.place]; omega) low high
  have clear : ClearOf A.tls_transcript_ctx msg len := by
    have := layout.clear .transcript .buffers (by decide) le_rfl le_rfl low high
    unfold Clear at this
    exact this
  simp only [m',frame]
  refine ⟨⟨_,run.add kept scratch apart clear,rfl⟩,?_⟩
  have written : ChangesOnly [(base+2040,4)] m (blit m (base+2040) (ofBytes (header type len)) 4) := fun i outside =>
    blit_outside (outside (base+2040,4) (List.mem_singleton_self _))
  have same : slice (blit m (base+2040) (ofBytes (header type len)) 4) A.tls_transcript_ctx 112 =
      slice m0 A.tls_transcript_ctx 112 := (written.slice (List.forall_mem_singleton.mpr scratch)).trans kept
  have first := Streaming.update run same (show ClearOf A.tls_transcript_ctx (base+2040) 4 from scratch.symm)
  have header := first.absorbed
  have start := absorbed_moved run.absorbed same
  refine touches_of (l := [(base+2040,4),(A.tls_transcript_ctx,112)]) (fun i outside => ?_) ?_
  · have context := outside (A.tls_transcript_ctx,112) (by simp)
    have octets := outside (base+2040,4) (by simp)
    rw [tls_transcript_add,update_outside header context,update_outside start context]
    exact blit_outside octets
  · simp [Image.place]

/-- A snapshot of it. -/
theorem transcript_hash {l : List UInt8} (transcribed : Transcribed A.tls_transcript_ctx m l) (layout : Layout A base) :
    let m' := tls_transcript_hash m (base+2048-128) A.tls_transcript_ctx (base+2048+80)
    slice m' (base+2128) 32 = digest l ∧ ChangesOnly [(base+1920,112),(base+2128,32)] m m' := by
  intro m'
  have frame : base + 2048 - 128 = base + 1920 := Nat.add_sub_assoc (by decide) base
  have scratch : Clear (base+1920) 112 A.tls_transcript_ctx 112 :=
    layout.clear .stack .transcript (by decide) (Nat.le_add_right _ _) (by simp only [Image.place]; omega) le_rfl le_rfl
  obtain ⟨hash,changes⟩ := hash_snapshot transcribed.absorbed scratch (base+2128)
  simp only [m',frame]
  exact ⟨hash,changes⟩

/-! ### What the calls ask for -/

theorem Layout.keySchedule (layout : Layout A base) : KeySchedule.Layout A.toImage (base+112) where
  stackState := layout.clear .stack .state (by decide) (by simp [Image.place]) (by simp [Image.place]) le_rfl le_rfl
  stackClient := layout.clear .stack .client (by decide) (by simp [Image.place]) (by simp [Image.place]) le_rfl le_rfl
  stackServer := layout.clear .stack .server (by decide) (by simp [Image.place]) (by simp [Image.place]) le_rfl le_rfl
  stackKhs := layout.clear .stack .khs (by decide) (by simp [Image.place]) (by simp [Image.place]) le_rfl le_rfl
  stackAs := layout.clear .stack .as (by decide) (by simp [Image.place]) (by simp [Image.place]) le_rfl le_rfl
  stateClient := layout.apart .state .client (by decide)
  stateServer := layout.apart .state .server (by decide)
  stateKhs := layout.apart .state .khs (by decide)
  stateAs := layout.apart .state .as (by decide)
  clientServer := layout.apart .client .server (by decide)
  clientKhs := layout.apart .client .khs (by decide)
  serverKhs := layout.apart .server .khs (by decide)

theorem Layout.hash (layout : Layout A base) : HashClear A.toImage (base+112) (base+2128) :=
  ⟨.inr (by omega),
    layout.clear .state .stack (by decide) le_rfl le_rfl (by simp [Image.place]) (by simp [Image.place])⟩

theorem Layout.builds (layout : Layout A base) (held : slice m A.x25519_basepoint9 32 = basepoint9) :
    Builds A.toMessageImage m (base+2000) A.tls_hs_msg_buf where
  held := held
  stackState := layout.clear .stack .state (by decide) (by simp [Image.place]) (by simp [Image.place]) le_rfl le_rfl
  stackPoint := layout.clear .stack .point (by decide) (by simp [Image.place]) (by simp [Image.place]) le_rfl le_rfl
  stackOut := layout.clear .stack .buffers (by decide) (by simp [Image.place]) (by simp [Image.place]) le_rfl
    (by simp [Image.place])
  statePoint := layout.apart .state .point (by decide)
  stateOut := layout.clear .state .buffers (by decide) le_rfl le_rfl le_rfl (by simp [Image.place])

theorem Layout.signs (layout : Layout A base) (held : slice m A.cv_content_prefix 98 = contentPrefix) :
    Signs A.toSigningImage m (base+1696) (base+2128) where
  held := held
  clearPrefix := layout.clear .stack .content (by decide) (by simp [Image.place]) (by simp [Image.place]) le_rfl le_rfl
  clearKey := layout.clear .stack .key (by decide) (by simp [Image.place]) (by simp [Image.place]) le_rfl le_rfl
  clearHash := .inr (by omega)

end
end Sarm.Handshake
