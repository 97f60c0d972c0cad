import Sarm.Sha256

/-!
Runs of a streaming hash: however a message is cut into updates, and wherever between them its
transcript is looked at, what is finished is the digest of the whole.
-/
namespace Sarm.Transcript
open Sarm.Memory Sarm.Sha256

/-! ### The code -/

def tls_transcript_init (m : Mem) (ctx : Nat) : Mem := sha256_init m ctx

/-- The header of a handshake message. -/
def header (type : UInt8) (len : Nat) : List UInt8 :=
  [type,UInt8.ofNat (len / 2^16),UInt8.ofNat (len / 2^8),UInt8.ofNat len]

/-- The header is put together at `sp`. -/
def tls_transcript_add (m : Mem) (sp ctx : Nat) (type : UInt8) (msg len : Nat) : Mem :=
  let m := blit m sp (ofBytes (header type len)) 4
  sha256_update (sha256_update m ctx sp 4) ctx msg len

/-- A copy of the context at `sp`, in pairs of doublewords, is what is finished. -/
def tls_transcript_hash (m : Mem) (sp ctx out : Nat) : Mem :=
  sha256_final (copyBlocks 16 7 m sp ctx) sp out

/-! ### Runs -/

/-- A context after some updates and snapshots, and the octets of the updates. Between two calls
    anything may change but the context. -/
inductive Streaming (ctx : Nat) : Mem → List UInt8 → Prop
  | init (m : Mem) : Streaming ctx (sha256_init m ctx) []
  | update {m m' : Mem} {l : List UInt8} {data len : Nat} (run : Streaming ctx m l) (kept : slice m' ctx 112 =
    slice m ctx 112)
      (clear : ClearOf ctx data len) : Streaming ctx (sha256_update m' ctx data len) (l ++ slice m' data len)
  | snapshot {m m' : Mem} {l : List UInt8} {sp out : Nat} (run : Streaming ctx m l) (kept : slice m' ctx 112 =
    slice m ctx 112)
      (scratch : Clear sp 112 ctx 112) (clear : Clear out 32 ctx 112) : Streaming ctx
        (tls_transcript_hash m' sp ctx out) l

/-- What has been absorbed is in the octets of the context, wherever they are. -/
theorem absorbed_moved {m m' : Mem} {ctx ctx' : Nat} {l : List UInt8} (held : Absorbed m ctx l)
    (same : slice m' ctx' 112 = slice m ctx 112) : Absorbed m' ctx' l := by
  obtain ⟨whole,tail,rfl,short,buffered⟩ := held
  have octets : ∀ k off, off + k < 112 → m' (ctx'+off+k) = m (ctx+off+k) := fun k off inside => by
    rw [Nat.add_assoc,Nat.add_assoc]
    exact slice_eq_iff.mp same (off+k) inside
  have low : ldq m' ctx' = ldq m ctx := ldq_congr fun k inside => octets k 0 (by omega)
  have high : ldq m' (ctx'+16) = ldq m (ctx+16) := ldq_congr fun k inside => octets k 16 (by omega)
  have word : ∀ off, off + 8 ≤ 112 → Neon.ldr 64 m' (ctx'+off) = Neon.ldr 64 m (ctx+off) := fun off inside =>
    Neon.ldr_congr 8 rfl (by decide) fun k small => octets k off (by omega)
  refine ⟨whole,tail,rfl,short,buffered.blocks,buffered.short,?_,?_,?_,?_⟩
  · rw [HashAt,low,high]
    exact buffered.hash
  · rw [word 32 (by decide)]
    exact buffered.bitlen
  · exact (slice_congr fun k inside => octets k 40 (by omega)).trans buffered.buffer
  · rw [word 104 (by decide)]
    exact buffered.buflen

/-- A snapshot is of what has been absorbed, and changes nothing but the scratch and the output. -/
theorem hash_snapshot {m : Mem} {ctx sp : Nat} {l : List UInt8} (held : Absorbed m ctx l)
    (scratch : Clear sp 112 ctx 112) (out : Nat) :
    slice (tls_transcript_hash m sp ctx out) out 32 = digest l ∧
    ChangesOnly [(sp,112),(out,32)] m (tls_transcript_hash m sp ctx out) := by
  unfold Clear at scratch
  have copied := copyBlocks_forward 16 7 m sp ctx (by omega)
  have copy : Absorbed (copyBlocks 16 7 m sp ctx) sp l := by
    refine absorbed_moved held ?_
    rw [copied,slice_blit_same,slice_shift,Nat.add_zero]
  refine ⟨final_digest copy out,fun i outside => ?_⟩
  have apart := outside (sp,112) (by simp)
  have unwritten := outside (out,32) (by simp)
  rw [tls_transcript_hash,final_outside copy apart unwritten,copied,blit_outside apart]

theorem hash_keeps {m : Mem} {ctx sp out : Nat} {l : List UInt8} (held : Absorbed m ctx l)
    (scratch : Clear sp 112 ctx 112)
    (clear : Clear out 32 ctx 112) : slice (tls_transcript_hash m sp ctx out) ctx 112 = slice m ctx 112 :=
  (hash_snapshot held scratch out).2.slice_pair scratch clear

/-- Every run absorbs the octets of its updates. -/
theorem Streaming.absorbed {ctx : Nat} {m : Mem} {l : List UInt8} (run : Streaming ctx m l) : Absorbed m ctx l := by
  induction run with
  | init m => exact init_absorbed m ctx
  | update run kept clear ih => exact update_absorbs (absorbed_moved ih kept) clear
  | snapshot run kept scratch clear ih =>
    have held := absorbed_moved ih kept
    exact absorbed_moved held (hash_keeps held scratch clear)

theorem update_unread {ctx : Nat} {m : Mem} {l : List UInt8} (held : Absorbed m ctx l) (data len : Nat) {a n : Nat}
    (clear : ClearOf ctx a n) :
    slice (sha256_update m ctx data len) a n = slice m a n := by
  unfold ClearOf at clear
  exact slice_congr fun i inside => update_outside held (by omega)

/-- A message of the handshake is added with its header in front. -/
theorem Streaming.add {ctx sp : Nat} {m m' : Mem} {l : List UInt8} {type : UInt8} {msg len : Nat}
    (run : Streaming ctx m l)
    (kept : slice m' ctx 112 = slice m ctx 112) (scratch : Clear sp 4 ctx 112) (apart : Clear sp 4 msg len)
    (clear : ClearOf ctx msg len) :
    Streaming ctx (tls_transcript_add m' sp ctx type msg len) (l ++ (header type len ++ slice m' msg len)) := by
  have written : ChangesOnly [(sp,4)] m' (blit m' sp (ofBytes (header type len)) 4) := fun i outside =>
    blit_outside (outside (sp,4) (List.mem_singleton_self _))
  have kept' : slice (blit m' sp (ofBytes (header type len)) 4) ctx 112 = slice m ctx 112 :=
    (written.slice (List.forall_mem_singleton.mpr scratch)).trans kept
  have first := Streaming.update run kept' (show ClearOf ctx sp 4 from scratch.symm)
  have body : slice (sha256_update (blit m' sp (ofBytes (header type len)) 4) ctx sp 4) msg len = slice m' msg len := by
    have held := absorbed_moved run.absorbed kept'
    exact (update_unread held sp 4 clear).trans (written.slice (List.forall_mem_singleton.mpr apart))
  have second := Streaming.update first rfl clear
  rw [body,slice_blit_same,List.append_assoc] at second
  exact second

/-- However a message is cut, and whatever snapshots are taken, its digest comes out of the context, and
    a snapshot is that digest and leaves the context as it is. -/
theorem streaming_digest {ctx : Nat} {m m' : Mem} {l : List UInt8} (run : Streaming ctx m l)
    (kept : slice m' ctx 112 = slice m ctx 112) :
    (∀ out, slice (sha256_final m' ctx out) out 32 = digest l) ∧
    ∀ sp out, Clear sp 112 ctx 112 → slice (tls_transcript_hash m' sp ctx out) out 32 = digest l ∧
      (Clear out 32 ctx 112 → slice (tls_transcript_hash m' sp ctx out) ctx 112 = slice m' ctx 112) := by
  have held := absorbed_moved run.absorbed kept
  exact ⟨final_digest held,fun sp out scratch => ⟨(hash_snapshot held scratch out).1,hash_keeps held scratch⟩⟩

/-- Three octets in two updates, and a snapshot behind the first. -/
theorem streaming_digest_abc :
    let m := sha256_update (sha256_init (ofBytes [0x61,0x62,0x63]) 16) 16 0 1
    slice (sha256_final (sha256_update (tls_transcript_hash m 200 16 400) 16 1 2) 16 400) 400 32 =
      digest [0x61,0x62,0x63] := by
  intro m
  have start := @Streaming.init 16 (ofBytes [0x61,0x62,0x63])
  have first := @Streaming.update _ _ _ _ 0 1 start rfl (.inl (by decide))
  have looked := @Streaming.snapshot _ _ _ _ 200 400 first rfl (.inl (by decide)) (.inl (by decide))
  have second := @Streaming.update _ _ _ _ 1 2 looked rfl (.inl (by decide))
  have front : slice (sha256_init (ofBytes [0x61,0x62,0x63]) 16) 0 3 = [0x61,0x62,0x63] := by
    refine (slice_congr fun i inside => init_outside (by omega)).trans ?_
    exact slice_ofBytes [0x61,0x62,0x63]
  have unread : slice (tls_transcript_hash m 200 16 400) 1 2 = slice m 1 2 :=
    (hash_snapshot first.absorbed (.inl (by decide)) 400).2.slice (by decide)
  have rest : slice m 1 2 = slice (sha256_init (ofBytes [0x61,0x62,0x63]) 16) 1 2 :=
    update_unread start.absorbed 0 1 (.inl (by decide))
  rw [unread,rest,List.nil_append,← slice_add,front] at second
  exact (streaming_digest second rfl).1 400

end Sarm.Transcript
