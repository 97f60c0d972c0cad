import Sarm.HandshakeHello

/-!
The protected flight of the server: EncryptedExtensions, Certificate, CertificateVerify and Finished, each of
them of what has gone before it.
-/
namespace Sarm.Handshake
open Sarm.Memory Sarm.Neon Sarm.KeySchedule Sarm.Transcript Sarm.Sha256 Sarm.Tls Sarm.Gcm Sarm.Outcomes Sarm.P256 Sarm.Der
open Sarm.Hpack (ascii)

section
variable {A : Image} {base : Nat} {der key given hello shared first : List UInt8} {rest : List (List UInt8)}
  {w w0 : World}

/-- What has been sent of a protected flight. -/
structure Flown (A : Image) (der key given : List UInt8) (w0 : World) (hello shared first : List UInt8)
    (rest : List (List UInt8)) (w : World) : Prop where
  running : Running A der key given w0 hello shared (first :: rest) w
  keyed : Keyed A shared (digest (hello ++ first)) w.m

/-- A writer and what sends its message. -/
theorem written_ends {f : Mem → Mem × Nat} (layout : Layout A base)
    (flown : Flown A der key given w0 hello shared first rest w) {type : UInt8} {body : List UInt8}
    (count : (f w.m).2 = (message type body).length)
    (laid : slice (f w.m).1 A.tls_hs_msg_buf (message type body).length = message type body)
    (short : (message type body).length ≤ 2048) (touches : Touches A base [.stack,.buffers] w.m (f w.m).1)
    (few : rest.length < 4) (next : HsState) :
    Ends (computing f >>= fun x20 => sendMessage A (base+2048) type x20 next) w
      (fun _ w' => Flown A der key given w0 hello shared first (rest ++ [message type body]) w' ∧
        w'.random = w.random ∧ w'.reads = w.reads ∧ w'.tls_hs_state = next)
      (fun _ w' => Stopped A given w0 w' ∧ ¬Willing 5 w0.transport.sink) := by
  refine Ends.step (a := (message type body).length) (t := { w with m := (f w.m).1 }) (by rw [computing,count]) ?_
  refine (sendMessage_ends layout (flown.running.after layout touches (by decide) (by decide) (by decide))
    (flown.keyed.after layout touches (by decide) (by decide) (by decide)) laid short few next).mono ?_ fun _ _ => id
  rintro _ w' ⟨running,keyed,more⟩
  exact ⟨⟨running,keyed⟩,more⟩

theorem sendEncryptedExtensions_ends (layout : Layout A base)
    (flown : Flown A der key given w0 hello shared first rest w) (few : rest.length < 4) :
    Ends (sendEncryptedExtensions A (base+2048)) w
      (fun _ w' => Flown A der key given w0 hello shared first (rest ++ [encryptedExtensions (ascii "h2")]) w' ∧
        w'.random = w.random ∧ w'.reads = w.reads ∧ w'.tls_hs_state = .eeSent)
      (fun _ w' => Stopped A given w0 w' ∧ ¬Willing 5 w0.transport.sink) := by
  have clear := layout.clear .state .buffers (by decide) le_rfl le_rfl (b := A.tls_hs_msg_buf) (n := 29) le_rfl
    (by simp [Image.place])
  obtain ⟨width,count,lays⟩ := encrypted_extensions_write_lays (A := A.toMessageImage) flown.running.alpnLength (by decide)
    clear
  rw [flown.running.alpn] at width lays
  have changes := lays.changes
  have laid := lays.laid
  rw [width] at changes
  rw [sendEncryptedExtensions]
  refine written_ends layout flown (count.trans width.symm) laid ?_ ?_ few .eeSent
  · exact width.trans_le (by decide)
  · exact touches_of changes (by simp [Image.place])

theorem sendCertificate_ends (layout : Layout A base) (flown : Flown A der key given w0 hello shared first rest w)
    (few : rest.length < 4) :
    Ends (sendCertificate A (base+2048)) w
      (fun _ w' => Flown A der key given w0 hello shared first (rest ++ [certificate der]) w' ∧
        w'.random = w.random ∧ w'.reads = w.reads ∧ w'.tls_hs_state = .certSent)
      (fun _ w' => Stopped A given w0 w' ∧ ¬Willing 5 w0.transport.sink) := by
  have room := layout.room
  have clear := layout.clear .der .buffers (by decide) le_rfl le_rfl (b := A.tls_hs_msg_buf)
    (n := A.tls_cert_der_end - A.tls_cert_der + 13) le_rfl (by simp only [Image.place]; omega)
  obtain ⟨width,count,lays⟩ := certificate_write_lays (A := A.toMessageImage) (m := w.m) rfl clear
  rw [flown.running.loaded.der] at width lays
  have changes := lays.changes
  have laid := lays.laid
  rw [width] at changes
  rw [sendCertificate]
  refine written_ends layout flown (count.trans width.symm) laid (width.trans_le room) ?_ few .certSent
  refine touches_of changes ?_
  simp [Image.place]
  omega

/-- What is signed is all of the messages so far. -/
theorem sendCertificateVerify_ends {comb : Nat → Nat → AffinePoint} (table : CombTable comb) (stack : Nat → Mem)
    (layout : Layout A base) (flown : Flown A der key given w0 hello shared first rest w) (few : rest.length < 4) :
    Ends (sendCertificateVerify A comb stack (base+2048)) w
      (fun _ w' => ∃ rs ss, rs.length = 32 ∧ ss.length = 32 ∧
        Attempted (Octets.value key) (digest (hello ++ (first :: rest).flatten)) 4 w.random w'.random
          (some (Octets.value rs,Octets.value ss)) ∧
        Flown A der key given w0 hello shared first (rest ++ [certificateVerify (signature rs ss)]) w' ∧
        w'.reads = w.reads ∧ w'.tls_hs_state = .cvSent)
      (fun _ w' => Stopped A given w0 w' ∧ (Willing 5 w0.transport.sink →
        Attempted (Octets.value key) (digest (hello ++ (first :: rest).flatten)) 4 w.random w'.random none)) := by
  obtain ⟨m1,taken,running1,hash,touches1,_⟩ := snapshot_run layout flown.running
  have keyed1 := flown.keyed.after layout touches1 (by decide) (by decide) (by decide)
  have buffer := layout.clear .stack .buffers (by decide) (a := base+1696) (k := 352) (b := A.tls_hs_msg_buf) (n := 80)
    (by simp [Image.place]) (by simp [Image.place]) le_rfl (by simp [Image.place])
  have attempts := certificate_verify_write_attempts table A.toSigningImage stack w.random
    (layout.signs running1.loaded.content) buffer
  dsimp only at attempts
  rw [hash,running1.loaded.key] at attempts
  rw [sendCertificateVerify]
  refine Ends.step taken ?_
  cases result : tls_certificate_verify_write comb A.toSigningImage stack w.random m1 (base+1696+352) A.tls_hs_msg_buf
    (base+2128) with
  | mk random more =>
  obtain ⟨m2,reply⟩ := more
  rw [result] at attempts
  cases reply with
  | error e => exact Ends.stop (drawing_error result) ⟨running1.stopped rfl rfl rfl,fun _ => attempts.2.1⟩
  | ok n =>
    obtain ⟨rs,ss,rsWidth,ssWidth,attempted,rfl,short,laid,changes⟩ := attempts
    have touches2 : Touches A base [.stack,.buffers] m1 m2 := touches_of changes (by simp [Image.place])
    have form : certificateVerify (signature rs ss) = message 15 ([4,3] ++ Hello.vec16 (signature rs ss)) := by
      rw [certificateVerify,message,Hello.vec16]
      simp [Hello.u16]
    have running2 := running1.after layout touches2 (by decide) (by decide) (by decide)
    have running3 : Running A der key given w0 hello shared (first :: rest)
      { w with random := random, m := m2, log := w.log ++ [.snapshot w.m] } := { running2 with }
    have keyed2 := keyed1.after layout touches2 (by decide) (by decide) (by decide)
    refine Ends.step (drawing_ok result) ?_
    rw [form] at short laid ⊢
    refine (sendMessage_ends layout running3 keyed2 laid (by omega) few .cvSent).mono ?_ fun _ _ stuck =>
      ⟨stuck.1,fun willing => absurd willing stuck.2⟩
    rintro _ w' ⟨running,keyed,drew,more⟩
    refine ⟨rs,ss,rsWidth,ssWidth,?_,⟨by rw [form]; exact running,keyed⟩,more⟩
    rw [drew]
    exact attempted

theorem sendFinished_ends (layout : Layout A base) (flown : Flown A der key given w0 hello shared first rest w)
    (few : rest.length < 4) :
    Ends (sendFinished A (base+2048)) w
      (fun _ w' => Flown A der key given w0 hello shared first (rest ++ [finished (serverSecret hello shared first)
          (digest (hello ++ (first :: rest).flatten))]) w' ∧
        w'.random = w.random ∧ w'.reads = w.reads ∧ w'.tls_hs_state = .finSent)
      (fun _ w' => Stopped A given w0 w' ∧ ¬Willing 5 w0.transport.sink) := by
  obtain ⟨m1,taken,running1,hash,touches1,_⟩ := snapshot_run layout flown.running
  have keyed1 := flown.keyed.after layout touches1 (by decide) (by decide) (by decide)
  have label := layout.clear .stack .label (by decide) (a := base+224) (k := 1824) (by simp [Image.place])
    (by simp [Image.place]) le_rfl le_rfl
  have state := layout.clear .stack .state (by decide) (a := base+224) (k := 1824) (by simp [Image.place])
    (by simp [Image.place]) le_rfl le_rfl
  have buffer := layout.clear .stack .buffers (by decide) (a := base+224) (k := 1824) (b := A.tls_hs_msg_buf) (n := 36)
    (by simp [Image.place]) (by simp [Image.place]) le_rfl (by simp [Image.place])
  obtain ⟨width,count,laid,changes⟩ := @finished_write_writes A.toMessageImage m1 (base+224) A.tls_hs_msg_buf (base+2128)
    running1.loaded.label label state (.inr (by omega)) buffer
  rw [hash,keyed1.keys.serverTraffic] at width laid
  rw [sendFinished]
  refine Ends.step taken ?_
  refine (written_ends (f := fun m => tls_finished_write A.toMessageImage m (base+2048) A.tls_hs_msg_buf (base+2048+80))
    layout ⟨running1,keyed1⟩ (count.trans width.symm) ?_ ?_ ?_ few .finSent).mono ?_ fun _ _ => id
  · exact (congrArg (slice _ _) width).trans laid
  · exact width.trans_le (by decide)
  · exact touches_of changes (by simp [Image.place])
  · exact fun _ w' sent => sent

end
end Sarm.Handshake
