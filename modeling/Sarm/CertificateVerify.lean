import Sarm.ClientHello
import Sarm.Der
import Sarm.Laying
import Sarm.P256Verify
import Sarm.Transcript

/-!
CertificateVerify: the random source, the content that is signed, and the loop that draws a nonce for
each attempt.
-/
namespace Sarm.Handshake
open Sarm.Memory Sarm.Sha256 Sarm.Transcript Sarm.P256 Sarm.Der
open Sarm.Hello (u16 vec16)
open Sarm.Hpack (ascii)

/-! ### The random source -/

/-- What a call of `getrandom` returns: as many octets as it has, none of them if it stalls, or an error.
    A source with no outcome left fails. -/
inductive RandomEvent where
  | filled (octets : List UInt8)
  | interrupted
  | failed
  deriving DecidableEq, Repr

/-- `.Lcrb_loop`, with `x20` octets to go at `x19`. -/
def crypto_random_bytes : List RandomEvent → Mem → Nat → Nat → List RandomEvent × Mem × Bool
  | random,m,_,0 => (random,m,true)
  | [],m,_,_ + 1 => ([],m,false)
  | .filled octets :: random,m,x19,x20 + 1 =>
    if octets = [] then (random,m,false)
    else
      let x0 := min octets.length (x20 + 1)
      crypto_random_bytes random (blit m x19 (ofBytes octets) x0) (x19 + x0) (x20 + 1 - x0)
  | .interrupted :: random,m,x19,x20 + 1 => crypto_random_bytes random m x19 (x20 + 1)
  | .failed :: random,m,_,_ + 1 => (random,m,false)

/-- `n` octets of the source, if it comes to give them. -/
def draw : List RandomEvent → Nat → List RandomEvent × Option (List UInt8)
  | random,0 => (random,some [])
  | [],_ + 1 => ([],none)
  | .filled octets :: random,n + 1 =>
    if octets = [] then (random,none)
    else
      let (random,rest) := draw random (n + 1 - min octets.length (n + 1))
      (random,rest.map (octets.take (n + 1) ++ ·))
  | .interrupted :: random,n + 1 => draw random (n + 1)
  | .failed :: random,_ + 1 => (random,none)

/-- Draws of 32 octets, one after the other, and what the source has left. -/
inductive Draws : List RandomEvent → List (List UInt8) → List RandomEvent → Prop where
  | none (random : List RandomEvent) : Draws random [] random
  | more {random random1 random2 : List RandomEvent} {k : List UInt8} {ks : List (List UInt8)}
    (one : draw random 32 = (random1,some k)) (rest : Draws random1 ks random2) : Draws random (k :: ks) random2

theorem crypto_random_bytes_changes (random : List RandomEvent) (m : Mem) (x19 x20 : Nat) :
    ChangesOnly [(x19,x20)] m (crypto_random_bytes random m x19 x20).2.1 := by
  fun_induction crypto_random_bytes random m x19 x20 with
  | case1 random m => exact .refl _ _
  | case2 m => exact .refl _ _
  | case3 octets random m => exact .refl _ _
  | case4 octets random m x19 x20 some_ x0 ih =>
    have here : ChangesOnly [(x19,x20+1)] m (blit m x19 (ofBytes octets) x0) := fun i outside =>
      blit_outside (by have := outside (x19,x20+1) (by simp); omega)
    refine here.trans (ih.mono ?_)
    simp
    omega
  | case5 random m x19 x20 ih => exact ih
  | case6 random m => exact .refl _ _

/-- The buffer is full of what has been drawn, or there is an error. -/
theorem crypto_random_bytes_draws (random : List RandomEvent) (m : Mem) (x19 x20 : Nat) :
    (crypto_random_bytes random m x19 x20).1 = (draw random x20).1 ∧
    match (draw random x20).2 with
    | some octets => (crypto_random_bytes random m x19 x20).2.2 = true ∧
        slice (crypto_random_bytes random m x19 x20).2.1 x19 x20 = octets
    | none => (crypto_random_bytes random m x19 x20).2.2 = false := by
  fun_induction crypto_random_bytes random m x19 x20 with
  | case1 random m x19 => exact ⟨by rw [draw],by rw [draw]; exact ⟨rfl,rfl⟩⟩
  | case2 m x19 x20 => exact ⟨rfl,rfl⟩
  | case3 random m x19 x20 => simp [draw]
  | case4 octets random m x19 x20 some_ x0 ih =>
    obtain ⟨left,delivered⟩ := ih
    have kept := crypto_random_bytes_changes random (blit m x19 (ofBytes octets) x0) (x19 + x0) (x20 + 1 - x0)
    rw [draw,if_neg some_]
    change _ ∧ match (draw random (x20 + 1 - x0)).2.map (octets.take (x20 + 1) ++ ·) with
      | some octets => _
      | none => _
    generalize draw random (x20 + 1 - x0) = drawn at left delivered
    obtain ⟨random',rest⟩ := drawn
    refine ⟨left,?_⟩
    cases rest with
    | none => exact delivered
    | some rest =>
      obtain ⟨full,text⟩ := delivered
      refine ⟨full,?_⟩
      have first : slice (crypto_random_bytes random (blit m x19 (ofBytes octets) x0) (x19 + x0) (x20 + 1 - x0)).2.1
          x19 x0 = octets.take (x20 + 1) := by
        rw [kept.slice (by simp),slice_blit_same]
        have front := slice_ofBytes_append (octets.take (x20 + 1)) (octets.drop (x20 + 1))
        rw [List.take_append_drop,List.length_take,Nat.min_comm] at front
        exact front
      calc slice _ x19 (x20 + 1) = slice _ x19 (x0 + (x20 + 1 - x0)) := by congr 1; omega
        _ = octets.take (x20 + 1) ++ rest := by rw [slice_add,first,text]
  | case5 random m x19 x20 ih => rw [draw]; exact ih
  | case6 random m x19 x20 => exact ⟨rfl,rfl⟩

/-! ### The content -/

/-- `cv_content_prefix`: 64 spaces, the context string, and a zero. -/
def contentPrefix : List UInt8 := List.replicate 64 0x20 ++ ascii "TLS 1.3, server CertificateVerify" ++ [0]

/-- What is signed, by RFC 8446 section 4.4.3. -/
def signedContent (transcriptHash : List UInt8) : List UInt8 := contentPrefix ++ transcriptHash

/-- The addresses of the private key and of the prefix. -/
structure SigningImage where
  tls_priv_key : Nat
  cv_content_prefix : Nat

/-- The context is at 32 in the frame. -/
def tls_certificate_verify_content_hash (A : SigningImage) (m : Mem) (sp x0 x1 : Nat) : Mem :=
  let sp := sp - 144
  let m := sha256_init m (sp+32)
  let m := sha256_update m (sp+32) A.cv_content_prefix 98
  let m := sha256_update m (sp+32) x1 32
  sha256_final m (sp+32) x0

theorem content_hash_digest (A : SigningImage) {m : Mem} {base x1 : Nat} (x0 : Nat)
    (held : slice m A.cv_content_prefix 98 = contentPrefix) (clearPrefix : Clear base 144 A.cv_content_prefix 98)
    (clearHash : Clear base 144 x1 32) :
    slice (tls_certificate_verify_content_hash A m (base+144) x0 x1) x0 32 = digest (signedContent (slice m x1 32)) ∧
      ChangesOnly [(base+32,112),(x0,32)] m (tls_certificate_verify_content_hash A m (base+144) x0 x1) := by
  unfold Clear at clearPrefix clearHash
  rw [tls_certificate_verify_content_hash,Nat.add_sub_cancel]
  have start := @Streaming.init (base+32) m
  have prefixKept : slice (sha256_init m (base+32)) A.cv_content_prefix 98 = contentPrefix := by
    rw [← held]
    exact slice_congr fun i inside => init_outside (by omega)
  have hashKept : slice (sha256_init m (base+32)) x1 32 = slice m x1 32 :=
    slice_congr fun i inside => init_outside (by omega)
  have first := start.update rfl (show ClearOf (base+32) A.cv_content_prefix 98 by unfold ClearOf; omega)
  have hashKept' := update_unread start.absorbed A.cv_content_prefix 98
    (show ClearOf (base+32) x1 32 by unfold ClearOf; omega)
  have second := first.update rfl (show ClearOf (base+32) x1 32 by unfold ClearOf; omega)
  rw [List.nil_append,prefixKept,hashKept',hashKept] at second
  refine ⟨final_digest second.absorbed x0,fun i outside => ?_⟩
  have context := outside (base+32,112) (by simp)
  have out := outside (x0,32) (by simp)
  rw [final_outside second.absorbed context out,update_outside first.absorbed context,
    update_outside start.absorbed context,init_outside context]

/-! ### The signature -/

/-- The digest is at 48 in the frame; `stack` is what the frame of `p256_ecdsa_sign_with_k` has in it. -/
def tls_certificate_verify_sign_with_k (comb : Nat → Nat → AffinePoint) (A : SigningImage) (m stack : Mem)
    (sp x0 x1 x2 x3 : Nat) : Mem × Nat :=
  let sp := sp - 80
  p256_ecdsa_sign_with_k comb (tls_certificate_verify_content_hash A m sp (sp+48) x2) stack x0 x1 (sp+48)
    A.tls_priv_key x3

/-- ECDSA over the content with the nonce `k`: the two numbers, unless one of them is zero. -/
noncomputable def ecdsa (d : Nat) (transcriptHash k : List UInt8) : Option (Nat × Nat) :=
  let z := Octets.value (digest (signedContent transcriptHash))
  let k := Octets.value k
  if signR k = 0 ∨ signS z d k = 0 then none else some (signR k,(signS z d k).val)

/-- What it gives is accepted for the key's point. -/
theorem ecdsa_accepts {d r s : Nat} {transcriptHash k : List UInt8} (inside : 0 < d ∧ d < order)
    (signs : ecdsa d transcriptHash k = some (r,s)) :
    Accepts (Octets.value (digest (signedContent transcriptHash))) r s (coordinates (d • base)).1.val
      (coordinates (d • base)).2.val := by
  rw [ecdsa] at signs
  split at signs
  · cases signs
  next both =>
  obtain ⟨first,second⟩ := not_or.mp both
  obtain ⟨rfl,rfl⟩ := Prod.mk.inj (Option.some.inj signs)
  refine signature_accepts inside rfl (ZMod.natCast_zmod_val _) first ⟨?_,ZMod.val_lt _⟩ rfl
  exact Nat.pos_of_ne_zero (mt (ZMod.val_eq_zero _).mp second)

theorem sign_with_k_signs {comb : Nat → Nat → AffinePoint} (table : CombTable comb) (A : SigningImage) {m : Mem}
    (stack : Mem) {base x0 x1 x2 x3 : Nat} (held : slice m A.cv_content_prefix 98 = contentPrefix)
    (clearPrefix : Clear base 224 A.cv_content_prefix 98) (clearKey : Clear base 224 A.tls_priv_key 32)
    (clearHash : Clear base 224 x2 32) (clearNonce : Clear base 224 x3 32) (apart : Clear x0 32 x1 32) :
    let d := Octets.value (slice m A.tls_priv_key 32)
    let result := tls_certificate_verify_sign_with_k comb A m stack (base+224) x0 x1 x2 x3
    match ecdsa d (slice m x2 32) (slice m x3 32) with
    | none => result.2 = 1 ∧ ChangesOnly [(base,224)] m result.1
    | some (r,s) => result.2 = 0 ∧ Octets.value (slice result.1 x0 32) = r ∧ Octets.value (slice result.1 x1 32) = s ∧
        ChangesOnly [(base,224),(x0,32),(x1,32)] m result.1 := by
  intro d result
  unfold Clear at clearPrefix clearKey clearHash clearNonce apart
  obtain ⟨hashed,changes⟩ := @content_hash_digest A m base x2 (base+192) held
    (by unfold Clear; omega) (by unfold Clear; omega)
  have frame : base + 224 - 80 = base + 144 := Nat.add_sub_assoc (by decide) base
  simp only [result,tls_certificate_verify_sign_with_k,frame,Nat.add_assoc base,Nat.reduceAdd]
  have written := sign_cases table (tls_certificate_verify_content_hash A m (base+144) (base+192) x2) stack x0 x1
    (base+192) A.tls_priv_key x3 (by omega)
  have key := changes.slice (a := A.tls_priv_key) (n := 32) (by simp; omega)
  have nonce := changes.slice (a := x3) (n := 32) (by simp; omega)
  rw [hashed,key,nonce] at written
  have inFrame : ChangesOnly [(base,224)] m (tls_certificate_verify_content_hash A m (base+144) (base+192) x2) :=
    changes.mono (by simp)
  generalize p256_ecdsa_sign_with_k comb (tls_certificate_verify_content_hash A m (base+144) (base+192) x2) stack x0 x1
    (base+192) A.tls_priv_key x3 = signed at written ⊢
  rw [ecdsa]
  dsimp only at written ⊢
  obtain ⟨failed,same⟩ | ⟨both,code,first,small,second,wrote⟩ := written
  · rw [if_pos failed,same]
    exact ⟨rfl,inFrame⟩
  · rw [if_neg (not_or.mpr both)]
    refine ⟨code,first,?_,(inFrame.mono (by simp)).trans (wrote.mono (by simp))⟩
    rw [← second,ZMod.val_cast_of_lt small]

/-! ### The message -/

/-- `TLS_ALERT_INTERNAL_ERROR`. -/
def internalError : Nat := 80

/-- `.Lcvw_try`, with `x21` attempts to go. The nonce is at 32 in the frame, the two numbers behind it. -/
def signAttempts (comb : Nat → Nat → AffinePoint) (A : SigningImage) (stack : Nat → Mem) (sp x20 : Nat) :
    Nat → List RandomEvent → Mem → List RandomEvent × Mem × Bool
  | 0,random,m => (random,m,false)
  | x21 + 1,random,m =>
    match crypto_random_bytes random m (sp+32) 32 with
    | (random,m,false) => (random,m,false)
    | (random,m,true) =>
      let (m,x0) := tls_certificate_verify_sign_with_k comb A m (stack x21) sp (sp+64) (sp+96) x20 (sp+32)
      if x0 = 0 then (random,m,true) else signAttempts comb A stack sp x20 x21 random m

/-- `.Lcvw_signed`: the signature behind its eight octets, the frame wiped, and the eight octets. -/
def writeSignature (m : Mem) (sp x19 : Nat) : Mem × Nat :=
  let (m,x9) := p256_ecdsa_der_sig_encode m (x19+8) (sp+64) (sp+96)
  let m := blit m (sp+32) (fun _ => 0) 96
  let x10 := x9 + 4
  let m := layAt m x19 (header 15 x10)
  let m := layAt m (x19+4) [4,3]
  let m := layAt m (x19+6) (u16 x9)
  (m,x10 + 4)

def tls_certificate_verify_write (comb : Nat → Nat → AffinePoint) (A : SigningImage) (stack : Nat → Mem)
    (random : List RandomEvent) (m : Mem) (sp x0 x1 : Nat) : List RandomEvent × Mem × Except Nat Nat :=
  let sp := sp - 128
  match signAttempts comb A stack sp x1 4 random m with
  | (random,m,false) => (random,blit m (sp+32) (fun _ => 0) 32,.error internalError)
  | (random,m,true) =>
    let (m,x0) := writeSignature m sp x0
    (random,m,.ok x0)

/-- What the attempts come to: some nonces that do not sign, and behind them one that does; or as many
    of them as there are attempts, or fewer and a source that fails. -/
inductive Attempted (d : Nat) (transcriptHash : List UInt8) (n : Nat) (random random' : List RandomEvent) :
    Option (Nat × Nat) → Prop where
  | signed {ks : List (List UInt8)} {k : List UInt8} {r s : Nat} (few : ks.length < n)
    (useless : ∀ k ∈ ks, ecdsa d transcriptHash k = none) (drawn : Draws random (ks ++ [k]) random')
    (signs : ecdsa d transcriptHash k = some (r,s)) : Attempted d transcriptHash n random random' (some (r,s))
  | exhausted {ks : List (List UInt8)} (all : ks.length = n) (useless : ∀ k ∈ ks, ecdsa d transcriptHash k = none)
    (drawn : Draws random ks random') : Attempted d transcriptHash n random random' none
  | failed {ks : List (List UInt8)} {random1 : List RandomEvent} (few : ks.length < n)
    (useless : ∀ k ∈ ks, ecdsa d transcriptHash k = none) (drawn : Draws random ks random1)
    (fails : draw random1 32 = (random',none)) : Attempted d transcriptHash n random random' none

/-- One attempt more in front. -/
theorem Attempted.more {d n : Nat} {transcriptHash k : List UInt8} {random random1 random' : List RandomEvent}
    {result : Option (Nat × Nat)} (one : draw random 32 = (random1,some k)) (none : ecdsa d transcriptHash k = none)
    (rest : Attempted d transcriptHash n random1 random' result) :
    Attempted d transcriptHash (n+1) random random' result := by
  cases rest with
  | @signed ks _ _ _ few useless drawn signs =>
    exact @Attempted.signed _ _ _ _ _ (k :: ks) _ _ _ (Nat.succ_lt_succ few)
      (List.forall_mem_cons.mpr ⟨none,useless⟩) (.more one drawn) signs
  | @exhausted ks all useless drawn =>
    exact @Attempted.exhausted _ _ _ _ _ (k :: ks) (congrArg Nat.succ all) (List.forall_mem_cons.mpr ⟨none,useless⟩)
      (.more one drawn)
  | @failed ks _ few useless drawn fails =>
    exact @Attempted.failed _ _ _ _ _ (k :: ks) _ (Nat.succ_lt_succ few) (List.forall_mem_cons.mpr ⟨none,useless⟩)
      (.more one drawn) fails

theorem Attempted.accepts {d n r s : Nat} {transcriptHash : List UInt8} {random random' : List RandomEvent}
    (attempted : Attempted d transcriptHash n random random' (some (r,s))) (inside : 0 < d ∧ d < order) :
    Accepts (Octets.value (digest (signedContent transcriptHash))) r s (coordinates (d • base)).1.val
      (coordinates (d • base)).2.val := by
  cases attempted with
  | signed few useless drawn signs => exact ecdsa_accepts inside signs

/-- Nothing is signed without a nonce. -/
theorem Attempted.nothing {d n : Nat} {transcriptHash : List UInt8} {random' : List RandomEvent} {r : Nat × Nat} :
    ¬Attempted d transcriptHash n [] random' (some r) := by
  intro attempted
  cases attempted with
  | @signed ks _ _ _ few useless drawn signs =>
    cases ks with
    | nil => cases drawn with | more one rest => cases one
    | cons k ks => cases drawn with | more one rest => cases one

/-- What a signature is made from, clear of the frames of the functions that make it. -/
structure Signs (A : SigningImage) (m : Mem) (base x1 : Nat) : Prop where
  held : slice m A.cv_content_prefix 98 = contentPrefix
  clearPrefix : Clear base 352 A.cv_content_prefix 98
  clearKey : Clear base 352 A.tls_priv_key 32
  clearHash : Clear base 352 x1 32

theorem Signs.after {A : SigningImage} {m m' : Mem} {base x1 : Nat} (signs : Signs A m base x1)
    (changes : ChangesOnly [(base,352)] m m') :
    Signs A m' base x1 ∧ slice m' A.tls_priv_key 32 = slice m A.tls_priv_key 32 ∧ slice m' x1 32 = slice m x1 32 := by
  have out {a n : Nat} (clear : Clear base 352 a n) : slice m' a n = slice m a n :=
    changes.slice (List.forall_mem_singleton.mpr clear)
  exact ⟨⟨(out signs.clearPrefix).trans signs.held,signs.clearPrefix,signs.clearKey,signs.clearHash⟩,
    out signs.clearKey,out signs.clearHash⟩

theorem signAttempts_attempted {comb : Nat → Nat → AffinePoint} (table : CombTable comb) (A : SigningImage)
    (stack : Nat → Mem) {base x1 : Nat} : ∀ (n : Nat) (random : List RandomEvent) (m : Mem), Signs A m base x1 →
    let d := Octets.value (slice m A.tls_priv_key 32)
    let result := signAttempts comb A stack (base+224) x1 n random m
    ChangesOnly [(base,352)] m result.2.1 ∧
      if result.2.2 = true then ∃ r s, Attempted d (slice m x1 32) n random result.1 (some (r,s)) ∧
        Octets.value (slice result.2.1 (base+288) 32) = r ∧ Octets.value (slice result.2.1 (base+320) 32) = s
      else Attempted d (slice m x1 32) n random result.1 none := by
  intro n
  induction n with
  | zero => exact fun random m _ => ⟨.refl _ _,.exhausted rfl (List.forall_mem_nil _) (.none random)⟩
  | succ n ih =>
    intro random m signs
    obtain ⟨left,delivered⟩ := crypto_random_bytes_draws random m (base+224+32) 32
    have drawnChanges := crypto_random_bytes_changes random m (base+224+32) 32
    rw [signAttempts]
    generalize crypto_random_bytes random m (base+224+32) 32 = filled at left delivered drawnChanges
    obtain ⟨random1,m1,ok⟩ := filled
    dsimp only at left delivered drawnChanges
    have changes1 : ChangesOnly [(base,352)] m m1 := drawnChanges.mono (by simp; omega)
    obtain ⟨signs1,key1,hash1⟩ := signs.after changes1
    generalize drawn : draw random 32 = one at left delivered
    obtain ⟨random1',octets⟩ := one
    subst left
    cases octets with
    | none =>
      dsimp only at delivered
      subst delivered
      exact ⟨changes1,@Attempted.failed _ _ _ _ _ [] _ (Nat.succ_pos n) (List.forall_mem_nil _) (.none random) drawn⟩
    | some k =>
      obtain ⟨rfl,nonce⟩ := delivered
      have clear {a k : Nat} (apart : Clear base 352 a k) : Clear base 224 a k :=
        apart.part le_rfl (by omega) le_rfl le_rfl
      have signed := @sign_with_k_signs _ table A m1 (stack n) base (base+224+64) (base+224+96) x1 (base+224+32)
        signs1.held (clear signs1.clearPrefix) (clear signs1.clearKey) (clear signs1.clearHash) (.inr (by omega))
        (.inr (by omega))
      rw [key1,hash1,nonce] at signed
      dsimp only
      generalize tls_certificate_verify_sign_with_k comb A m1 (stack n) (base+224) (base+224+64) (base+224+96) x1
        (base+224+32) = result at signed ⊢
      obtain ⟨m2,code⟩ := result
      dsimp only at signed ⊢
      cases signature : ecdsa (Octets.value (slice m A.tls_priv_key 32)) (slice m x1 32) k with
      | none =>
        rw [signature] at signed
        obtain ⟨rfl,changes2⟩ := signed
        have changes : ChangesOnly [(base,352)] m1 m2 := changes2.mono (by simp)
        obtain ⟨signs2,key2,hash2⟩ := signs1.after changes
        have rest := ih random1 m2 signs2
        dsimp only at rest
        rw [key2,key1,hash2,hash1] at rest
        obtain ⟨changes3,rest⟩ := rest
        rw [if_neg (by decide)]
        refine ⟨changes1.trans (changes.trans changes3),?_⟩
        split at rest
        · next ok =>
          obtain ⟨r,s,attempted,numbers⟩ := rest
          rw [if_pos ok]
          exact ⟨r,s,attempted.more drawn signature,numbers⟩
        · next failed =>
          rw [if_neg failed]
          exact rest.more drawn signature
      | some pair =>
        rw [signature] at signed
        obtain ⟨rfl,first,second,changes2⟩ := signed
        rw [if_pos rfl]
        refine ⟨changes1.trans (changes2.mono (by simp; omega)),?_⟩
        rw [if_pos rfl]
        exact ⟨pair.1,pair.2,@Attempted.signed _ _ _ _ _ [] _ _ _ (Nat.succ_pos n) (List.forall_mem_nil _)
          (.more drawn (.none random1)) signature,first,second⟩

/-- `ecdsa_secp256r1_sha256` and the signature, behind the header of the message. -/
def certificateVerify (signature : List UInt8) : List UInt8 :=
  header 15 (signature.length + 4) ++ ([4,3] ++ vec16 signature)

theorem certificateVerify_length (signature : List UInt8) : (certificateVerify signature).length = signature.length + 8 := by
  simp [certificateVerify,header,vec16,u16]

theorem signature_short {r s : List UInt8} (width : r.length = 32) (width' : s.length = 32) : (signature r s).length ≤ 72 := by
  have lengthR := content_length r
  have lengthS := content_length s
  rw [signature,element,List.length_cons,List.length_cons,List.length_append,integer_length,integer_length]
  omega

theorem writeSignature_lays {m : Mem} {sp x19 : Nat} (clear : Clear (sp+32) 96 x19 80) :
    let signature := signature (slice m (sp+64) 32) (slice m (sp+96) 32)
    signature.length ≤ 72 ∧ (writeSignature m sp x19).2 = signature.length + 8 ∧
      slice (writeSignature m sp x19).1 x19 (signature.length + 8) = certificateVerify signature ∧
      ChangesOnly [(sp+32,96),(x19,80)] m (writeSignature m sp x19).1 := by
  intro signature
  unfold Clear at clear
  have encoded := @der_sig_encode_signature m (x19+8) (sp+64) (sp+96) (by unfold Clear; omega) (by unfold Clear; omega)
  have short : signature.length ≤ 72 := signature_short (slice_length ..) (slice_length ..)
  simp only [writeSignature]
  generalize p256_ecdsa_der_sig_encode m (x19+8) (sp+64) (sp+96) = result at encoded ⊢
  obtain ⟨m1,x9⟩ := result
  obtain ⟨written,changes⟩ := encoded
  dsimp only at written changes ⊢
  have width : signature.length = x9 := by rw [← slice_length m1 (x19+8) x9,written]
  have wiped : ChangesOnly [(sp+32,96)] m1 (blit m1 (sp+32) (fun _ => 0) 96) := fun i outside =>
    blit_outside (outside (sp+32,96) (List.mem_singleton_self _))
  generalize blit m1 (sp+32) (fun _ => 0) 96 = m2 at wiped
  have inPlace : slice m2 (x19+8) x9 = signature := (wiped.slice (by simp; omega)).trans written
  have front : Lays m2 x19 (header 15 (x9+4) ++ [4,3] ++ u16 x9)
      (layAt (layAt (layAt m2 x19 (header 15 (x9+4))) (x19+4) [4,3]) (x19+6) (u16 x9)) :=
    ((Lays.octets m2 x19 (header 15 (x9+4))).append (Lays.octets _ (x19+4) [4,3])).append (Lays.octets _ (x19+6) (u16 x9))
  generalize layAt (layAt (layAt m2 x19 (header 15 (x9+4))) (x19+4) [4,3]) (x19+6) (u16 x9) = m3 at front ⊢
  have eight : (header 15 (x9+4) ++ [4,3] ++ u16 x9).length = 8 := rfl
  refine ⟨by omega,by omega,?_,?_⟩
  · have behind := front.keeps (b := x19+8) (n := x9) (.inr (by rw [eight]))
    have laid := front.laid
    rw [eight] at laid
    rw [width,Nat.add_comm,slice_add,laid,behind,inPlace,certificateVerify,vec16,width]
    rfl
  · have changes3 := front.changes
    rw [eight] at changes3
    refine (changes.mono ?_).trans ((wiped.mono ?_).trans (changes3.mono ?_))
    · simp
      omega
    · simp
    · simp

/-- A message with a signature of one of the attempts, or an error and nothing written but in the frame. -/
theorem certificate_verify_write_attempts {comb : Nat → Nat → AffinePoint} (table : CombTable comb) (A : SigningImage)
    (stack : Nat → Mem) {base x0 x1 : Nat} (random : List RandomEvent) {m : Mem} (signs : Signs A m base x1)
    (clear : Clear base 352 x0 80) :
    let d := Octets.value (slice m A.tls_priv_key 32)
    let result := tls_certificate_verify_write comb A stack random m (base+352) x0 x1
    match result.2.2 with
    | .ok n => ∃ rs ss, rs.length = 32 ∧ ss.length = 32 ∧
        Attempted d (slice m x1 32) 4 random result.1 (some (Octets.value rs,Octets.value ss)) ∧
        n = (certificateVerify (signature rs ss)).length ∧ n ≤ 80 ∧
        slice result.2.1 x0 n = certificateVerify (signature rs ss) ∧ ChangesOnly [(base,352),(x0,80)] m result.2.1
    | .error e => e = internalError ∧ Attempted d (slice m x1 32) 4 random result.1 none ∧
        ChangesOnly [(base,352)] m result.2.1 := by
  have frame : base + 352 - 128 = base + 224 := Nat.add_sub_assoc (by decide) base
  obtain ⟨changes,attempted⟩ := signAttempts_attempted table A stack 4 random m signs
  dsimp only
  rw [tls_certificate_verify_write,frame]
  dsimp only
  generalize signAttempts comb A stack (base+224) x1 4 random m = tried at changes attempted ⊢
  obtain ⟨random',m1,ok⟩ := tried
  dsimp only at changes attempted ⊢
  cases ok with
  | false =>
    have wiped : ChangesOnly [(base,352)] m1 (blit m1 (base+224+32) (fun _ => 0) 32) := by
      intro i outside
      have := outside (base,352) (List.mem_singleton_self _)
      exact blit_outside (by omega)
    exact ⟨rfl,attempted,changes.trans wiped⟩
  | true =>
    rw [if_pos rfl] at attempted
    obtain ⟨r,s,attempted,rfl,rfl⟩ := attempted
    obtain ⟨short,length,laid,wrote⟩ :=
      @writeSignature_lays m1 (base+224) x0 (clear.part (by omega) (by omega) le_rfl le_rfl)
    refine ⟨slice m1 (base+288) 32,slice m1 (base+320) 32,slice_length _ _ _,slice_length _ _ _,attempted,?_⟩
    rw [certificateVerify_length]
    refine ⟨length,by rw [length]; omega,by rw [length]; exact laid,(changes.mono (by simp)).trans (wrote.mono ?_)⟩
    simp
    omega

end Sarm.Handshake
